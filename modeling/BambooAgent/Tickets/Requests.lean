import BambooAgent.Tickets.Service

/- Questions, approvals and the effects they authorize, and the submission of a result. -/
namespace Tickets
open SortedMaps

/-- A worker asks through its own live permit, a Supervisor or User for the active run. -/
def askingAssignment (snapshot : Snapshot) (authority : Authority) (work : Ticket) :
    Result (Option String) :=
  if authority.isWorker = true then do
    let id ← orElseErr work.activeAssignment (invalid "no active assignment")
    let a ← assignment snapshot id
    authority.worker a
    activePermit snapshot a
    return some id
  else do
    authority.supervisor
    return work.activeAssignment

def requestKind (codec : Codec) (action : Option Action) : RequestKind :=
  match action with
  | some action => .approval action (codec.hash (.action action))
  | none => .question

def newRequest (snapshot : Snapshot) (id workId : String) (assignmentId : Option String)
    (work : Ticket) (kind : RequestKind) (prompt : String) : PendingRequest where
  id := id
  workId := workId
  assignmentId := assignmentId
  generation := work.generation
  contractRevision := work.contractRevision
  promptRevision := 1
  kind := kind
  prompt := prompt
  status := .opened
  answer := none
  consumedAttempt := none
  workerPacketHash := none
  updatedSeq := snapshot.seq

def applyAsk (codec : Codec) (snapshot : Snapshot) (authority : Authority) (uuid : String)
    (ids : Ids) (workId tempId prompt : String) (action : Option Action) :
    Result (Snapshot × Ids) := do
  let work ← ticket snapshot workId
  rejectIf (work.state = .cancelled) (invalid "cancelled Work cannot ask")
  let assignmentId ← askingAssignment snapshot authority work
  rejectIf (trimIsEmpty prompt = true) (invalid "empty request prompt")
  let ids ← allocate uuid tempId ids
  return (snapshot.putRequest uuid
    (newRequest snapshot uuid workId assignmentId work (requestKind codec action) prompt), ids)

/-- Is a stopped run of the current attempt waiting for an answer? -/
def waitingRun (work : Ticket) (a : Assignment) (workId : String) : Bool :=
  a.workId = workId && a.awaitingRequest.isSome && a.processStopped &&
    a.generation = work.generation && a.contractRevision = work.contractRevision

def hasOpenRequest (snapshot : Snapshot) (workId : String) : Bool :=
  snapshot.requests.values.any (fun r => r.workId = workId && r.status = .opened)

/-- An answered Work resumes once nothing else keeps it waiting. -/
def resumeAnswered (snapshot : Snapshot) (workId : String) : Result Snapshot := do
  let current ← expect (snapshot.tickets.lookup workId) "answered ticket"
  let waiting := snapshot.assignments.values.any (fun a => waitingRun current a workId)
  let work ← expect (snapshot.tickets.lookup workId) "work"
  if waiting = true ∧ hasOpenRequest snapshot workId = false ∧ work.state = .blocked ∧
      work.paused = false ∧ work.activeAssignment = none then
    return snapshot.putTicket workId
      (touch { work with state := .ready, blocked := none } snapshot.seq)
  else return snapshot

def applyAnswer (snapshot : Snapshot) (authority : Authority) (requestId : String)
    (promptRevision : Nat) (answer : String) : Result Snapshot := do
  authority.user
  validateRequest snapshot requestId promptRevision
  let request ← expect (snapshot.requests.lookup requestId) "request"
  rejectIf (request.kind ≠ .question) (invalid "question answer cannot approve an action")
  rejectIf (trimIsEmpty answer = true) (invalid "empty answer")
  let answered := { request with
    answer := some answer
    status := .answered
    updatedSeq := snapshot.seq }
  resumeAnswered (snapshot.putRequest requestId answered) request.workId

def awaitingAnswer (work : Ticket) : Ticket :=
  { work with
    state := .blocked
    blocked := some ⟨"awaiting a precise User answer and owned process stop", .ready⟩ }

def applyYieldForInput (snapshot : Snapshot) (authority : Authority)
    (assignmentId requestId packetHash : String) : Result Snapshot := do
  let a ← assignment snapshot assignmentId
  authority.worker a
  activePermit snapshot a
  validateRequest snapshot requestId 1
  let r ← expect (snapshot.requests.lookup requestId) "yielded request"
  rejectIf (r.kind ≠ .question ∨ r.assignmentId ≠ some assignmentId ∨ r.workId ≠ a.workId ∨
      packetHash.utf8ByteSize ≠ 64 ∨ allHexdigits packetHash = false)
    (invalid "question yield binding mismatch")
  let noted := snapshot.putRequest requestId { r with workerPacketHash := some packetHash }
  let yielded ← updateAssignment noted assignmentId
    (fun a => { a with awaitingRequest := some requestId, state := .blocked })
  let work ← expect (yielded.tickets.lookup a.workId) "work"
  return yielded.putTicket a.workId (touch (awaitingAnswer work) snapshot.seq)

def hasFingerprint (request : PendingRequest) (fingerprint : String) : Bool :=
  match request.kind with
  | .approval _ actual => actual = fingerprint
  | .question => false

def applyDecideApproval (snapshot : Snapshot) (authority : Authority) (requestId : String)
    (promptRevision : Nat) (fingerprint : String) (approve : Bool) : Result Snapshot := do
  authority.user
  validateRequest snapshot requestId promptRevision
  let request ← expect (snapshot.requests.lookup requestId) "request"
  rejectIf (hasFingerprint request fingerprint = false) (invalid "action fingerprint mismatch")
  return snapshot.putRequest requestId { request with
    status := if approve = true then .approved else .denied
    updatedSeq := snapshot.seq }

def plannedEffect (fingerprint : String) : Effect :=
  ⟨fingerprint, .planned, none, none, none⟩

/-- The approval is used up and its effect is planned in the same step. -/
def consume (snapshot : Snapshot) (requestId fingerprint attemptId assignmentId : String) :
    Result Snapshot := do
  let request ← expect (snapshot.requests.lookup requestId) "request"
  let consumed := snapshot.putRequest requestId { request with
    status := .consumed
    consumedAttempt := some attemptId
    updatedSeq := snapshot.seq }
  let a ← expect (consumed.assignments.lookup assignmentId) "assignment"
  return consumed.putAssignment assignmentId
    { a with effects := a.effects.insert attemptId (plannedEffect fingerprint) }

def applyConsumeApproval (snapshot : Snapshot) (authority : Authority)
    (requestId fingerprint attemptId : String) : Result Snapshot := do
  let request ← orElseErr (snapshot.requests.lookup requestId) (invalid "request missing")
  let bound ← orElseErr request.assignmentId (invalid "approval has no execution binding")
  let a ← assignment snapshot bound
  authority.worker a
  activePermit snapshot a
  rejectIf (attemptId = "" ∨ startsWith attemptId "worker-file/" = true ∨
      hasFingerprint request fingerprint = false ∨ request.generation ≠ a.generation ∨
      request.contractRevision ≠ a.contractRevision) (invalid "approval binding mismatch")
  if request.status = .consumed ∧ request.consumedAttempt = some attemptId then return snapshot
  else do
    rejectIf (request.status ≠ .approved) (invalid "action is not approved or already consumed")
    rejectIf (a.effects.contains attemptId = true)
      (invalid "action attempt already belongs to another approval")
    consume snapshot requestId fingerprint attemptId a.id

def applyRecordEffect (snapshot : Snapshot) (authority : Authority)
    (assignmentId attemptId : String) (effect : Effect) : Result Snapshot := do
  let a ← assignment snapshot assignmentId
  authority.worker a
  activePermit snapshot a
  let old ← orElseErr (a.effects.lookup attemptId)
    (invalid "action attempt was not atomically authorized")
  rejectIf (startsWith attemptId "worker-file/" = true ∨ old.artifact ≠ effect.artifact ∨
      old.fileIntent ≠ effect.fileIntent)
    (.scopeDenied "Host file receipts cannot be supplied by Worker")
  rejectIf (old.actionFingerprint ≠ effect.actionFingerprint ∨
      validEffectTransition old.state effect.state = false ∨
      (old.state = effect.state ∧ old ≠ effect)) (invalid "invalid effect transition")
  rejectIf (effect.state = .succeeded ∧ ¬ (effect.providerReceipt.any (fun r => r ≠ "") = true))
    (invalid "successful effect requires provider receipt")
  updateAssignment snapshot assignmentId
    (fun a => { a with effects := a.effects.insert attemptId effect })

/-- A result of a superseded attempt, or one whose inputs were revoked, stays on record. -/
def staleResult (snapshot : Snapshot) (work : Ticket) (a : Assignment) : Bool :=
  decide (currentAttempt snapshot a ≠ .ok ()) || decide (work.state = .blocked) ||
    decide (dependencies snapshot work ≠ .ok a.dependencyInputs)

def newSubmission (a : Assignment) (id : String) (runtime : RuntimeReceipt)
    (artifacts : List Artifact) (evidence : List String) (stale : Bool) (seq : Nat) :
    Submission where
  id := id
  workId := a.workId
  assignmentId := a.id
  generation := a.generation
  contractRevision := a.contractRevision
  runtime := runtime
  dependencyInputs := a.dependencyInputs
  artifacts := artifacts
  evidence := evidence
  effects := a.effects
  stale := stale
  updatedSeq := seq

@[simps] def Snapshot.putSubmission (snapshot : Snapshot) (id : String) (s : Submission) :
    Snapshot :=
  { snapshot with submissions := snapshot.submissions.insert id s }

/-- A current result hands the Work over to review and ends its active run. -/
def handOver (snapshot : Snapshot) (assignmentId workId id : String) : Result Snapshot := do
  let work ← expect (snapshot.tickets.lookup workId) "work"
  let submitted := snapshot.putTicket workId (touch { work with
    state := .submitted
    currentSubmission := some id
    activeAssignment := none } snapshot.seq)
  let ended ← updateAssignment submitted assignmentId (fun a => { a with state := .submitted })
  return invalidateRequests ended workId

def applySubmit (snapshot : Snapshot) (authority : Authority) (uuid : String) (ids : Ids)
    (assignmentId tempId : String) (artifacts : List Artifact) (evidence : List String) :
    Result (Snapshot × Ids) := do
  let a ← assignment snapshot assignmentId
  authority.worker a
  rejectIf (evidence = [] ∨ artifacts = []) (invalid "submission requires artifacts and evidence")
  each artifacts validateArtifact
  let work ← ticket snapshot a.workId
  let stale := staleResult snapshot work a
  let ids ← allocate uuid tempId ids
  let runtime ← expect a.runtime "verified Runtime"
  let recorded := snapshot.putSubmission uuid
    (newSubmission a uuid runtime artifacts evidence stale snapshot.seq)
  if stale = true then return (recorded, ids)
  else do
    let handed ← handOver recorded assignmentId a.workId uuid
    return (handed, ids)

end Tickets
