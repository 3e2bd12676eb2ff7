import BambooAgent.Tickets.Operations

/- From a command to the next published snapshot, and what a writer restart publishes. -/
namespace Tickets
open SortedMaps

inductive Health where
  | writable
  | readOnly (reason : String)
  deriving DecidableEq

def unavailable (health : Health) : Error :=
  match health with
  | .writable => .authorityUnavailable "Writable"
  | .readOnly reason => .authorityUnavailable ("ReadOnly \x7b reason: \"" ++ reason ++ "\" \x7d")

/-- Once token accounting is in use, every publication of execution facts is numbered.
    The disk may refuse a publication; then the published snapshot stays what it was. -/
def publish (snapshot : Snapshot) : Snapshot :=
  if snapshot.executionBudget.isSome = true ∨ snapshot.executionFactsSeq.isSome = true then
    { snapshot with executionFactsSeq := some snapshot.seq }
  else snapshot

/- The complete packet a worker would get. Artifacts count against the same budget. -/

def readInput (files : Files) (budgetBytes : Nat) (input : DependencyInput)
    (state : Nat × List ContextArtifact) (artifact : Artifact) :
    Result (Nat × List ContextArtifact) := do
  let stored ← fromSystem (files.readArtifact artifact budgetBytes)
  let inputBytes := state.1 + stored.1
  rejectIf (inputBytes > budgetBytes) .contextBudgetExceeded
  let utf8 ← orElseErr stored.2
    (.authorityUnavailable "input Artifact requires a supported lossless UTF-8 resolver")
  return (inputBytes, state.2 ++ [⟨input, artifact, utf8⟩])

def readInputs (files : Files) (snapshot : Snapshot) (budgetBytes : Nat)
    (state : Nat × List ContextArtifact) (input : DependencyInput) :
    Result (Nat × List ContextArtifact) := do
  let submission ← orElseErr (snapshot.submissions.lookup input.submissionId) .revisionConflict
  rejectIf (submission.workId ≠ input.workId ∨
      submission.contractRevision ≠ input.contractRevision ∨
      submission.artifacts.map (fun a => a.sha256) ≠ input.artifactHashes) .revisionConflict
  submission.artifacts.foldlM (readInput files budgetBytes input) state

def answeredInput (r : PendingRequest) : Result AnsweredInput := do
  let answer ← expect r.answer "answered question"
  return ⟨r.id, r.workId, r.assignmentId, r.generation, r.contractRevision, r.promptRevision,
    r.prompt, answer, r.updatedSeq⟩

def inputCurrent (snapshot : Snapshot) (input : DependencyInput) : Bool :=
  (snapshot.tickets.lookup input.workId).any (fun upstream => upstream.state = .accepted &&
    upstream.acceptedSubmission = some input.submissionId &&
    upstream.contractRevision = input.contractRevision)

def resultContract : String :=
  "Submit exact assignment/generation/contract/input versions, artifact hashes and evidence. Completion means submitted."

def buildContextPacket (codec : Codec) (files : Files) (snapshot : Snapshot) (a : Assignment)
    (budgetBytes : Nat) : Result WorkContextPacket := do
  let work ← expect (snapshot.tickets.lookup a.workId) "packet ticket"
  rejectIf (work.contractRevision ≠ a.contractRevision ∨ work.generation ≠ a.generation ∨
      work.state ≠ .active ∨ work.activeAssignment ≠ some a.id ∨
      a.dependencyInputs.any (fun input => !inputCurrent snapshot input) = true)
    .revisionConflict
  rejectIf (¬ (128 ≤ budgetBytes ∧ budgetBytes ≤ workContextBytesLimit)) .contextBudgetExceeded
  let read ← a.dependencyInputs.foldlM (readInputs files snapshot budgetBytes) (0, [])
  let answers ← (snapshot.requests.values.filter (fun r => r.workId = work.id &&
    r.contractRevision = a.contractRevision && r.generation < a.generation &&
    r.kind = .question && r.status = .answered)).mapM answeredInput
  let packet : WorkContextPacket := {
    projectContext := (snapshot.project.assignmentContexts.lookup a.id).bind
      snapshot.project.contexts.lookup
    contractRef := work.id
    contractRevision := work.contractRevision
    generation := a.generation
    assignmentId := a.id
    binding := snapshot.binding
    contract := work.contract
    inputs := a.dependencyInputs
    inputArtifacts := read.2
    workspace := a.workspace
    answers := answers
    resultContract := resultContract }
  rejectIf (codec.size (.contextPacket packet) > budgetBytes) .contextBudgetExceeded
  return packet

/-- The packet of an assignment this publication makes and leaves active. -/
def validateNewContext (codec : Codec) (files : Files) (before next : Snapshot)
    (a : Assignment) : Result Unit := do
  if before.assignments.contains a.id = true then return ()
  else do
    let work ← expect (next.tickets.lookup a.workId) "assigned ticket"
    if work.activeAssignment = some a.id then do
      let _ ← buildContextPacket codec files next a workContextBytesLimit
    else return ()

def validateNewAssignmentContexts (codec : Codec) (files : Files) (before next : Snapshot) :
    Result Unit :=
  each next.assignments.values (validateNewContext codec files before next)

/-- Is the answer new, or does the Work it belongs to get another context? -/
def answerTouched (before next : Snapshot) (r : PendingRequest) : Bool :=
  r.kind = .question && r.status = .answered &&
    ((before.requests.lookup r.id).map (fun old => old.answer) ≠ some r.answer ||
      (before.project.workContexts.lookup r.workId ≠ next.project.workContexts.lookup r.workId &&
        (next.tickets.lookup r.workId).any
          (fun work => work.contractRevision = r.contractRevision)))

def latestRun (next : Snapshot) (workId : String) (contractRevision : Nat) : Option Assignment :=
  (next.assignments.values.filter
    (fun a => a.workId = workId && a.contractRevision = contractRevision)).foldl
    (fun best a => match best with
      | none => some a
      | some b => if b.generation ≤ a.generation then some a else some b) none

def projectedId : String := "00000000-0000-0000-0000-000000000000"

/-- The assignment the next Start would make; it is measured and never published. -/
def projectedSpec (next : Snapshot) (workId : String) (work : Ticket)
    (inputs : List DependencyInput) : DispatchSpec :=
  dispatchSpec next work workId projectedId (next.project.workContexts.lookup workId) inputs
    ((latestRun next workId work.contractRevision).bind (fun a => a.workspace))

def acceptedPrerequisites (next : Snapshot) (work : Ticket) : Ticket :=
  { work with dependsOn := SortedSet.ofList (work.dependsOn.items.filter (fun id =>
    (next.tickets.lookup id).any (fun upstream => upstream.state = .accepted))) }

def validateAnswerContext (codec : Codec) (files : Files) (next : Snapshot) (workId : String) :
    Result Unit := do
  let work ← expect (next.tickets.lookup workId) "answered ticket"
  let inputs ← dependencies next (acceptedPrerequisites next work)
  let spec := projectedSpec next workId work inputs
  let dispatchKey := next.binding.scopeId ++ "/" ++ projectedId ++ "/" ++ toString spec.generation
  let projectedWork ← expect (next.tickets.lookup workId) "answer Work"
  let unadopted := { next.project with
    assignmentContexts := next.project.assignmentContexts.erase projectedId }
  let project := adoptContext unadopted projectedId spec.projectContextHash
  let projected := { next with project := project }.putTicket workId { projectedWork with
    generation := spec.generation
    state := .active
    activeAssignment := some projectedId }
  let _ ← buildContextPacket codec files projected (newAssignment spec dispatchKey next.seq)
    workContextBytesLimit

def validateAnswerContexts (codec : Codec) (files : Files) (before next : Snapshot) :
    Result Unit :=
  let works := SortedSet.ofList
    ((next.requests.values.filter (answerTouched before next)).map (fun r => r.workId))
  each works.items (validateAnswerContext codec files next)

def validateCommandSource (codec : Codec) (authority : Authority) (source : CommandSource) :
    Result Unit := do
  rejectIf (authority.isWorker = false)
    (.scopeDenied "Worker adapter input requires Worker identity")
  match source with
  | .workerTask _ isObject =>
      rejectIf (isObject = false) (invalid "adapter arguments must be an object")
  rejectIf (codec.size (.commandSource source) > 65536) (invalid "adapter input exceeds 64 KiB")

def validateAdapterInput (codec : Codec) (authority : Authority)
    (source : Option CommandSource) : Result Unit :=
  match source with
  | none => .ok ()
  | some source => validateCommandSource codec authority source

/-- The batch of a command applied to a copy of the published snapshot and checked whole. -/
def operate (codec : Codec) (files : Files) (snapshot : Snapshot) (authority : Authority)
    (operations : List (Operation × String)) : Result (Snapshot × Ids) := do
  let applied ← applyOperations codec files { snapshot with seq := snapshot.seq + 1 } authority
    operations
  validateSnapshot codec applied.1
  validateNewAssignmentContexts codec files snapshot applied.1
  validateAnswerContexts codec files snapshot applied.1
  return applied

def commandReceipt (codec : Codec) (authority : Authority) (command : Command) (seq : Nat)
    (ids : Ids) : OperationReceipt where
  operationId := command.operationId
  principal := authority.identity
  requestHash := codec.hash (.command command)
  canonicalRequest := codec.canonicalBytes (.command command)
  committedSeq := seq
  ids := ids

/-- A replayed command gets its old receipt; nothing is published for it. -/
def replay (authority : Authority) (hash : String) (receipt : OperationReceipt) :
    Result OperationReceipt := do
  rejectIf (receipt.principal ≠ authority.identity) (.scopeDenied "receipt subject")
  rejectIf (receipt.requestHash ≠ hash) .idempotencyConflict
  return receipt

/-- Each operation with the identifier that `Uuid::new_v4` would yield to it. -/
def stamped (uuids : Nat → String) : Nat → List Operation → List (Operation × String)
  | _, [] => []
  | i, operation :: rest => (operation, uuids i) :: stamped uuids (i + 1) rest

def commit (codec : Codec) (files : Files) (health : Health) (snapshot : Snapshot)
    (authority : Authority) (uuids : Nat → String) (command : Command) :
    Result (OperationReceipt × Snapshot) := do
  rejectIf (health ≠ .writable) (unavailable health)
  rejectIf (command.expectedSeq ≠ snapshot.seq ∨ command.expectedEpoch ≠ snapshot.authorityEpoch)
    .revisionConflict
  rejectIf (command.operations = [] ∨ command.operations.length > 64)
    (invalid "operation batch must contain 1..=64 operations")
  let operated ← operate codec files snapshot authority (stamped uuids 0 command.operations)
  let receipt := commandReceipt codec authority command operated.1.seq operated.2
  return (receipt, publish { operated.1 with
    receipts := operated.1.receipts.insert command.operationId receipt })

/-- The receipt of a command, and the snapshot it published unless it was replayed. -/
def execute (codec : Codec) (files : Files) (health : Health) (snapshot : Snapshot)
    (authority : Authority) (uuids : Nat → String) (command : Command) :
    Result (OperationReceipt × Option Snapshot) := do
  validateAuthority authority snapshot
  rejectIf (command.binding ≠ snapshot.binding) (.scopeDenied "command scope")
  rejectIf (command.operationId = "" ∨ command.operationId.utf8ByteSize > 256)
    (invalid "invalid operation id")
  validateAdapterInput codec authority command.source
  rejectIf (snapshot.migration.any
    (fun r => r.request.operationId = command.operationId) = true) .idempotencyConflict
  match snapshot.receipts.lookup command.operationId with
  | some receipt => do
      let old ← replay authority (codec.hash (.command command)) receipt
      return (old, none)
  | none => do
      let committed ← commit codec files health snapshot authority uuids command
      return (committed.1, some committed.2)

/- A writer restart. -/

/-- The states a running permission may be in when its writer goes away. -/
def uncertain (a : Assignment) : Bool :=
  a.state = .dispatchPending || a.state = .admitted || a.state = .running ||
    a.state = .cancelling || (a.state = .blocked && !a.processStopped)

def isolate (seq : Nat) (a : Assignment) : Assignment :=
  if uncertain a = true then
    { a with
      state := .outcomeUnknown
      updatedSeq := seq
      recordRevision := a.recordRevision + 1 }
  else a

def awaitReconciliation (seq : Nat) (work : Ticket) : Ticket :=
  touch { work with
    state := .blocked
    blocked := some ⟨"writer restarted; Runtime execution requires reconciliation", .ready⟩ } seq

/-- One round of the loop over all assignments, for the Work of an uncertain one. -/
def isolateWork (seq : Nat) (tickets : SortedMap String Ticket) (a : Assignment) :
    SortedMap String Ticket :=
  if uncertain a = true then
    match tickets.lookup a.workId with
    | none => tickets
    | some work =>
        if work.activeAssignment = some a.id ∧ work.state = .active then
          tickets.insert a.workId (awaitReconciliation seq work)
        else tickets
  else tickets

def expire (seq : Nat) (r : PendingRequest) : PendingRequest :=
  match r.kind with
  | .question => r
  | .approval _ _ =>
      if r.status = .opened ∨ r.status = .approved then
        { r with status := .expired, updatedSeq := seq }
      else r

def restarted (snapshot : Snapshot) (epoch : Nat) : Snapshot :=
  let seq := snapshot.seq + 1
  { snapshot with
    authorityEpoch := epoch
    seq := seq
    tickets := snapshot.assignments.values.foldl (isolateWork seq) snapshot.tickets
    assignments := snapshot.assignments.mapValues (isolate seq)
    requests := snapshot.requests.mapValues (expire seq) }

/-- The snapshot a writer publishes when it opens a healthy store. -/
def fromStore (codec : Codec) (snapshot : Snapshot) : Result Snapshot := do
  validateSnapshot codec snapshot
  let epoch ← orElseErr (checkedAdd snapshot.authorityEpoch 1)
    (.authorityUnavailable "epoch overflow")
  return publish (restarted snapshot epoch)

/- The activation of a migrated copy. The lineage of its commits is checked by the store. -/

def requireStopped (snapshot : Snapshot) : Result Unit :=
  rejectIf (snapshot.assignments.values.any
      (fun a => !a.processStopped || hasUnsettled a.effects) = true)
    (.resourceBlocked "owned executions or external effects are not confirmed stopped/reconciled")

def verifyReceipt (r : MigrationReceipt) (authority : Authority) (request : MigrationRequest) :
    Result Unit := do
  rejectIf (r.principal ≠ authority.identity) (.scopeDenied "migration receipt subject")
  rejectIf (r.request ≠ request) .idempotencyConflict

/-- The copy under its new epoch, once, at the commit its source was retired at. -/
def activateMigratedCopy (codec : Codec) (snapshot : Snapshot) (authority : Authority)
    (request : MigrationRequest) (retiredCommit : String) : Result Snapshot := do
  authority.user
  rejectIf (authority.binding ≠ snapshot.binding)
    (.scopeDenied "offline migration binding/subject")
  let copied ← orElseErr snapshot.migration
    (.invalidTransition "ordinary backups remain read-only")
  verifyReceipt copied authority request
  rejectIf (copied.stage ≠ .sourceRetired) (.scopeDenied "copy activation mismatch")
  requireStopped snapshot
  let seq ← orElseErr (checkedAdd snapshot.seq 1) .revisionConflict
  let epoch ← orElseErr (checkedAdd snapshot.authorityEpoch 1) .revisionConflict
  let activated := { snapshot with
    seq := seq
    authorityEpoch := epoch
    migration := some { copied with
      stage := .destinationActivated
      sourceRetiredCommit := some retiredCommit
      activatedSeq := some seq }
    requests := snapshot.requests.mapValues (expire seq) }
  validateSnapshot codec activated
  return publish activated

end Tickets
