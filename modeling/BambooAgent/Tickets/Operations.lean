import BambooAgent.Tickets.Requests

/- Review, control and reconciliation of Works, and the batch that carries operations. -/
namespace Tickets
open SortedMaps

def matchingSubmissionAssignment (snapshot : Snapshot) (work : Ticket) (submission : Submission) :
    Option Assignment :=
  (snapshot.assignments.lookup submission.assignmentId).filter (fun a =>
    work.currentSubmission = some submission.id && !submission.stale &&
      submission.workId = work.id && submission.generation = work.generation &&
      submission.contractRevision = work.contractRevision && a.workId = work.id &&
      a.generation = submission.generation &&
      a.contractRevision = submission.contractRevision && a.runtime = some submission.runtime)

def requireUserAcceptance (authority : Authority) (work : Ticket) : Result Unit :=
  if work.contract.userAcceptanceRequired = true then authority.user else .ok ()

def notExactSubmission : Error := invalid "acceptance requires current exact submission and evidence"

def applyAccept (snapshot : Snapshot) (authority : Authority) (workId submissionId : String)
    (evidence : List String) : Result Snapshot := do
  authority.supervisor
  let work ← ticket snapshot workId
  requireUserAcceptance authority work
  let submission ← orElseErr (snapshot.submissions.lookup submissionId)
    (invalid "submission missing")
  rejectIf (work.state ≠ .submitted ∨ work.currentSubmission ≠ some submissionId ∨
      submission.workId ≠ workId ∨ submission.stale = true ∨
      submission.generation ≠ work.generation ∨
      submission.contractRevision ≠ work.contractRevision ∨ evidence = []) notExactSubmission
  let inputs ← dependencies snapshot work
  rejectIf (inputs ≠ submission.dependencyInputs ∨ hasUnsettled submission.effects = true)
    notExactSubmission
  let source ← orElseErr (matchingSubmissionAssignment snapshot work submission)
    (.scopeDenied "acceptance Assignment differs from the exact Submission")
  rejectIf (source.processStopped = false)
    (.resourceBlocked "acceptance awaits host-confirmed process stop for the exact Assignment")
  let work ← expect (snapshot.tickets.lookup workId) "work"
  return snapshot.putTicket workId (touch { work with
    state := .accepted
    acceptedSubmission := some submissionId } snapshot.seq)

def applyAcceptGoal (snapshot : Snapshot) (authority : Authority) (goalId : String)
    (evidence : List String) : Result Snapshot := do
  authority.supervisor
  let goal ← ticket snapshot goalId
  requireUserAcceptance authority goal
  rejectIf (goal.kind ≠ .goal ∨ evidence = [] ∨ goal.state = .cancelled ∨
      snapshot.tickets.values.any
        (fun t => t.parent = some goalId && t.state ≠ .accepted) = true)
    (invalid "Goal requires its own evidence and accepted children")
  let goal ← expect (snapshot.tickets.lookup goalId) "goal"
  return snapshot.putTicket goalId (touch { goal with state := .accepted } snapshot.seq)

def applyReject (snapshot : Snapshot) (authority : Authority)
    (workId submissionId reason : String) : Result Snapshot := do
  authority.supervisor
  let work ← orElseErr (snapshot.tickets.lookup workId) (invalid "work missing")
  rejectIf (work.state ≠ .submitted ∨ work.currentSubmission ≠ some submissionId ∨ reason = "")
    (invalid "reject requires exact current submission")
  return snapshot.putTicket workId
    (touch { work with state := .ready, currentSubmission := none } snapshot.seq)

def stopForCancel (snapshot : Snapshot) (active : Option String) : Result Snapshot :=
  match active with
  | none => .ok snapshot
  | some id => updateAssignment snapshot id (fun a => { a with state := stopState a.state })

def applyCancel (snapshot : Snapshot) (authority : Authority) (workId : String) :
    Result Snapshot := do
  authority.supervisor
  let work ← orElseErr (snapshot.tickets.lookup workId) (invalid "work missing")
  let cancelled := touch { work with
    state := .cancelled
    paused := false
    blocked := none
    acceptedSubmission := none } snapshot.seq
  let stopped ← stopForCancel (snapshot.putTicket workId cancelled) work.activeAssignment
  revokeWork stopped workId

def stopForPause (snapshot : Snapshot) (active : Option String) : Result Snapshot :=
  match active with
  | none => .ok snapshot
  | some id => do
      let a ← expect (snapshot.assignments.lookup id) "assignment"
      return snapshot.putAssignment id (revokedRun snapshot.seq a)

def applyPause (snapshot : Snapshot) (authority : Authority) (workId reason : String) :
    Result Snapshot := do
  authority.supervisor
  let old ← ticket snapshot workId
  rejectIf (old.kind ≠ .work ∨ trimIsEmpty reason = true ∨
      ¬ (old.state = .draft ∨ old.state = .ready ∨ old.state = .active ∨ old.state = .blocked))
    (invalid "pause requires unfinished Work and a reason")
  let stopped ← stopForPause snapshot old.activeAssignment
  let work ← expect (stopped.tickets.lookup workId) "work"
  let paused := touch { work with
    paused := true
    state := .blocked
    blocked := some ⟨reason, .ready⟩ } snapshot.seq
  return invalidateRequests (stopped.putTicket workId paused) workId

/-- A Work released by the stop of its run goes back to Ready when only that kept it. -/
def releasedWork (work : Ticket) : Ticket :=
  if work.state = .blocked ∧ work.paused = false ∧
      work.blocked.any (fun b => b.resumeState = .ready) = true then
    { work with activeAssignment := none, state := .ready, blocked := none }
  else { work with activeAssignment := none }

def applyConfirmStopped (snapshot : Snapshot) (authority : Authority) (assignmentId : String)
    (effectsReconciled : Bool) : Result Snapshot := do
  authority.runtime
  let a ← assignment snapshot assignmentId
  rejectIf (effectsReconciled = false ∨ hasUnsettled a.effects = true)
    (.resourceBlocked "effects not reconciled")
  rejectIf (¬ (a.state = .cancelling ∨ a.state = .outcomeUnknown ∨ a.state = .failed ∨
      a.state = .submitted))
    (invalid "stop confirmation requires terminal/cancelling/unknown attempt")
  let stopped ← updateAssignment snapshot assignmentId (fun a => { a with
    processStopped := true
    state := if a.state = .submitted then .submitted else .cancelled })
  let work ← expect (stopped.tickets.lookup a.workId) "work"
  if work.activeAssignment = some assignmentId then
    return stopped.putTicket a.workId (touch (releasedWork work) snapshot.seq)
  else return stopped

/-- What the runtime's stop report makes of the attempt it names. -/
def stoppedState (effectsUnknown cancelled waiting completed : Bool) (state : AssignmentState) :
    AssignmentState :=
  if effectsUnknown = true then .outcomeUnknown
  else if cancelled = true then .cancelled
  else if waiting = true then .blocked
  else if completed = false ∧ state ≠ .submitted then .failed
  else state

def stoppedWithout (effectsUnknown cancelled : Bool) (work : Ticket) : Ticket :=
  { work with
    blocked := some ⟨if effectsUnknown = true then
        "stopped process has unreconciled external effects"
      else "Runtime stopped without a completed result", .ready⟩
    state := if cancelled = true then work.state else .blocked }

/-- The Work of a stopped run; `none` when the stop leaves its record alone. -/
def stoppedWork (effectsUnknown cancelled waiting unanswered completed : Bool) (a : Assignment)
    (work : Ticket) : Option Ticket :=
  if waiting = true ∧ effectsUnknown = false ∧ cancelled = false ∧
      a.generation = work.generation ∧ a.contractRevision = work.contractRevision then
    if unanswered = false ∧ work.paused = false then
      some { work with activeAssignment := none, state := .ready, blocked := none }
    else some { work with activeAssignment := none }
  else if (cancelled = true ∨ work.paused = true) ∧ effectsUnknown = false then
    some { work with activeAssignment := none }
  else if effectsUnknown = true ∨ completed = false then
    some (stoppedWithout effectsUnknown cancelled work)
  else none

def applyRuntimeStopped (snapshot : Snapshot) (authority : Authority) (assignmentId : String)
    (receipt : RuntimeReceipt) (completed : Bool) : Result Snapshot := do
  authority.runtime
  let a ← assignment snapshot assignmentId
  rejectIf (a.runtime ≠ some receipt) (.scopeDenied "stop proof differs from Runtime receipt")
  let effectsUnknown := hasUnsettled a.effects
  let owner ← ticket snapshot a.workId
  let cancelled := decide (owner.state = .cancelled)
  let waiting := a.awaitingRequest.isSome
  let unanswered := hasOpenRequest snapshot a.workId
  let stopped ← updateAssignment snapshot assignmentId (fun a => { a with
    processStopped := true
    state := stoppedState effectsUnknown cancelled waiting completed a.state })
  let work ← expect (stopped.tickets.lookup a.workId) "work"
  -- A late stopped run affects its own attempt only.
  if work.activeAssignment = some assignmentId then
    match stoppedWork effectsUnknown cancelled waiting unanswered completed a work with
    | none => return stopped
    | some after => return stopped.putTicket a.workId (touch after snapshot.seq)
  else return stopped

def notReconcilable : Error := invalid "canonical completed attempt cannot be reconciled"

def applyReconcileCompleted (snapshot : Snapshot) (authority : Authority) (assignmentId : String)
    (receipt : RuntimeReceipt) : Result Snapshot := do
  authority.runtime
  let a ← assignment snapshot assignmentId
  let work ← ticket snapshot a.workId
  rejectIf (a.processStopped = false ∨ a.runtime ≠ some receipt ∨
      hasUnsettled a.effects = true ∨ work.generation ≠ a.generation ∨
      work.contractRevision ≠ a.contractRevision ∨
      work.activeAssignment ≠ some assignmentId ∨ work.state = .cancelled) notReconcilable
  let inputs ← dependencies snapshot work
  rejectIf (inputs ≠ a.dependencyInputs ∨
      ¬ (a.state = .outcomeUnknown ∨ a.state = .running)) notReconcilable
  let reconciled ← updateAssignment snapshot assignmentId (fun a => { a with
    authorityEpoch := snapshot.authorityEpoch
    state := .running })
  let work ← expect (reconciled.tickets.lookup a.workId) "work"
  return reconciled.putTicket a.workId
    (touch { work with state := .active, blocked := none } snapshot.seq)

def outcomeUnknownWork (reason : String) (seq : Nat) (work : Ticket) : Ticket :=
  if work.state = .cancelled then work
  else touch { work with blocked := some ⟨reason, work.state⟩, state := .blocked } seq

def applyOutcomeUnknown (snapshot : Snapshot) (authority : Authority)
    (assignmentId reason : String) : Result Snapshot := do
  authority.runtime
  let a ← orElseErr (snapshot.assignments.lookup assignmentId) (invalid "assignment missing")
  let unknown := snapshot.putAssignment assignmentId
    (bump { a with state := .outcomeUnknown } snapshot.seq)
  let work ← expect (unknown.tickets.lookup a.workId) "work"
  return unknown.putTicket a.workId (outcomeUnknownWork reason snapshot.seq work)

/-- A run may be forgotten only when it has stopped and holds nothing any more. -/
def requireReleased (snapshot : Snapshot) (active : Option String) : Result Unit :=
  match active with
  | none => .ok ()
  | some id => do
      let a ← assignment snapshot id
      rejectIf (a.processStopped = false ∨ holdsResources a = true)
        (.resourceBlocked "old execution or unreconciled effects still own resources")

def applyReopen (snapshot : Snapshot) (authority : Authority) (workId : String) :
    Result Snapshot := do
  authority.supervisor
  let old ← ticket snapshot workId
  requireReleased snapshot old.activeAssignment
  let work ← orElseErr (snapshot.tickets.lookup workId) (invalid "work missing")
  let reopened := touch { work with
    activeAssignment := none
    paused := false
    state := .ready
    blocked := none
    acceptedSubmission := none
    currentSubmission := none } snapshot.seq
  revokeWork (snapshot.putTicket workId reopened) workId

def applyArchive (snapshot : Snapshot) (authority : Authority) (ticketId : String)
    (archived : Bool) : Result Snapshot := do
  authority.supervisor
  let work ← orElseErr (snapshot.tickets.lookup ticketId) (invalid "ticket missing")
  return snapshot.putTicket ticketId (touch { work with archived := archived } snapshot.seq)

/- Messages and imports. -/

def applyResolveMessage (codec : Codec) (snapshot : Snapshot) (authority : Authority)
    (resolution : MessageResolution) : Result Snapshot := do
  authority.supervisor
  rejectIf (resolution.ingress.isSome = true ∨ resolution.basis.isSome = true ∨
      resolution.proposal.isSome = true ∨ resolution.proposalHash.isSome = true)
    (.scopeDenied "canonical Human ingress needs its Host port")
  match snapshot.resolutions.lookup resolution.messageId with
  | some previous => do
      rejectIf (codec.canonicalBytes (.messageResolution previous) ≠
        codec.canonicalBytes (.messageResolution resolution)) .idempotencyConflict
      return snapshot
  | none => do
      let last := (snapshot.resolutions.values.map (fun r => r.ingressSeq)).foldl max 0
      rejectIf (last + 1 ≠ resolution.ingressSeq) (invalid "ingress resolution out of sequence")
      return { snapshot with
        resolutions := snapshot.resolutions.insert resolution.messageId resolution }

def applyAttachLegacy (codec : Codec) (snapshot : Snapshot) (authority : Authority)
    (source : ImportSource) : Result Snapshot := do
  authority.user
  rejectIf (source.sessionId ≠ snapshot.binding.supervisorSessionId ∨
      source.taskId ≠ "_scope_attach" ∨ source.artifact = none)
    (invalid "attach requires a verified complete Supervisor snapshot")
  match snapshot.legacyAttachment with
  | some prior => do
      rejectIf (codec.canonicalBytes (.importSource prior) ≠
        codec.canonicalBytes (.importSource source)) .idempotencyConflict
      return snapshot
  | none => return { snapshot with legacyAttachment := some source }.atLeastSchema 2

def sameImport (source : ImportSource) (work : Ticket) : Bool :=
  work.importSource.any (fun s => s.sessionId = source.sessionId &&
    s.taskId = source.taskId && s.snapshotHash = source.snapshotHash)

def importedTicket (snapshot : Snapshot) (id : String) (contract : Contract)
    (source : ImportSource) : Ticket :=
  { newTicket snapshot id .work none SortedSet.empty contract with
    state := .blocked
    blocked := some ⟨"imported legacy task requires explicit review; no runtime ownership transferred",
      .submitted⟩
    importSource := some source }

def applyImport (codec : Codec) (snapshot : Snapshot) (authority : Authority) (uuid : String)
    (ids : Ids) (tempId : String) (contract : Contract) (source : ImportSource) :
    Result (Snapshot × Ids) := do
  authority.supervisor
  validateContract codec contract
  let upgraded := if source.artifact.isSome = true then snapshot.atLeastSchema 2 else snapshot
  rejectIf (source.sessionId = "" ∨ source.taskId = "" ∨ source.snapshotHash.utf8ByteSize ≠ 64)
    (invalid "import source identity incomplete")
  match upgraded.tickets.values.find? (sameImport source) with
  | some work => return (upgraded, ids.insert tempId work.id)
  | none => do
      let ids ← allocate uuid tempId ids
      return ((upgraded.putTicket uuid (importedTicket upgraded uuid contract source)).graphChanged,
        ids)

/-- Operations that allocate nothing leave the temporary ids of their batch alone. -/
def keepIds (ids : Ids) (run : Result Snapshot) : Result (Snapshot × Ids) := do
  let next ← run
  return (next, ids)

def apply (codec : Codec) (files : Files) (snapshot : Snapshot) (authority : Authority)
    (uuid : String) (operation : Operation) (ids : Ids) : Result (Snapshot × Ids) :=
  match operation with
  | .associateProject ticketId projectId => keepIds ids do
      authority.supervisor
      Project.associate snapshot (resolve ticketId ids) projectId
  | .setProjectContext workId context => keepIds ids do
      authority.supervisor
      Project.setContext codec snapshot (resolve workId ids) context
  | .create tempId kind parent contract dependsOn =>
      applyCreate codec snapshot authority uuid ids tempId kind parent contract dependsOn
  | .setPlanningMetadata ticketId expectedRecordRevision priority expectedCompletionAt =>
      keepIds ids (Planning.set codec snapshot authority (resolve ticketId ids)
        expectedRecordRevision priority expectedCompletionAt)
  | .ready workId => keepIds ids (applyReady snapshot authority (resolve workId ids))
  | .updateContract workId contract =>
      keepIds ids (applyUpdateContract codec snapshot authority (resolve workId ids) contract)
  | .setDependencies workId dependsOn =>
      keepIds ids (applySetDependencies snapshot authority (resolve workId ids)
        (resolveAll dependsOn ids))
  | .start workId tempId workspace =>
      applyStart codec files snapshot authority uuid ids (resolve workId ids) tempId workspace
  | .admitted assignmentId receipt =>
      keepIds ids (applyAdmitted snapshot authority assignmentId receipt)
  | .running assignmentId => keepIds ids (applyRunning snapshot authority assignmentId)
  | .replacePlan assignmentId expectedPlanRevision steps =>
      keepIds ids (applyReplacePlan snapshot authority assignmentId expectedPlanRevision steps)
  | .ask workId tempId prompt action =>
      applyAsk codec snapshot authority uuid ids (resolve workId ids) tempId prompt action
  | .yieldForInput assignmentId requestId packetHash =>
      keepIds ids (applyYieldForInput snapshot authority assignmentId (resolve requestId ids)
        packetHash)
  | .answer requestId promptRevision answer =>
      keepIds ids (applyAnswer snapshot authority requestId promptRevision answer)
  | .decideApproval requestId promptRevision fingerprint approve =>
      keepIds ids (applyDecideApproval snapshot authority requestId promptRevision fingerprint
        approve)
  | .consumeApproval requestId fingerprint attemptId =>
      keepIds ids (applyConsumeApproval snapshot authority requestId fingerprint attemptId)
  | .recordEffect assignmentId attemptId effect =>
      keepIds ids (applyRecordEffect snapshot authority assignmentId attemptId effect)
  | .submit assignmentId tempId artifacts evidence =>
      applySubmit snapshot authority uuid ids assignmentId tempId artifacts evidence
  | .accept workId submissionId evidence =>
      keepIds ids (applyAccept snapshot authority workId submissionId evidence)
  | .acceptGoal goalId evidence =>
      keepIds ids (applyAcceptGoal snapshot authority goalId evidence)
  | .reject workId submissionId reason =>
      keepIds ids (applyReject snapshot authority workId submissionId reason)
  | .cancel workId => keepIds ids (applyCancel snapshot authority workId)
  | .pause workId reason => keepIds ids (applyPause snapshot authority workId reason)
  | .confirmStopped assignmentId effectsReconciled =>
      keepIds ids (applyConfirmStopped snapshot authority assignmentId effectsReconciled)
  | .runtimeStopped assignmentId receipt completed =>
      keepIds ids (applyRuntimeStopped snapshot authority assignmentId receipt completed)
  | .reconcileCompleted assignmentId receipt =>
      keepIds ids (applyReconcileCompleted snapshot authority assignmentId receipt)
  | .outcomeUnknown assignmentId reason =>
      keepIds ids (applyOutcomeUnknown snapshot authority assignmentId reason)
  | .reopen workId => keepIds ids (applyReopen snapshot authority workId)
  | .archive ticketId archived => keepIds ids (applyArchive snapshot authority ticketId archived)
  | .resolveMessage resolution =>
      keepIds ids (applyResolveMessage codec snapshot authority resolution)
  | .importLegacy tempId contract source =>
      applyImport codec snapshot authority uuid ids tempId contract source
  | .attachLegacy source => keepIds ids (applyAttachLegacy codec snapshot authority source)

/-- The authority store may not lie inside, or around, a root a worker may write to. -/
def validateStartRoot (files : Files) (writeRoot : String) : Result Unit := do
  let path ← orElseErr (files.canonicalize writeRoot) .io
  rejectIf (pathStartsWith files.root path = true ∨ pathStartsWith path files.root = true)
    (.scopeDenied "Ticket authority cannot be in a Worker write root")

def validateStartRoots (files : Files) (operation : Operation) : Result Unit :=
  match operation with
  | .start _ _ (some workspace) => each workspace.writeRoots (validateStartRoot files)
  | _ => .ok ()

def applyOperation (codec : Codec) (files : Files) (authority : Authority)
    (state : Snapshot × Ids) (operation : Operation × String) : Result (Snapshot × Ids) := do
  validateStartRoots files operation.1
  apply codec files state.1 authority operation.2 operation.1 state.2

def applyOperations (codec : Codec) (files : Files) (snapshot : Snapshot) (authority : Authority)
    (operations : List (Operation × String)) : Result (Snapshot × Ids) :=
  operations.foldlM (applyOperation codec files authority) (snapshot, SortedMap.empty)

end Tickets
