import BambooAgent.Tickets.Invalidation

/- What one typed operation does. Every branch takes the snapshot being built and gives
   the next one; a branch that allocates also takes the fresh identifier. -/
namespace Tickets
open SortedMaps

def nativeTools : List String := ["Task", "Read", "Write"]

def validateNativeToolCeiling (tools : List String) : Result Unit := do
  rejectIf (tools.any (fun tool => !nativeTools.contains tool) = true)
    (.scopeDenied "unsupported Ticket native ceiling")
  rejectIf (tools.contains "Task" = false) (.scopeDenied "unsupported Ticket native ceiling")

def validateContract (codec : Codec) (contract : Contract) : Result Unit := do
  rejectIf (trimIsEmpty contract.title = true ∨ trimIsEmpty contract.objective = true ∨
      contract.acceptance = [] ∨ contract.acceptance.any trimIsEmpty = true)
    (invalid "contract must include title, objective and acceptance")
  validateNativeToolCeiling contract.allowedTools.items
  rejectIf (codec.size (.contract contract) > workContextBytesLimit) .contextBudgetExceeded

def validateRequest (snapshot : Snapshot) (id : String) (promptRevision : Nat) :
    Result Unit := do
  let request ← orElseErr (snapshot.requests.lookup id) (invalid "request missing")
  let work ← ticket snapshot request.workId
  rejectIf (request.status ≠ .opened ∨ request.promptRevision ≠ promptRevision ∨
      request.generation ≠ work.generation ∨ request.contractRevision ≠ work.contractRevision ∨
      work.state = .cancelled)
    (invalid "request is superseded, answered or expired")

def stepLink (steps : List LocalStep) (id : String) : Option (Option String) :=
  (steps.find? (fun step => step.id = id)).map (fun step => step.parent)

def validateStep (steps : List LocalStep) (step : LocalStep) : Result Unit := do
  rejectIf (step.status.any (fun status => (status = .completed) ≠ step.completed) = true)
    (invalid "Step status/completed mismatch")
  match Chains.guardedWalk (stepLink steps) (steps.length + 1) [] (some step.id) with
  | .ended => .ok ()
  | .missing => fail (invalid "Step parent outside LocalPlan")
  | .repeated => fail .dependencyCycle
  | .exhausted => .error .diverges

def validatePlan (steps : List LocalStep) : Result Unit := do
  rejectIf (steps.length > 256) (invalid "LocalPlan exceeds 256 Steps")
  let ids := steps.map (fun step => step.id)
  rejectIf (¬ ids.Nodup ∨ "" ∈ ids) (invalid "duplicate/empty Step id")
  each steps (validateStep steps)

def validateWriteRoot (files : Files) (root path : String) : Result Unit := do
  rejectIf (isAbsolute path = false ∨ .parentDir ∈ pathComponents path ∨ files.isDir path = false)
    (.scopeDenied "write root escapes worktree")
  let canonical ← orElseErr (files.canonicalize path) .io
  rejectIf (pathComponents canonical ≠ pathComponents path ∨ pathStartsWith path root = false)
    (.scopeDenied "write root escapes worktree")

def validateWorkspace (files : Files) (workspace : ExecutionWorkspace) : Result Unit := do
  rejectIf (workspace.repo = "" ∨ workspace.baseCommit.utf8ByteSize < 40 ∨
      workspace.branch = "" ∨ workspace.claims.isEmpty = true)
    (invalid "code Assignment needs explicit repo/base/branch/resource claims")
  let root ← orElseErr (files.canonicalize workspace.worktree) .io
  rejectIf (isAbsolute workspace.worktree = false ∨
      pathComponents workspace.worktree ≠ pathComponents root ∨ files.isDir root = false)
    (invalid "worktree must be a canonical absolute directory")
  each workspace.writeRoots (validateWriteRoot files root)

def validateArtifact (artifact : Artifact) : Result Unit :=
  rejectIf (artifact.sha256.utf8ByteSize ≠ 64 ∨ allHexdigits artifact.sha256 = false ∨
      startsWith artifact.uri "artifact://" = false ∨ artifact.uri = "artifact://" ∨
      containsText artifact.uri ".." = true ∨ containsText artifact.uri "%" = true ∨
      containsText artifact.uri "\\" = true)
    (invalid "artifact URI/hash invalid")

def validEffectTransition (source target : EffectState) : Bool :=
  source = target ||
    match source, target with
    | .planned, .started => true
    | .planned, .failedBeforeEffect => true
    | .started, .succeeded => true
    | .started, .outcomeUnknown => true
    | _, _ => false

/- Ticket creation and planning. -/

def newTicket (snapshot : Snapshot) (id : String) (kind : TicketKind) (parent : Option String)
    (dependsOn : SortedSet String) (contract : Contract) : Ticket where
  id := id
  scopeId := snapshot.binding.scopeId
  kind := kind
  parent := parent
  dependsOn := dependsOn
  recordRevision := 1
  contractRevision := 1
  generation := 0
  contract := contract
  priority := .medium
  expectedCompletionAt := none
  state := .draft
  blocked := none
  paused := false
  archived := false
  activeAssignment := none
  currentSubmission := none
  acceptedSubmission := none
  updatedSeq := snapshot.seq
  importSource := none

def resolveAll (items : SortedSet String) (ids : Ids) : SortedSet String :=
  SortedSet.ofList (items.items.map (fun item => resolve item ids))

/-- A new Ticket belongs to the Project of its parent. -/
def inheritProject (snapshot : Snapshot) (created : String) (parent : Option String) : Snapshot :=
  match parent.bind snapshot.project.links.lookup with
  | none => snapshot
  | some projectId => { snapshot with
      project := { snapshot.project with
        links := snapshot.project.links.insert created projectId } }

@[simps] def Snapshot.graphChanged (snapshot : Snapshot) : Snapshot :=
  { snapshot with graphRevision := snapshot.graphRevision + 1 }

def applyCreate (codec : Codec) (snapshot : Snapshot) (authority : Authority) (uuid : String)
    (ids : Ids) (tempId : String) (kind : TicketKind) (parent : Option String)
    (contract : Contract) (dependsOn : SortedSet String) : Result (Snapshot × Ids) := do
  authority.supervisor
  rejectIf (kind = .step) (invalid "Steps belong to Worker LocalPlan")
  validateContract codec contract
  -- The temporary id is taken first, so a Ticket may name itself as its own parent.
  let ids ← allocate uuid tempId ids
  let made := newTicket snapshot uuid kind (parent.map (fun p => resolve p ids))
    (resolveAll dependsOn ids) contract
  let inserted := snapshot.putTicket uuid made
  let created ← expect (ids.lookup tempId) "allocated temporary id"
  let stored ← expect (inserted.tickets.lookup created) "created ticket"
  return ((inheritProject inserted created stored.parent).graphChanged, ids)

def applyReady (snapshot : Snapshot) (authority : Authority) (id : String) : Result Snapshot := do
  authority.supervisor
  let work ← ticket snapshot id
  rejectIf (work.state ≠ .draft ∧ ¬ (work.paused = true ∧ work.activeAssignment = none))
    (invalid "ready requires draft or a stopped explicit pause")
  return snapshot.putTicket id
    (touch { work with state := .ready, paused := false, blocked := none } snapshot.seq)

/-- The run of an edited contract is asked to stop, whether or not it already has. -/
def stopForEdit (snapshot : Snapshot) (active : Option String) : Result Snapshot :=
  match active with
  | none => .ok snapshot
  | some id => do
      let a ← orElseErr (snapshot.assignments.lookup id) (invalid "assignment missing")
      return snapshot.putAssignment id (bump { a with state := stopState a.state } snapshot.seq)

def contractEdited (contract : Contract) (old work : Ticket) : Ticket :=
  let edited := { work with
    contract := contract
    contractRevision := work.contractRevision + 1
    acceptedSubmission := none
    currentSubmission := none }
  if old.activeAssignment.isSome = true ∨ old.paused = true then
    { edited with
      state := .blocked
      blocked := some ⟨if old.paused = true then "explicitly paused; contract changed"
        else "contract changed; waiting for old run to stop", .ready⟩ }
  else { edited with state := .ready, blocked := none }

/-- The revocations shared by contract edits, cancellation and reopening. -/
def revokeWork (snapshot : Snapshot) (workId : String) : Result Snapshot := do
  let revoked ← invalidateDependents (invalidateRequests snapshot workId) workId
  invalidateParentGoals revoked workId

def applyUpdateContract (codec : Codec) (snapshot : Snapshot) (authority : Authority)
    (workId : String) (contract : Contract) : Result Snapshot := do
  authority.supervisor
  validateContract codec contract
  let old ← ticket snapshot workId
  if old.contract = contract then return snapshot
  else do
    rejectIf (old.kind ≠ .work ∧ old.kind ≠ .goal) (invalid "cannot edit Step contract")
    let stopped ← stopForEdit snapshot old.activeAssignment
    let work ← expect (stopped.tickets.lookup workId) "work"
    revokeWork (stopped.putTicket workId
      (touch (contractEdited contract old work) snapshot.seq)) workId

def applySetDependencies (snapshot : Snapshot) (authority : Authority) (id : String)
    (dependsOn : SortedSet String) : Result Snapshot := do
  authority.supervisor
  let work ← orElseErr (snapshot.tickets.lookup id) (invalid "work not found")
  rejectIf (work.activeAssignment.isSome = true ∨ ¬ (work.state = .draft ∨ work.state = .ready))
    (invalid "dependencies frozen during execution/review")
  let changed := touch { work with
    dependsOn := dependsOn
    contractRevision := work.contractRevision + 1 } snapshot.seq
  return invalidateRequests (snapshot.putTicket id changed).graphChanged id

/- Execution. -/

def overlaps (candidate held : ExecutionWorkspace) : Bool :=
  !candidate.claims.isDisjoint held.claims ||
    candidate.writeRoots.any (fun c => held.writeRoots.any
      (fun old => pathStartsWith c old || pathStartsWith old c))

def admitWorkspace (files : Files) (snapshot : Snapshot) (workspace : Option ExecutionWorkspace) :
    Result Unit :=
  match workspace with
  | none => .ok ()
  | some candidate => do
      validateWorkspace files candidate
      let canonical ← orElseErr (files.canonicalize candidate.worktree) .io
      rejectIf (candidate.claims.contains ("worktree:" ++ canonical) = false)
        (invalid "code Assignment requires canonical worktree resource claim")
      rejectIf (snapshot.assignments.values.any
          (fun a => holdsResources a && a.workspace.any (overlaps candidate)) = true)
        (.resourceBlocked "workspace has an unconfirmed or active owner")

def fileTool (tool : String) : Bool := tool = "Read" || tool = "Write"

def dispatchSpec (snapshot : Snapshot) (work : Ticket) (workId id : String)
    (contextRef : Option String) (inputs : List DependencyInput)
    (workspace : Option ExecutionWorkspace) : DispatchSpec where
  projectContextHash := contextRef
  binding := snapshot.binding
  workId := workId
  assignmentId := id
  generation := work.generation + 1
  contractRevision := work.contractRevision
  authorityEpoch := snapshot.authorityEpoch
  contract := work.contract
  dependencyInputs := inputs
  workspace := workspace

def newAssignment (spec : DispatchSpec) (dispatchKey : String) (seq : Nat) : Assignment where
  id := spec.assignmentId
  workId := spec.workId
  generation := spec.generation
  contractRevision := spec.contractRevision
  authorityEpoch := spec.authorityEpoch
  recordRevision := 1
  state := .dispatchPending
  dispatchKey := dispatchKey
  runtime := none
  processStopped := false
  awaitingRequest := none
  dependencyInputs := spec.dependencyInputs
  plan := ⟨0, []⟩
  workspace := spec.workspace
  allowedTools := spec.contract.allowedTools
  effects := SortedMap.empty
  updatedSeq := seq

def adoptContext (project : ProjectTicketState) (id : String) (contextRef : Option String) :
    ProjectTicketState :=
  match contextRef with
  | none => project
  | some hash => { project with
      assignmentContexts := project.assignmentContexts.insert id hash }

@[simps] def Snapshot.dispatch (snapshot : Snapshot) (spec : DispatchSpec) (dispatchKey specHash : String)
    : Snapshot :=
  { snapshot with
    assignments := snapshot.assignments.insert spec.assignmentId
      (newAssignment spec dispatchKey snapshot.seq)
    project := adoptContext snapshot.project spec.assignmentId spec.projectContextHash
    intents := snapshot.intents.insert dispatchKey
      ⟨spec.assignmentId, dispatchKey, spec, specHash, none⟩ }

def applyStart (codec : Codec) (files : Files) (snapshot : Snapshot) (authority : Authority)
    (uuid : String) (ids : Ids) (workId tempId : String)
    (workspace : Option ExecutionWorkspace) : Result (Snapshot × Ids) := do
  authority.supervisor
  let work ← ticket snapshot workId
  rejectIf (work.kind ≠ .work ∨ work.state ≠ .ready ∨ work.activeAssignment.isSome = true)
    (invalid "start requires ready Work without an active Assignment")
  validateContract codec work.contract
  rejectIf (work.contract.allowedTools.items.any fileTool = true ∧
      ¬ (workspace.any (fun w => !w.writeRoots.isEmpty) = true))
    (invalid "file tools require nonempty canonical workspace write roots")
  admitWorkspace files snapshot workspace
  let contextRef ← Project.contextForStart snapshot work workspace
  let inputs ← dependencies snapshot work
  let ids ← allocate uuid tempId ids
  let dispatchKey := snapshot.binding.scopeId ++ "/" ++ uuid ++ "/" ++
    toString (work.generation + 1)
  let spec := dispatchSpec snapshot work workId uuid contextRef inputs workspace
  let dispatched := snapshot.dispatch spec dispatchKey (codec.hash (.dispatchSpec spec))
  let work ← expect (dispatched.tickets.lookup workId) "work"
  return (dispatched.putTicket workId (touch { work with
    generation := spec.generation
    activeAssignment := some uuid
    state := .active
    currentSubmission := none } snapshot.seq), ids)

def admitBeside (receipt : RuntimeReceipt) (a other : Assignment) : Result Unit := do
  rejectIf (a.workspace.any (fun mine =>
      other.workspace.any (fun theirs => !mine.claims.isDisjoint theirs.claims)) = true)
    (.resourceBlocked "workspace claim already owned")
  rejectIf (other.runtime.any (fun r => r.sessionId = receipt.sessionId) = true)
    (.resourceBlocked "Session already has a writable Assignment")

@[simps] def Snapshot.putIntent (snapshot : Snapshot) (key : String) (intent : DispatchIntent) :
    Snapshot :=
  { snapshot with intents := snapshot.intents.insert key intent }

def recordAdmission (snapshot : Snapshot) (assignmentId : String) (receipt : RuntimeReceipt) :
    Result Snapshot := do
  let a ← expect (snapshot.assignments.lookup assignmentId) "assignment"
  let admitted := snapshot.putAssignment assignmentId
    (bump { a with runtime := some receipt, state := .admitted } snapshot.seq)
  let intent ← expect (admitted.intents.lookup a.dispatchKey) "intent"
  return admitted.putIntent a.dispatchKey { intent with receipt := some receipt }

def applyAdmitted (snapshot : Snapshot) (authority : Authority) (assignmentId : String)
    (receipt : RuntimeReceipt) : Result Snapshot := do
  authority.runtime
  let a ← assignment snapshot assignmentId
  let intent ← orElseErr (snapshot.intents.lookup a.dispatchKey) (invalid "missing intent")
  rejectIf (receipt.dispatchKey ≠ a.dispatchKey ∨ receipt.specHash ≠ intent.specHash ∨
      receipt.runId = "" ∨ receipt.sessionId = "")
    (invalid "Runtime receipt does not match immutable dispatch")
  match a.runtime with
  | some previous => do
      rejectIf (previous ≠ receipt) .idempotencyConflict
      return snapshot
  | none => do
      rejectIf (a.state ≠ .dispatchPending) (invalid "assignment is not dispatchable")
      let work ← ticket snapshot a.workId
      rejectIf (work.state = .cancelled) (invalid "assignment is not dispatchable")
      each (snapshot.assignments.values.filter
        (fun other => other.id ≠ a.id && holdsResources other)) (admitBeside receipt a)
      recordAdmission snapshot assignmentId receipt

/-- Rewrite the record of an assignment that was just looked up. -/
def updateAssignment (snapshot : Snapshot) (id : String) (change : Assignment → Assignment) :
    Result Snapshot := do
  let a ← expect (snapshot.assignments.lookup id) "assignment"
  return snapshot.putAssignment id (bump (change a) snapshot.seq)

def applyRunning (snapshot : Snapshot) (authority : Authority) (assignmentId : String) :
    Result Snapshot := do
  authority.runtime
  let a ← assignment snapshot assignmentId
  rejectIf (a.state ≠ .admitted) (invalid "running requires admitted")
  activePermit snapshot a
  updateAssignment snapshot assignmentId (fun a => { a with state := .running })

def applyReplacePlan (snapshot : Snapshot) (authority : Authority) (assignmentId : String)
    (expectedPlanRevision : Nat) (steps : List LocalStep) : Result Snapshot := do
  let a ← assignment snapshot assignmentId
  authority.worker a
  activePermit snapshot a
  rejectIf (expectedPlanRevision ≠ a.plan.planRevision) .revisionConflict
  validatePlan steps
  updateAssignment snapshot assignmentId
    (fun a => { a with plan := ⟨a.plan.planRevision + 1, steps⟩ })

end Tickets
