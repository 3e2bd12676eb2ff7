import BambooAgent.Tickets.Authority

/- Project membership with its adopted execution contexts, and the owner's planning
   metadata. Neither grants anything; both are re-checked before every publication. -/
namespace Tickets
open SortedMaps

/- Updates of one record. Each of them leaves every other field of the snapshot alone. -/

@[simps] def Snapshot.putTicket (snapshot : Snapshot) (id : String) (work : Ticket) : Snapshot :=
  { snapshot with tickets := snapshot.tickets.insert id work }

@[simps] def Snapshot.putAssignment (snapshot : Snapshot) (id : String) (a : Assignment) :
    Snapshot :=
  { snapshot with assignments := snapshot.assignments.insert id a }

@[simps] def Snapshot.putRequest (snapshot : Snapshot) (id : String) (r : PendingRequest) :
    Snapshot :=
  { snapshot with requests := snapshot.requests.insert id r }

@[simps] def Snapshot.atLeastSchema (snapshot : Snapshot) (schema : Nat) : Snapshot :=
  { snapshot with schema := max snapshot.schema schema }

def projectContextBytesLimit : Nat := 16 * 1024

namespace Project

def associate (snapshot : Snapshot) (id : String) (projectId : ProjectId) : Result Snapshot := do
  let work ← orElseErr (snapshot.tickets.lookup id) (invalid "ticket not found")
  match snapshot.project.links.lookup id with
  | some existing => do
      rejectIf (existing ≠ projectId) (invalid "Project membership is immutable")
      return snapshot
  | none => do
      rejectIf (work.generation ≠ 0 ∨ work.activeAssignment.isSome = true ∨
          ¬ (work.state = .draft ∨ work.state = .ready) ∨
          snapshot.tickets.values.any (fun child => child.parent = some id) = true)
        (invalid "associate a new or unexecuted leaf Ticket only")
      let linked := { snapshot with
        project := { snapshot.project with links := snapshot.project.links.insert id projectId } }
      return (linked.atLeastSchema 5).putTicket id (touch work snapshot.seq)

/-- Project and resource counters may move; these inputs of an execution may not. -/
def sameExecutionInputs (a b : ProjectContextSnapshot) : Bool :=
  a.projectId = b.projectId && a.workspaceBinding = b.workspaceBinding &&
    a.contractRevision = b.contractRevision && a.contract = b.contract && a.sources = b.sources

def validateContext (codec : Codec) (context : ProjectContextSnapshot) : Result Unit := do
  rejectIf (codec.size (.projectContext context) > projectContextBytesLimit)
    .contextBudgetExceeded
  rejectIf (context.projectRevision = 0 ∨ context.resourceRevision = 0 ∨
      context.contractRevision = 0 ∨ context.workspaceBinding.path = "" ∨
      context.sources.size > 32 ∨
      context.sources.entries.any (fun source => source.1 = "" || source.2 = "") = true)
    (invalid "invalid bounded Project context")

/-- A live assignment keeps its inputs: only newer metadata revisions may be queued. -/
def queueContext (snapshot : Snapshot) (id : String) (work : Ticket)
    (context : ProjectContextSnapshot) : Result Unit := do
  let holder :=
    if work.state = .active ∨ work.state = .blocked then work.activeAssignment else none
  let adopted ← orElseErr
    ((holder.bind snapshot.project.assignmentContexts.lookup).bind
      snapshot.project.contexts.lookup)
    (invalid "context adoption requires stopped Draft/Ready Work")
  rejectIf (sameExecutionInputs adopted context = false)
    (invalid "running context inputs require a confirmed stop")
  let current ← orElseErr
    ((snapshot.project.workContexts.lookup id).bind snapshot.project.contexts.lookup)
    (invalid "current context missing")
  rejectIf (context.projectRevision < current.projectRevision ∨
      context.resourceRevision < current.resourceRevision) .revisionConflict

def admitContext (snapshot : Snapshot) (id : String) (work : Ticket)
    (context : ProjectContextSnapshot) : Result Unit :=
  if work.activeAssignment = none ∧ (work.state = .draft ∨ work.state = .ready) then .ok ()
  else queueContext snapshot id work context

def setContext (codec : Codec) (snapshot : Snapshot) (id : String)
    (context : ProjectContextSnapshot) : Result Snapshot := do
  let work ← orElseErr (snapshot.tickets.lookup id) (invalid "work not found")
  rejectIf (work.kind ≠ .work ∨ work.archived = true)
    (invalid "context requires an unarchived Work")
  admitContext snapshot id work context
  rejectIf (snapshot.project.links.lookup id ≠ some context.projectId ∨
      work.contractRevision ≠ context.contractRevision ∨ work.contract ≠ context.contract)
    (invalid "context Project or contract mismatch")
  validateContext codec context
  let hash := codec.hash (.projectContext context)
  let adopted := { snapshot with
    project := { snapshot.project with
      contexts := snapshot.project.contexts.insert hash context
      workContexts := snapshot.project.workContexts.insert id hash } }
  return (adopted.atLeastSchema 5).putTicket id (touch work snapshot.seq)

def contextForStart (snapshot : Snapshot) (work : Ticket)
    (workspace : Option ExecutionWorkspace) : Result (Option String) :=
  match snapshot.project.links.lookup work.id with
  | none => .ok none
  | some projectId => do
      let hash ← orElseErr (snapshot.project.workContexts.lookup work.id)
        (invalid "linked Work requires explicit Project context")
      let context ← orElseErr (snapshot.project.contexts.lookup hash) (invalid "context missing")
      rejectIf (context.projectId ≠ projectId ∨
          context.contractRevision ≠ work.contractRevision ∨ context.contract ≠ work.contract)
        (invalid "Project context is stale; adopt at a stopped boundary")
      let workspace ← orElseErr workspace
        (invalid "linked Work requires one execution workspace")
      rejectIf (workspace.repo ≠ context.workspaceBinding.path)
        (invalid "execution repository differs from adopted binding")
      return some hash

def relatives (work : Ticket) : List String := work.parent.toList ++ work.dependsOn.items

def validateLink (snapshot : Snapshot) (id : String) (projectId : ProjectId) : Result Unit := do
  let work ← orElseErr (snapshot.tickets.lookup id) (invalid "dangling Project link")
  rejectIf ((relatives work).any
      (fun other => snapshot.project.links.lookup other ≠ some projectId) = true)
    (invalid "cross-Project or unlinked containment/dependency")

def validateAdopted (snapshot : Snapshot) (id hash : String) : Result Unit := do
  let a ← orElseErr (snapshot.assignments.lookup id) (invalid "missing context Assignment")
  let context ← orElseErr (snapshot.project.contexts.lookup hash)
    (invalid "missing adopted context")
  rejectIf ((snapshot.intents.lookup a.dispatchKey).bind
        (fun intent => intent.immutableSpec.projectContextHash) ≠ some hash ∨
      snapshot.project.links.lookup a.workId ≠ some context.projectId ∨
      a.contractRevision ≠ context.contractRevision ∨
      a.workspace.map (fun w => w.repo) ≠ some context.workspaceBinding.path)
    (invalid "adopted Assignment context mismatch")

def validate (codec : Codec) (snapshot : Snapshot) : Result Unit := do
  rejectIf (snapshot.project.isEmpty = false ∧ snapshot.schema < 5)
    (invalid "Project references require schema 5")
  each snapshot.project.links.entries (fun link => validateLink snapshot link.1 link.2)
  -- Unlinked children and dependents cannot bridge into a linked tree either.
  each snapshot.tickets.values (fun work => each (relatives work) (fun other =>
    rejectIf (snapshot.project.links.lookup work.id ≠ snapshot.project.links.lookup other)
      (invalid "Project membership must match related Tickets")))
  each snapshot.project.contexts.entries (fun entry => do
    validateContext codec entry.2
    rejectIf (entry.1 ≠ codec.hash (.projectContext entry.2))
      (invalid "Project context hash mismatch"))
  each snapshot.project.workContexts.entries (fun entry => do
    let context ← orElseErr (snapshot.project.contexts.lookup entry.2)
      (invalid "missing Work context")
    rejectIf (snapshot.project.links.lookup entry.1 ≠ some context.projectId)
      (invalid "Work context Project mismatch"))
  each snapshot.project.assignmentContexts.entries
    (fun entry => validateAdopted snapshot entry.1 entry.2)
  each snapshot.assignments.values (fun a =>
    rejectIf (snapshot.project.links.contains a.workId = true ∧
        snapshot.project.assignmentContexts.contains a.id = false)
      (invalid "linked Assignment missing adopted context"))

@[simp] theorem returns_associate (snapshot : Snapshot) (id : String) (projectId : ProjectId) :
    Returns (associate snapshot id projectId) := by
  simp only [associate, returns_bind, returns_orElseErr, true_and]
  split <;> simp

@[simp] theorem returns_validateContext (codec : Codec) (context : ProjectContextSnapshot) :
    Returns (validateContext codec context) := by
  simp [validateContext]

@[simp] theorem returns_admitContext (snapshot : Snapshot) (id : String) (work : Ticket)
    (context : ProjectContextSnapshot) : Returns (admitContext snapshot id work context) := by
  unfold admitContext
  split <;> simp [queueContext]

@[simp] theorem returns_setContext (codec : Codec) (snapshot : Snapshot) (id : String)
    (context : ProjectContextSnapshot) : Returns (setContext codec snapshot id context) := by
  simp [setContext]

@[simp] theorem returns_contextForStart (snapshot : Snapshot) (work : Ticket)
    (workspace : Option ExecutionWorkspace) :
    Returns (contextForStart snapshot work workspace) := by
  unfold contextForStart
  split <;> simp

theorem returns_validate (codec : Codec) (snapshot : Snapshot) :
    Returns (validate codec snapshot) := by
  simp only [validate, returns_bind, returns_rejectIf, true_and]
  intro _ _
  refine ⟨returns_each (fun _ _ => by simp [validateLink]), fun _ _ => ?_⟩
  refine ⟨returns_each (fun _ _ => returns_each (fun _ _ => returns_rejectIf _ _)),
    fun _ _ => ?_⟩
  refine ⟨returns_each (fun _ _ => by simp), fun _ _ => ?_⟩
  refine ⟨returns_each (fun _ _ => by simp), fun _ _ => ?_⟩
  refine ⟨returns_each (fun _ _ => by simp [validateAdopted]), fun _ _ => ?_⟩
  exact returns_each (fun _ _ => returns_rejectIf _ _)

end Project

namespace Planning

def isDefaultPriority (priority : TaskPriority) : Bool := priority = .medium

def badInstant (field : String) : Error :=
  invalid (field ++ " requires RFC 3339 with an explicit known offset")

/-- RFC 3339 `-00:00` is an unknown offset, not an explicit timezone. -/
def parseInstant (codec : Codec) (value field : String) : Result Int := do
  let chars := value.toList
  rejectIf (value.utf8ByteSize > 64 ∨ chars.any (fun c => c.toNat ≥ 128) = true ∨
      ¬ (chars[10]? = some 'T' ∨ chars[10]? = some 't') ∨
      ("-00:00".toList.isSuffixOf chars) = true) (badInstant field)
  orElseErr (codec.parseRfc3339 value) (badInstant field)

def validateDeadline (codec : Codec) (deadline : Option String) : Result Unit :=
  match deadline with
  | none => .ok ()
  | some value => do
      let _ ← parseInstant codec value "expected completion"

def set (codec : Codec) (snapshot : Snapshot) (authority : Authority) (ticketId : String)
    (expectedRecordRevision : Nat) (priority : TaskPriority)
    (expectedCompletionAt : Option String) : Result Snapshot := do
  authority.user
  validateDeadline codec expectedCompletionAt
  let work ← orElseErr (snapshot.tickets.lookup ticketId) (invalid "ticket not found")
  rejectIf (work.recordRevision ≠ expectedRecordRevision) .revisionConflict
  rejectIf (work.archived = true)
    (invalid "unarchive the Ticket before editing planning metadata")
  let planned := { work with priority := priority, expectedCompletionAt := expectedCompletionAt }
  return (snapshot.putTicket ticketId (touch planned snapshot.seq)).atLeastSchema 7

def validate (codec : Codec) (snapshot : Snapshot) : Result Unit :=
  each snapshot.tickets.values (fun work => do
    rejectIf (snapshot.schema < 7 ∧
        (isDefaultPriority work.priority = false ∨ work.expectedCompletionAt.isSome = true))
      (invalid "Ticket planning metadata requires schema 7")
    validateDeadline codec work.expectedCompletionAt)

@[simp] theorem returns_validateDeadline (codec : Codec) (deadline : Option String) :
    Returns (validateDeadline codec deadline) := by
  cases deadline <;> simp [validateDeadline, parseInstant]

@[simp] theorem returns_set (codec : Codec) (snapshot : Snapshot) (authority : Authority)
    (ticketId : String) (expectedRecordRevision : Nat) (priority : TaskPriority)
    (expectedCompletionAt : Option String) :
    Returns (set codec snapshot authority ticketId expectedRecordRevision priority
      expectedCompletionAt) := by
  simp [set]

theorem returns_validate (codec : Codec) (snapshot : Snapshot) :
    Returns (validate codec snapshot) :=
  returns_each (fun _ _ => by simp)

end Planning

end Tickets
