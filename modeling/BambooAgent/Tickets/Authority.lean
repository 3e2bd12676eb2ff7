import BambooAgent.Tickets.Host

/- Who may act on a scope, and the lookups and identifiers every operation starts from. -/
namespace Tickets
open SortedMaps

inductive Principal where
  | supervisor (sessionId : String)
  | user (userId : String)
  | runtime
  | worker (assignmentId : String) (generation : Nat) (runId sessionId : String)

structure Authority where
  binding : ScopeBinding
  principal : Principal

def Authority.identity (authority : Authority) : String :=
  match authority.principal with
  | .supervisor sessionId => "supervisor:" ++ sessionId
  | .user userId => "user:" ++ userId
  | .runtime => "runtime"
  | .worker assignmentId generation runId sessionId =>
      "worker:" ++ assignmentId ++ ":" ++ toString generation ++ ":" ++ runId ++ ":" ++ sessionId

def Authority.isWorker (authority : Authority) : Bool :=
  match authority.principal with
  | .worker .. => true
  | _ => false

def Authority.supervisor (authority : Authority) : Result Unit :=
  match authority.principal with
  | .supervisor sessionId =>
      if sessionId = authority.binding.supervisorSessionId then .ok ()
      else fail (.scopeDenied "Supervisor/User authority required")
  | .user _ => .ok ()
  | _ => fail (.scopeDenied "Supervisor/User authority required")

def Authority.runtime (authority : Authority) : Result Unit :=
  match authority.principal with
  | .runtime => .ok ()
  | _ => fail (.scopeDenied "trusted Runtime authority required")

def Authority.user (authority : Authority) : Result Unit :=
  match authority.principal with
  | .user _ => .ok ()
  | _ => fail (.scopeDenied "explicit User decision required")

def Authority.worker (authority : Authority) (assignment : Assignment) : Result Unit :=
  match authority.principal, assignment.runtime with
  | .worker assignmentId generation runId sessionId, some receipt =>
      if assignmentId = assignment.id ∧ generation = assignment.generation ∧
          runId = receipt.runId ∧ sessionId = receipt.sessionId then .ok ()
      else fail (.scopeDenied "worker execution identity mismatch")
  | _, _ => fail (.scopeDenied "worker execution identity mismatch")

section
variable (authority : Authority)

@[simp] theorem returns_supervisor : Returns authority.supervisor := by
  unfold Authority.supervisor
  split
  · split <;> trivial
  · trivial
  · trivial

@[simp] theorem returns_runtime : Returns authority.runtime := by
  unfold Authority.runtime
  split <;> trivial

@[simp] theorem returns_user : Returns authority.user := by
  unfold Authority.user
  split <;> trivial

@[simp] theorem returns_worker (assignment : Assignment) : Returns (authority.worker assignment) := by
  unfold Authority.worker
  split
  · split <;> trivial
  · trivial

end

theorem user_ok {authority : Authority} :
    authority.user = .ok u ↔ ∃ userId, authority.principal = .user userId := by
  unfold Authority.user
  split <;> simp_all

theorem worker_ok {authority : Authority} (h : authority.worker assignment = .ok u) :
    ∃ receipt, assignment.runtime = some receipt ∧
      authority.principal =
        .worker assignment.id assignment.generation receipt.runId receipt.sessionId := by
  unfold Authority.worker at h
  split at h
  · rename_i assignmentId generation runId sessionId receipt who found
    split at h
    · rename_i same
      obtain ⟨id, gen, run, session⟩ := same
      exact ⟨receipt, found, by rw [who, id, gen, run, session]⟩
    · simp at h
  · simp at h

def ticket (snapshot : Snapshot) (id : String) : Result Ticket :=
  orElseErr (snapshot.tickets.lookup id) (invalid "ticket not found")

def assignment (snapshot : Snapshot) (id : String) : Result Assignment :=
  orElseErr (snapshot.assignments.lookup id) (invalid "assignment not found")

variable {snapshot : Snapshot}

@[simp] theorem ticket_eq_ok {id : String} :
    ticket snapshot id = .ok work ↔ snapshot.tickets.lookup id = some work := by
  simp [ticket]

variable {a : Assignment}

@[simp] theorem assignment_eq_ok {id : String} :
    assignment snapshot id = .ok a ↔ snapshot.assignments.lookup id = some a := by
  simp [assignment]

def validateAuthority (authority : Authority) (snapshot : Snapshot) : Result Unit := do
  rejectIf (authority.binding ≠ snapshot.binding) (.scopeDenied "scope binding changed")
  match authority.principal with
  | .supervisor sessionId =>
      rejectIf (sessionId ≠ snapshot.binding.supervisorSessionId)
        (.scopeDenied "Supervisor identity")
  | .user userId => rejectIf (userId = "") (.scopeDenied "User identity")
  | .runtime => .ok ()
  | .worker assignmentId _ _ _ => do
      let a ← assignment snapshot assignmentId
      authority.worker a

/-- Temporary ids of one batch and the identifiers allocated for them. -/
abbrev Ids := SortedMap String String

def resolve (id : String) (ids : Ids) : String := (ids.lookup id).getD id

/-- `uuid` is what `Uuid::new_v4` yields to this call. -/
def allocate (uuid tempId : String) (ids : Ids) : Result Ids := do
  rejectIf (tempId = "" ∨ ids.contains tempId = true) (invalid "duplicate/empty temporary id")
  return ids.insert tempId uuid

@[simp] theorem returns_allocate (uuid tempId : String) (ids : Ids) :
    Returns (allocate uuid tempId ids) := by
  simp [allocate]

def touch (ticket : Ticket) (seq : Nat) : Ticket :=
  { ticket with recordRevision := ticket.recordRevision + 1, updatedSeq := seq }

def currentAttempt (snapshot : Snapshot) (assignment : Assignment) : Result Unit := do
  let work ← ticket snapshot assignment.workId
  rejectIf (assignment.authorityEpoch ≠ snapshot.authorityEpoch ∨
      assignment.contractRevision ≠ work.contractRevision ∨
      assignment.generation ≠ work.generation ∨
      work.activeAssignment ≠ some assignment.id ∨
      work.state ≠ .active ∨
      ¬ (assignment.state = .admitted ∨ assignment.state = .running))
    (.scopeDenied "run permission is stale or inactive")

def activePermit (snapshot : Snapshot) (assignment : Assignment) : Result Unit := do
  currentAttempt snapshot assignment
  rejectIf (assignment.processStopped = true) (.scopeDenied "Worker process has stopped")

structure CurrentAttempt (snapshot : Snapshot) (a : Assignment) (work : Ticket) : Prop where
  found : snapshot.tickets.lookup a.workId = some work
  epoch : a.authorityEpoch = snapshot.authorityEpoch
  contractRevision : a.contractRevision = work.contractRevision
  generation : a.generation = work.generation
  active : work.activeAssignment = some a.id
  state : work.state = .active
  admitted : a.state = .admitted ∨ a.state = .running

theorem currentAttempt_ok :
    currentAttempt snapshot a = .ok u ↔ ∃ work, CurrentAttempt snapshot a work := by
  simp only [currentAttempt, bind_eq_ok, ticket_eq_ok, rejectIf_eq_ok, not_or, not_not]
  constructor
  · rintro ⟨work, found, epoch, revision, generation, active, state, admitted⟩
    exact ⟨work, found, epoch, revision, generation, active, state, by tauto⟩
  · rintro ⟨work, h⟩
    have admitted := h.admitted
    exact ⟨work, h.found, h.epoch, h.contractRevision, h.generation, h.active, h.state, by tauto⟩

theorem permit_active {id : String} (permit : currentAttempt snapshot a = .ok ())
    (owner : a.workId = id) (found : snapshot.tickets.lookup id = some w) : w.state = .active := by
  obtain ⟨work, current⟩ := currentAttempt_ok.1 permit
  have there := current.found
  rw [owner, found] at there
  cases there
  exact current.state

theorem activePermit_ok :
    activePermit snapshot a = .ok u ↔
      (∃ work, CurrentAttempt snapshot a work) ∧ a.processStopped = false := by
  simp only [activePermit, bind_eq_ok, currentAttempt_ok, rejectIf_eq_ok, Bool.not_eq_true]
  constructor
  · rintro ⟨_, current, running⟩
    exact ⟨current, running⟩
  · rintro ⟨current, running⟩
    exact ⟨(), current, running⟩

section
variable (snapshot : Snapshot)

@[simp] theorem returns_ticket (id : String) : Returns (ticket snapshot id) := returns_orElseErr _ _

@[simp] theorem returns_assignment (id : String) : Returns (assignment snapshot id) := returns_orElseErr _ _

@[simp] theorem returns_currentAttempt (a : Assignment) : Returns (currentAttempt snapshot a) := by
  simp [currentAttempt]

@[simp] theorem returns_activePermit (a : Assignment) : Returns (activePermit snapshot a) := by
  simp [activePermit]

end

/-- The effect states that keep a stopped process responsible for the outside world. -/
def unsettled (effect : Effect) : Bool :=
  effect.state = .started || effect.state = .outcomeUnknown

def hasUnsettled (effects : SortedMap String Effect) : Bool := effects.values.any unsettled

def holdsResources (a : Assignment) : Bool :=
  (!a.processStopped || hasUnsettled a.effects) &&
    (a.state = .dispatchPending || a.state = .blocked || a.state = .admitted ||
      a.state = .running || a.state = .cancelling || a.state = .outcomeUnknown ||
      a.state = .submitted)

end Tickets
