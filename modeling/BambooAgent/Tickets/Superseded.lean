import BambooAgent.Tickets.Ownership

/- What reports on a superseded attempt can touch. A Work names at most one active
   assignment, and that one is of its current generation. -/
namespace Tickets
open SortedMaps Evolutions SortedMap Option

/-- The active assignment of a Ticket is recorded, its own, and of its generation. -/
def Owned (snapshot : Snapshot) : Prop :=
  ∀ key w active, snapshot.tickets.lookup key = some w → w.activeAssignment = some active →
    ∃ a, snapshot.assignments.lookup active = some a ∧ a.workId = key ∧
      a.generation = w.generation

def namedAssignment : Operation → Option String
  | .admitted id _ => some id
  | .running id => some id
  | .replacePlan id _ _ => some id
  | .yieldForInput id _ _ => some id
  | .recordEffect id _ _ => some id
  | .submit id _ _ _ => some id
  | .confirmStopped id _ => some id
  | .runtimeStopped id _ _ => some id
  | .reconcileCompleted id _ => some id
  | .outcomeUnknown id _ => some id
  | _ => none

/-- Nothing changes but the records of the assignment `a` under `id`: its own record, the
    receipt of its intent, and submissions of it that are stale. -/
structure OwnRecordsOnly (snapshot next : Snapshot) (id : String) (a : Assignment) : Prop where
  tickets : next.tickets = snapshot.tickets
  requests : next.requests = snapshot.requests
  assignments : ∀ other, other ≠ id →
    next.assignments.lookup other = snapshot.assignments.lookup other
  intents : ∀ key, key ≠ a.dispatchKey → next.intents.lookup key = snapshot.intents.lookup key
  kept : ∀ key n, snapshot.submissions.lookup key = some n → next.submissions.lookup key = some n
  stale : ∀ key n, next.submissions.lookup key = some n →
    snapshot.submissions.lookup key = some n ∨ (n.assignmentId = id ∧ n.stale = true)

section Edits
variable {id : String}

structure SameOwner (a b : Assignment) : Prop where
  workId : b.workId = a.workId
  generation : b.generation = a.generation

theorem change_owner (change : AssignmentChange snapshot authority operation id a b) :
    SameOwner a b := by
  rcases change with same | edit
  · exact same ▸ ⟨rfl, rfl⟩
  · cases edit with
    | stopping _ change =>
      rcases change with same | ⟨_, _, same⟩
      · exact same ▸ ⟨rfl, rfl⟩
      · exact same ▸ ⟨rfl, rfl⟩
    | admitted _ _ _ _ => exact ⟨rfl, rfl⟩
    | running _ _ _ => exact ⟨rfl, rfl⟩
    | planned _ _ => exact ⟨rfl, rfl⟩
    | yielded _ _ => exact ⟨rfl, rfl⟩
    | consumed _ _ => exact ⟨rfl, rfl⟩
    | recorded _ _ _ _ _ => exact ⟨rfl, rfl⟩
    | submitted _ _ => exact ⟨rfl, rfl⟩
    | confirmed _ _ => exact ⟨rfl, rfl⟩
    | stopped _ => exact ⟨rfl, rfl⟩
    | reconciled _ _ => exact ⟨rfl, rfl⟩
    | unknown _ => exact ⟨rfl, rfl⟩

/-- The Ticket gives its active assignment up or keeps it in the same generation. -/
def KeepsActive (w v : Ticket) : Prop :=
  v.activeAssignment = none ∨
    (v.activeAssignment = w.activeAssignment ∧ v.generation = w.generation)

theorem stoppedWork_active
    (outcome : stoppedWork effectsUnknown cancelled waiting unanswered completed a w = some after) :
    KeepsActive w after := by
  unfold stoppedWork at outcome
  split at outcome
  · split at outcome
    · cases outcome
      exact .inl rfl
    · cases outcome
      exact .inl rfl
  · split at outcome
    · cases outcome
      exact .inl rfl
    · split at outcome
      · cases outcome
        exact .inr ⟨rfl, rfl⟩
      · cases outcome

def Starts : Operation → Prop
  | .start _ _ _ => True
  | _ => False

theorem edit_active (idle : ¬ Starts operation)
    (edit : TicketEdit snapshot authority ids uuid operation id w v) : KeepsActive w v := by
  cases edit with
  | described _ => exact .inr ⟨rfl, rfl⟩
  | readied _ => exact .inr ⟨rfl, rfl⟩
  | edited _ _ =>
    right
    unfold contractEdited
    split <;> exact ⟨rfl, rfl⟩
  | rewired _ _ => exact .inr ⟨rfl, rfl⟩
  | started _ => exact absurd trivial idle
  | resumed _ _ _ => exact .inr ⟨rfl, rfl⟩
  | yielded _ _ => exact .inr ⟨rfl, rfl⟩
  | submitted _ _ _ => exact .inl rfl
  | accepted _ _ => exact .inr ⟨rfl, rfl⟩
  | goalAccepted _ _ _ _ => exact .inr ⟨rfl, rfl⟩
  | rejected _ => exact .inr ⟨rfl, rfl⟩
  | cancelled => exact .inr ⟨rfl, rfl⟩
  | paused _ _ => exact .inr ⟨rfl, rfl⟩
  | released _ _ =>
    left
    unfold releasedWork
    split <;> rfl
  | stopped _ _ outcome =>
    have keeps := stoppedWork_active outcome
    exact keeps
  | reconciled _ _ _ _ _ _ => exact .inr ⟨rfl, rfl⟩
  | unknown _ _ => exact .inr ⟨rfl, rfl⟩
  | reopened _ => exact .inl rfl

theorem revised_active (revised : Revised seq w v) :
    v.activeAssignment = w.activeAssignment ∧ v.generation = w.generation := by
  have revokes : ∀ u : Ticket, (revoked seq u).activeAssignment = u.activeAssignment ∧
      (revoked seq u).generation = u.generation := by
    intro u
    unfold revoked
    split <;> exact ⟨rfl, rfl⟩
  have reviews : ∀ u : Ticket, (reviewed seq u).activeAssignment = u.activeAssignment ∧
      (reviewed seq u).generation = u.generation := by
    intro u
    unfold reviewed
    split <;> exact ⟨rfl, rfl⟩
  rcases revised with same | same | same | same
  · exact same ▸ ⟨rfl, rfl⟩
  · exact same ▸ revokes w
  · exact same ▸ reviews w
  · rw [same]
    exact ⟨(reviews _).1.trans (revokes w).1, (reviews _).2.trans (revokes w).2⟩

theorem change_active (idle : ¬ Starts operation)
    (change : TicketChange snapshot authority ids uuid operation id w v) : KeepsActive w v := by
  obtain ⟨u, edit, last⟩ := change
  have middle : KeepsActive w u := by
    rcases edit with same | edit
    · exact same ▸ .inr ⟨rfl, rfl⟩
    · exact edit_active idle edit
  rcases last with same | ⟨_, revised⟩
  · exact same ▸ middle
  · obtain ⟨active, generation⟩ := revised_active revised
    rcases middle with none | ⟨same, current⟩
    · exact .inl (active.trans none)
    · exact .inr ⟨active.trans same, generation.trans current⟩

theorem hostEdit_active (edit : HostTicketEdit snapshot id w v) : KeepsActive w v := by
  cases edit with
  | still => exact .inr ⟨rfl, rfl⟩
  | awaiting _ => exact .inr ⟨rfl, rfl⟩
  | retried _ _ =>
    left
    unfold retriedWork
    split <;> rfl

end Edits

section Steps
variable {codec : Codec} {files : Files} {authority : Authority} {ids after : Ids} {uuid : String}
  {operation : Operation} {snapshot next : Snapshot}

theorem owned_empty (binding : ScopeBinding) : Owned (Snapshot.empty binding) := by
  intro key w active found
  cases found

theorem owned_preserved (owned : Owned snapshot)
    (tickets : ∀ key v, next.tickets.lookup key = some v →
      (∃ w, snapshot.tickets.lookup key = some w ∧ KeepsActive w v) ∨ v.activeAssignment = none)
    (assignments : ∀ id a, snapshot.assignments.lookup id = some a →
      ∃ b, next.assignments.lookup id = some b ∧ SameOwner a b) : Owned next := by
  intro key v active present holds
  rcases tickets key v present with ⟨w, found, none | ⟨same, generation⟩⟩ | none
  · rw [none] at holds
    cases holds
  · rw [same] at holds
    obtain ⟨a, there, owner, current⟩ := owned key w active found holds
    obtain ⟨b, kept, carried⟩ := assignments active a there
    exact ⟨b, kept, carried.workId.trans owner,
      carried.generation.trans (current.trans generation.symm)⟩
  · rw [none] at holds
    cases holds

theorem owned_started (owned : Owned snapshot) (fresh : Fresh snapshot [uuid])
    (run : applyStart codec files snapshot authority uuid ids workId tempId workspace =
      .ok (next, after)) : Owned next := by
  obtain ⟨w, contextRef, inputs, dispatchKey, specHash, admitted, same⟩ := start_ok run
  subst same
  intro key v active present holds
  simp only [Snapshot.putTicket_tickets, Snapshot.dispatch_tickets,
    lookup_insert] at present
  split at present
  · rename_i here
    subst here
    cases present
    cases holds
    exact ⟨_, lookup_insert_self _ _ _, rfl, rfl⟩
  · obtain ⟨a, there, owner, current⟩ := owned key v active present holds
    have other : active ≠ uuid := by
      intro same
      rw [same, fresh.assignments uuid (by simp)] at there
      cases there
    exact ⟨a, (lookup_insert_other _ _ other).trans there, owner, current⟩

theorem owned_applied (owned : Owned snapshot) (fresh : Fresh snapshot [uuid])
    (run : apply codec files snapshot authority uuid operation ids = .ok (next, after)) :
    Owned next := by
  by_cases starts : Starts operation
  · cases operation with
    | start workId tempId workspace => exact owned_started owned fresh run
    | _ => exact starts.elim
  · have change := apply_changes run
    apply owned_preserved owned
    · intro key v present
      rcases change.tickets.origin key v present with ⟨w, found, edit⟩ | ⟨_, new⟩
      · exact .inl ⟨w, found, change_active starts edit⟩
      · right
        cases new with
        | created _ _ => rfl
        | imported _ => rfl
    · intro id a found
      obtain ⟨b, present, edit⟩ := forward_fresh change.assignments
        (fresh.assignments uuid (by simp)) found
      exact ⟨b, present, change_owner edit⟩

theorem owned_kept : Kept codec (fun _ => True) Owned where
  same := by
    intro snapshot next facts owned
    unfold Owned
    rw [facts.tickets, facts.assignments]
    exact owned
  applied := fun _ owned fresh run => owned_applied owned fresh run
  hosted := by
    intro snapshot next _ owned change
    apply owned_preserved owned
    · intro key v present
      rcases change.tickets.origin key v present with ⟨w, found, edit⟩ | impossible
      · exact .inl ⟨w, found, hostEdit_active edit⟩
      · exact impossible.elim
    · intro id a found
      obtain ⟨b, present, edit⟩ := evolves_forward change.assignments found (fun _ none => none)
      have kept := hostChange_kept edit
      exact ⟨b, present, by rw [kept], by rw [kept]⟩

section Reports
variable {id : String}

theorem own_still : OwnRecordsOnly snapshot snapshot id a :=
  ⟨rfl, rfl, fun _ _ => rfl, fun _ _ => rfl, fun _ _ found => found, fun _ _ found => .inl found⟩

theorem own_assignment (b : Assignment) :
    OwnRecordsOnly snapshot (snapshot.putAssignment id b) id a where
  tickets := rfl
  requests := rfl
  assignments := fun _ different => lookup_insert_other _ _ different
  intents := fun _ _ => rfl
  kept := fun _ _ found => found
  stale := fun _ _ found => .inl found

theorem own_admission (b : Assignment) (intent : DispatchIntent) :
    OwnRecordsOnly snapshot ((snapshot.putAssignment id b).putIntent a.dispatchKey intent) id a where
  tickets := rfl
  requests := rfl
  assignments := fun _ different => lookup_insert_other _ _ different
  intents := fun _ different => lookup_insert_other _ _ different
  kept := fun _ _ found => found
  stale := fun _ _ found => .inl found

theorem own_submission (absent : snapshot.submissions.lookup uuid = none)
    (owner : n.assignmentId = id) (late : n.stale = true) :
    OwnRecordsOnly snapshot (snapshot.putSubmission uuid n) id a where
  tickets := rfl
  requests := rfl
  assignments := fun _ _ => rfl
  intents := fun _ _ => rfl
  kept := by
    intro key old found
    have other : key ≠ uuid := by
      intro same
      rw [same, absent] at found
      cases found
    exact (lookup_insert_other _ _ other).trans found
  stale := by
    intro key m present
    simp only [Snapshot.putSubmission_submissions, lookup_insert] at present
    split at present
    · cases present
      exact .inr ⟨owner, late⟩
    · exact .inl present

section Older
variable (found : snapshot.assignments.lookup id = some a)
  (owner : snapshot.tickets.lookup a.workId = some w) (older : a.generation < w.generation)
include owner older

theorem older_attempt : currentAttempt snapshot a ≠ .ok u := by
  intro permit
  obtain ⟨work, current⟩ := currentAttempt_ok.1 permit
  have there := current.found
  rw [owner] at there
  cases there
  have same := current.generation
  omega

theorem older_permit : activePermit snapshot a ≠ .ok u := by
  intro permit
  have current := (activePermit_ok.1 permit).1
  exact older_attempt (u := ()) owner older (currentAttempt_ok.2 current)

include found

theorem older_inactive (owned : Owned snapshot) : w.activeAssignment ≠ some id := by
  intro active
  obtain ⟨b, there, _, current⟩ := owned a.workId w id owner active
  rw [found] at there
  cases there
  omega

theorem older_confirmed (owned : Owned snapshot)
    (run : applyConfirmStopped snapshot authority id effectsReconciled = .ok next) :
    OwnRecordsOnly snapshot next id a := by
  simp only [applyConfirmStopped, bind_eq_ok, assignment_eq_ok, expect_eq_ok] at run
  obtain ⟨_, _, b, present, _, _, _, _, stopped, update, work, again, rest⟩ := run
  rw [found] at present
  cases present
  cases updateAssignment_ok update found
  simp only [Snapshot.putAssignment_tickets, owner, some.injEq] at again
  subst again
  rw [if_neg (older_inactive found owner older owned)] at rest
  cases rest
  exact own_assignment _

theorem older_stopped (owned : Owned snapshot)
    (run : applyRuntimeStopped snapshot authority id receipt completed = .ok next) :
    OwnRecordsOnly snapshot next id a := by
  simp only [applyRuntimeStopped, bind_eq_ok, assignment_eq_ok, ticket_eq_ok, expect_eq_ok] at run
  obtain ⟨_, _, b, present, _, _, _, _, stopped, update, work, again, rest⟩ := run
  rw [found] at present
  cases present
  cases updateAssignment_ok update found
  simp only [Snapshot.putAssignment_tickets, owner, some.injEq] at again
  subst again
  rw [if_neg (older_inactive found owner older owned)] at rest
  cases rest
  exact own_assignment _

theorem older_unreconciled : applyReconcileCompleted snapshot authority id receipt ≠ .ok next := by
  intro run
  simp only [applyReconcileCompleted, bind_eq_ok, assignment_eq_ok, ticket_eq_ok, rejectIf_eq_ok,
    not_or, not_not] at run
  obtain ⟨_, _, b, present, work, there, _, ⟨_, _, _, generation, _⟩, _⟩ := run
  rw [found] at present
  cases present
  rw [owner] at there
  cases there
  omega

theorem older_submitted (all : AllAccounted snapshot) (fresh : Fresh snapshot [uuid])
    (run : applySubmit snapshot authority uuid ids id tempId artifacts evidence =
      .ok (next, after)) : OwnRecordsOnly snapshot next id a := by
  simp only [applySubmit, bind_eq_ok, assignment_eq_ok, ticket_eq_ok, expect_eq_ok] at run
  obtain ⟨b, present, _, _, _, _, _, _, work, there, _, _, receipt, _, rest⟩ := run
  rw [found] at present
  cases present
  rw [owner] at there
  cases there
  have stale : staleResult snapshot w a = true := by
    by_contra fresh
    exact older_attempt owner older (staleResult_false (Bool.eq_false_iff.2 fresh)).1
  rw [if_pos stale] at rest
  cases rest
  exact own_submission (fresh.submissions uuid (by simp)) (all id a found).named stale

end Older

theorem unknown_own (owner : snapshot.tickets.lookup a.workId = some w)
    (found : snapshot.assignments.lookup id = some a)
    (run : applyOutcomeUnknown snapshot authority id reason = .ok next) :
    OwnRecordsOnly snapshot next id a ↔ w.state = .cancelled := by
  obtain ⟨_, b, work, present, there, same⟩ := outcomeUnknown_ok run
  rw [found] at present
  cases present
  rw [owner] at there
  cases there
  subst same
  constructor
  · intro own
    by_contra alive
    have tickets := own.tickets
    simp only [Snapshot.putTicket_tickets, Snapshot.putAssignment_tickets] at tickets
    have here : (snapshot.tickets.insert a.workId
        (outcomeUnknownWork reason snapshot.seq w)).lookup a.workId = some w := by
      rw [tickets]
      exact owner
    rw [outcomeUnknownWork, if_neg alive] at here
    have revision := congrArg (fun t => t.map (fun t : Ticket => t.recordRevision)) here
    simp [touch] at revision
  · intro cancelled
    have still : outcomeUnknownWork reason snapshot.seq w = w := by
      rw [outcomeUnknownWork, if_pos cancelled]
    have own : OwnRecordsOnly snapshot (snapshot.putAssignment id
        (bump { a with state := .outcomeUnknown } snapshot.seq)) id a := own_assignment _
    refine ⟨?_, rfl, own.assignments, own.intents, own.kept, own.stale⟩
    rw [still]
    exact insert_lookup_self owner

theorem older_admitted (found : snapshot.assignments.lookup id = some a)
    (run : applyAdmitted snapshot authority id receipt = .ok next) :
    OwnRecordsOnly snapshot next id a := by
  obtain ⟨_, b, present, same | ⟨_, _, _, intent, same⟩⟩ := admitted_ok run
  · exact same ▸ own_still
  · rw [found] at present
    cases present
    exact same ▸ own_admission _ _

theorem older_own (all : AllAccounted snapshot) (owned : Owned snapshot)
    (fresh : Fresh snapshot [uuid]) (named : namedAssignment operation = some id)
    (found : snapshot.assignments.lookup id = some a)
    (owner : snapshot.tickets.lookup a.workId = some w) (older : a.generation < w.generation)
    (run : apply codec files snapshot authority uuid operation ids = .ok (next, after))
    (known : ∀ reason, operation ≠ .outcomeUnknown id reason) :
    OwnRecordsOnly snapshot next id a := by
  have forbidden : ∀ {u : Unit} {b : Assignment}, snapshot.assignments.lookup id = some b →
      activePermit snapshot b ≠ .ok u := by
    intro u b present
    rw [found] at present
    cases present
    exact older_permit owner older
  cases operation with
  | admitted assignmentId receipt =>
    cases named
    simp only [apply, keepIds_ok] at run
    exact older_admitted found run.1
  | running assignmentId =>
    cases named
    simp only [apply, keepIds_ok, applyRunning, bind_eq_ok, assignment_eq_ok] at run
    obtain ⟨⟨_, _, b, present, _, _, _, permit, _⟩, _⟩ := run
    exact absurd permit (forbidden present)
  | replacePlan assignmentId revision steps =>
    cases named
    simp only [apply, keepIds_ok, applyReplacePlan, bind_eq_ok, assignment_eq_ok] at run
    obtain ⟨⟨b, present, _, _, _, permit, _⟩, _⟩ := run
    exact absurd permit (forbidden present)
  | yieldForInput assignmentId requestId packetHash =>
    cases named
    simp only [apply, keepIds_ok, applyYieldForInput, bind_eq_ok, assignment_eq_ok] at run
    obtain ⟨⟨b, present, _, _, _, permit, _⟩, _⟩ := run
    exact absurd permit (forbidden present)
  | recordEffect assignmentId attemptId effect =>
    cases named
    simp only [apply, keepIds_ok, applyRecordEffect, bind_eq_ok, assignment_eq_ok] at run
    obtain ⟨⟨b, present, _, _, _, permit, _⟩, _⟩ := run
    exact absurd permit (forbidden present)
  | submit assignmentId tempId artifacts evidence =>
    cases named
    exact older_submitted found owner older all fresh run
  | confirmStopped assignmentId effectsReconciled =>
    cases named
    simp only [apply, keepIds_ok] at run
    exact older_confirmed found owner older owned run.1
  | runtimeStopped assignmentId receipt completed =>
    cases named
    simp only [apply, keepIds_ok] at run
    exact older_stopped found owner older owned run.1
  | reconcileCompleted assignmentId receipt =>
    cases named
    simp only [apply, keepIds_ok] at run
    exact absurd run.1 (older_unreconciled found owner older)
  | outcomeUnknown assignmentId reason =>
    cases named
    exact absurd rfl (known reason)
  | _ => cases named

end Reports

end Steps

/-- A Work whose first run was cancelled and stopped, and which runs again. -/
def Sample.rerun : List Event :=
  [.command "a" Sample.supervisor [
      .create "x" .work none (Sample.contract "first") SortedSet.empty, .ready "x",
      .start "x" "run" none],
    .command "b" Sample.runtime [
      .admitted "a2" ⟨"scope/a2/1", Sample.hash, "run", "worker"⟩],
    .command "c" Sample.supervisor [.cancel "a0"],
    .command "d" Sample.runtime [
      .runtimeStopped "a2" ⟨"scope/a2/1", Sample.hash, "run", "worker"⟩ false],
    .command "e" Sample.supervisor [.reopen "a0", .start "a0" "again" none]]

/-- Is the assignment of an older generation than the Ticket it belongs to? -/
def Sample.outdated (snapshot : Snapshot) (id : String) : Bool :=
  (snapshot.assignments.lookup id).any (fun a =>
    (snapshot.tickets.lookup a.workId).any (fun w => decide (a.generation < w.generation)))

theorem Sample.outdated_older {id : String} (outdated : Sample.outdated snapshot id = true) :
    ∃ a w, snapshot.assignments.lookup id = some a ∧ snapshot.tickets.lookup a.workId = some w ∧
      a.generation < w.generation := by
  unfold Sample.outdated at outdated
  rw [any_eq_true] at outdated
  obtain ⟨a, found, rest⟩ := outdated
  rw [any_eq_true] at rest
  obtain ⟨w, owner, older⟩ := rest
  exact ⟨a, w, found, owner, of_decide_eq_true older⟩

end Tickets
