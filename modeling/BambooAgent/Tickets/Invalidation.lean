import BambooAgent.Tickets.Validate

/- How a change of one Ticket revokes what was built on it: its open requests, the Works
   that consumed its submissions, and the acceptance of the Goals above it. -/
namespace Tickets
open SortedMaps List SortedMap

def bump (a : Assignment) (seq : Nat) : Assignment :=
  { a with recordRevision := a.recordRevision + 1, updatedSeq := seq }

/-- An unknown outcome stays unknown; every other run is asked to stop. -/
def stopState (state : AssignmentState) : AssignmentState :=
  if state = .outcomeUnknown then .outcomeUnknown else .cancelling

def superseded (seq : Nat) (request : PendingRequest) : PendingRequest :=
  if request.status = .opened ∨ request.status = .approved then
    { request with status := .superseded, updatedSeq := seq }
  else request

@[simps] def invalidateRequests (snapshot : Snapshot) (workId : String) : Snapshot :=
  { snapshot with
    requests := snapshot.requests.mapValues (fun request =>
      if request.workId = workId then superseded snapshot.seq request else request) }

def reviewed (seq : Nat) (goal : Ticket) : Ticket :=
  if goal.state = .accepted then
    touch { goal with
      blocked := some ⟨"child acceptance changed; Goal needs independent review", .submitted⟩
      state := .blocked } seq
  else goal

/-- The walk up the containment tree; it has no end when the tree has a cycle. -/
def invalidateParents (snapshot : Snapshot) : Nat → Option String → Result Snapshot
  | _, none => .ok snapshot
  | 0, some _ => .error .diverges
  | rounds + 1, some id => do
      let parent ← expect (snapshot.tickets.lookup id) "validated containment parent"
      invalidateParents (snapshot.putTicket id (reviewed snapshot.seq parent)) rounds parent.parent

def invalidateParentGoals (snapshot : Snapshot) (ticketId : String) : Result Snapshot :=
  invalidateParents snapshot (snapshot.tickets.size + 1)
    ((snapshot.tickets.lookup ticketId).bind (fun work => work.parent))

/-- The Works of all assignments, past ones included, that consumed a submission of `id`. -/
def consumers (snapshot : Snapshot) (id : String) : List String :=
  (snapshot.assignments.values.filter
    (fun a => a.dependencyInputs.any (fun input => input.workId = id))).map (fun a => a.workId)

def affectedWorks (snapshot : Snapshot) (workId : String) : Result (SortedSet String) :=
  match Worklists.close (consumers snapshot) (snapshot.assignments.size + 1)
      SortedSet.empty [workId] with
  | some affected => .ok affected
  | none => .error .diverges

def revoked (seq : Nat) (work : Ticket) : Ticket :=
  if work.state = .cancelled then work
  else touch { work with
    blocked := some ⟨"accepted dependency input revoked; review required", work.state⟩
    state := .blocked
    acceptedSubmission := none } seq

def revokedRun (seq : Nat) (a : Assignment) : Assignment :=
  if a.processStopped = true then a else bump { a with state := stopState a.state } seq

def revokeRun (snapshot : Snapshot) (active : Option String) : Result Snapshot :=
  match active with
  | none => .ok snapshot
  | some assignmentId => do
      let a ← expect (snapshot.assignments.lookup assignmentId) "active assignment"
      return snapshot.putAssignment assignmentId (revokedRun snapshot.seq a)

def revokeDependent (snapshot : Snapshot) (id : String) : Result Snapshot :=
  match snapshot.tickets.lookup id with
  | none => .ok (invalidateRequests snapshot id)
  | some work => do
      let stopped ← revokeRun (snapshot.putTicket id (revoked snapshot.seq work))
        work.activeAssignment
      return invalidateRequests stopped id

def invalidateDependents (snapshot : Snapshot) (workId : String) : Result Snapshot := do
  let affected ← affectedWorks snapshot workId
  affected.items.foldlM revokeDependent snapshot

/-- The exact accepted submission of one prerequisite. -/
def dependency (snapshot : Snapshot) (id : String) : Result DependencyInput := do
  let prerequisite ← ticket snapshot id
  let submissionId ← orElseErr
    (if prerequisite.state = .accepted then prerequisite.acceptedSubmission else none)
    (.resourceBlocked ("dependency " ++ id ++ " is not accepted"))
  let submission ← orElseErr (snapshot.submissions.lookup submissionId)
    (invalid "missing dependency submission")
  return ⟨id, submissionId, prerequisite.contractRevision,
    submission.artifacts.map (fun artifact => artifact.sha256)⟩

def dependencies (snapshot : Snapshot) (work : Ticket) : Result (List DependencyInput) :=
  work.dependsOn.items.mapM (dependency snapshot)

variable {start : Option String}

section Walks
variable {snapshot next : Snapshot}

theorem reviewed_parent (seq : Nat) (goal : Ticket) : (reviewed seq goal).parent = goal.parent := by
  unfold reviewed
  split <;> rfl

theorem parentLink_putReviewed {id : String} (found : snapshot.tickets.lookup id = some goal)
    (seq : Nat) : parentLink (snapshot.putTicket id (reviewed seq goal)) = parentLink snapshot := by
  funext other
  by_cases same : other = id
  · subst same
    simp [parentLink, found, reviewed_parent]
  · simp [parentLink, same]

structure ParentsReviewed (snapshot next : Snapshot) (start : Option String)
    (passed : List String) : Prop where
  walk : Chains.Ends (parentLink snapshot) start passed none
  tickets : ∀ id, next.tickets.lookup id =
    if id ∈ passed then (snapshot.tickets.lookup id).map (reviewed snapshot.seq)
    else snapshot.tickets.lookup id
  frame : next = { snapshot with tickets := next.tickets }

theorem invalidateParents_ok (run : invalidateParents snapshot rounds start = .ok next) :
    ∃ passed, ParentsReviewed snapshot next start passed := by
  induction rounds generalizing snapshot start with
  | zero =>
    cases start with
    | none =>
      cases run
      exact ⟨[], Chains.Ends.root, by simp, rfl⟩
    | some id => cases run
  | succ rounds ih =>
    cases start with
    | none =>
      cases run
      exact ⟨[], Chains.Ends.root, by simp, rfl⟩
    | some id =>
      simp only [invalidateParents, bind_eq_ok, expect_eq_ok] at run
      obtain ⟨parent, found, rest⟩ := run
      obtain ⟨passed, above⟩ := ih rest
      have tail := above.walk
      rw [parentLink_putReviewed found] at tail
      have here : parentLink snapshot id = some parent.parent := by simp [parentLink, found]
      have walk := Chains.Ends.step here tail
      -- A walk with an end meets every Ticket once, so `id` is not reviewed again above.
      have once : id ∉ passed := (nodup_cons.1 (Chains.ends_nodup walk)).1
      refine ⟨id :: passed, walk, ?_, ?_⟩
      · intro other
        rw [above.tickets other]
        by_cases same : other = id
        · subst same
          simp [once, found]
        · simp [same]
      · have frame := above.frame
        simpa using frame

theorem invalidateParentGoals_ok (run : invalidateParentGoals snapshot ticketId = .ok next) :
    ∃ passed, ParentsReviewed snapshot next
      ((snapshot.tickets.lookup ticketId).bind (fun work => work.parent)) passed :=
  invalidateParents_ok run

theorem invalidateParents_complete (walk : Chains.Ends (parentLink snapshot) start passed none)
    (enough : passed.length ≤ rounds) :
    ∃ next, invalidateParents snapshot rounds start = .ok next := by
  induction rounds generalizing snapshot start passed with
  | zero =>
    cases walk with
    | root => exact ⟨snapshot, rfl⟩
    | step found tail =>
      simp only [length_cons] at enough
      omega
  | succ rounds ih =>
    cases walk with
    | root => exact ⟨snapshot, rfl⟩
    | @step id above passed final found tail =>
      simp only [parentLink, Option.map_eq_some_iff] at found
      obtain ⟨parent, recorded, same⟩ := found
      subst same
      have moved := parentLink_putReviewed recorded snapshot.seq
      simp only [length_cons] at enough
      obtain ⟨next, run⟩ := ih (moved ▸ tail) (by omega)
      exact ⟨next, by simp only [invalidateParents, recorded, expect]; exact run⟩

theorem invalidateParents_succeeds (returned : Returns (invalidateParents snapshot rounds start)) :
    ∃ next, invalidateParents snapshot rounds start = .ok next := by
  induction rounds generalizing snapshot start with
  | zero =>
    cases start with
    | none => exact ⟨snapshot, rfl⟩
    | some id => exact returned.elim
  | succ rounds ih =>
    cases start with
    | none => exact ⟨snapshot, rfl⟩
    | some id =>
      simp only [invalidateParents, returns_bind, returns_expect, expect_eq_ok] at returned
      obtain ⟨⟨parent, found⟩, rest⟩ := returned
      obtain ⟨next, run⟩ := ih (rest parent found)
      exact ⟨next, by simp only [invalidateParents, found, expect]; exact run⟩

theorem returns_invalidateParentGoals (ticketId : String) :
    Returns (invalidateParentGoals snapshot ticketId) ↔
      Chains.Complete (parentLink snapshot)
        ((snapshot.tickets.lookup ticketId).bind (fun work => work.parent)) := by
  constructor
  · intro returned
    obtain ⟨next, run⟩ := invalidateParents_succeeds returned
    obtain ⟨passed, above⟩ := invalidateParentGoals_ok run
    exact ⟨passed, above.walk⟩
  · intro ⟨passed, walk⟩
    have enough := Chains.ends_length parentLink_inside walk
    have size : snapshot.tickets.keys.length = snapshot.tickets.size := by
      simp [SortedMap.keys, SortedMap.size]
    have fits : passed.length ≤ snapshot.tickets.size + 1 := by omega
    obtain ⟨next, run⟩ := invalidateParents_complete walk fits
    unfold invalidateParentGoals
    rw [run]
    trivial

end Walks

section Dependents
variable {snapshot next : Snapshot}

theorem mem_consumers {id : String} :
    consumer ∈ consumers snapshot id ↔ ∃ key a, snapshot.assignments.lookup key = some a ∧
      a.workId = consumer ∧ ∃ input ∈ a.dependencyInputs, input.workId = id := by
  simp only [consumers, mem_map, mem_filter, mem_values, any_eq_true,
    decide_eq_true_eq]
  constructor
  · intro ⟨a, ⟨⟨key, found⟩, consumed⟩, same⟩
    exact ⟨key, a, found, same, consumed⟩
  · intro ⟨key, a, found, same, consumed⟩
    exact ⟨a, ⟨⟨key, found⟩, consumed⟩, same⟩

/-- `y` has an assignment, current or past, that was started on a submission of `x`. -/
abbrev Consumes (snapshot : Snapshot) : String → String → Prop :=
  Worklists.Edge (consumers snapshot)

theorem affectedWorks_ok (run : affectedWorks snapshot workId = .ok affected) (id : String) :
    id ∈ affected ↔ Relation.TransGen (Consumes snapshot) workId id := by
  unfold affectedWorks at run
  split at run
  · rename_i closed
    cases run
    exact Worklists.close_exact closed id
  · cases run

theorem affectedWorks_finishes (snapshot : Snapshot) (workId : String) :
    ∃ affected, affectedWorks snapshot workId = .ok affected := by
  let range := (snapshot.assignments.values.map (fun a => a.workId)).toFinset
  have small : range.card ≤ snapshot.assignments.size := by
    have bound := toFinset_card_le (snapshot.assignments.values.map (fun a => a.workId))
    rw [length_map, values_length] at bound
    exact bound
  have unseen : (Worklists.unseen range SortedSet.empty).card ≤ range.card :=
    Finset.card_filter_le _ _
  have inside : ∀ x, ∀ y ∈ consumers snapshot x, y ∈ range := by
    intro x y member
    obtain ⟨key, a, found, same, _⟩ := mem_consumers.1 member
    rw [mem_toFinset, mem_map]
    exact ⟨a, mem_values.2 ⟨key, found⟩, same⟩
  have enough : [workId].length + (Worklists.unseen range SortedSet.empty).card ≤
      snapshot.assignments.size + 1 := by
    simp only [length_singleton]
    omega
  obtain ⟨affected, closed⟩ := Worklists.close_finishes inside enough
  exact ⟨affected, by simp only [affectedWorks, closed]⟩

/-- What asking a run to stop may do to its assignment, once or several times. -/
def Stopping (seq : Nat) (a b : Assignment) : Prop :=
  b = a ∨ ∃ revision, a.recordRevision < revision ∧
    b = { a with state := stopState a.state, recordRevision := revision, updatedSeq := seq }

theorem stopState_twice (state : AssignmentState) :
    stopState (stopState state) = stopState state := by
  cases state <;> rfl

theorem stopping_trans (first : Stopping seq a b) (second : Stopping seq b c) :
    Stopping seq a c := by
  rcases second with same | ⟨later, more, after⟩
  · exact same ▸ first
  · rcases first with same | ⟨revision, less, before⟩
    · subst same
      exact .inr ⟨later, more, after⟩
    · subst before
      simp only [stopState_twice] at after more
      exact .inr ⟨later, by omega, after⟩

theorem stopping_requested (seq : Nat) (a : Assignment) :
    Stopping seq a (bump { a with state := stopState a.state } seq) :=
  .inr ⟨a.recordRevision + 1, by omega, rfl⟩

theorem stopping_revokedRun (seq : Nat) (a : Assignment) : Stopping seq a (revokedRun seq a) := by
  unfold revokedRun
  split
  · exact .inl rfl
  · exact stopping_requested seq a

/-- Records are neither made nor removed; each assignment is at most asked to stop. -/
def RunsStopping (snapshot next : Snapshot) : Prop :=
  ∀ id, (snapshot.assignments.lookup id = none → next.assignments.lookup id = none) ∧
    ∀ a, snapshot.assignments.lookup id = some a →
      ∃ b, next.assignments.lookup id = some b ∧ Stopping snapshot.seq a b

theorem runsStopping_put {id : String} (found : snapshot.assignments.lookup id = some a)
    (stops : Stopping snapshot.seq a b) : RunsStopping snapshot (snapshot.putAssignment id b) := by
  intro other
  by_cases same : other = id
  · subst same
    simp [found, stops]
  · simp only [Snapshot.putAssignment_assignments, lookup_insert, same, if_false]
    exact ⟨fun absent => absent, fun c recorded => ⟨c, recorded, .inl rfl⟩⟩

structure DependentsRevoked (snapshot next : Snapshot) (affected : List String) : Prop where
  tickets : ∀ id, next.tickets.lookup id =
    if id ∈ affected then (snapshot.tickets.lookup id).map (revoked snapshot.seq)
    else snapshot.tickets.lookup id
  assignments : RunsStopping snapshot next
  requests : ∀ id, next.requests.lookup id = (snapshot.requests.lookup id).map (fun request =>
    if request.workId ∈ affected then superseded snapshot.seq request else request)
  frame : next = { snapshot with
    tickets := next.tickets
    assignments := next.assignments
    requests := next.requests }

theorem runsStopping_refl (snapshot : Snapshot) : RunsStopping snapshot snapshot :=
  fun _ => ⟨fun absent => absent, fun a found => ⟨a, found, .inl rfl⟩⟩

theorem runsStopping_trans (sameSeq : middle.seq = snapshot.seq)
    (first : RunsStopping snapshot middle) (second : RunsStopping middle next) :
    RunsStopping snapshot next := by
  intro id
  constructor
  · intro absent
    exact (second id).1 ((first id).1 absent)
  · intro a found
    obtain ⟨b, recorded, before⟩ := (first id).2 a found
    obtain ⟨c, there, after⟩ := (second id).2 b recorded
    rw [sameSeq] at after
    exact ⟨c, there, stopping_trans before after⟩

theorem revokeRun_ok (run : revokeRun snapshot active = .ok next) :
    RunsStopping snapshot next ∧ next = { snapshot with assignments := next.assignments } := by
  cases active with
  | none =>
    cases run
    exact ⟨runsStopping_refl snapshot, rfl⟩
  | some id =>
    simp only [revokeRun, bind_eq_ok, expect_eq_ok, pure_eq_ok] at run
    obtain ⟨a, found, same⟩ := run
    subst same
    exact ⟨runsStopping_put found (stopping_revokedRun _ a), rfl⟩

theorem revokeDependent_ok {id : String} (run : revokeDependent snapshot id = .ok next) :
    DependentsRevoked snapshot next [id] := by
  unfold revokeDependent at run
  split at run
  · rename_i absent
    cases run
    refine ⟨?_, runsStopping_refl snapshot, by simp, rfl⟩
    intro other
    by_cases same : other = id
    · subst same
      simp [absent]
    · simp [same]
  · rename_i work found
    simp only [bind_eq_ok, pure_eq_ok] at run
    obtain ⟨stopped, runs, same⟩ := run
    subst same
    obtain ⟨stopping, frame⟩ := revokeRun_ok runs
    have tickets := congrArg Snapshot.tickets frame
    have requests := congrArg Snapshot.requests frame
    have seq := congrArg Snapshot.seq frame
    refine ⟨?_, stopping, ?_, ?_⟩
    · intro other
      by_cases same : other = id
      · subst same
        simp [tickets, found]
      · simp [tickets, same]
    · simp [requests, seq]
    · rw [frame]
      rfl

theorem superseded_twice (seq : Nat) (request : PendingRequest) :
    superseded seq (superseded seq request) = superseded seq request := by
  unfold superseded
  split <;> simp_all

theorem superseded_work (seq : Nat) (request : PendingRequest) :
    (superseded seq request).workId = request.workId := by
  unfold superseded
  split <;> rfl

theorem revokeDependents_ok (distinct : affected.Nodup)
    (run : affected.foldlM revokeDependent snapshot = .ok next) :
    DependentsRevoked snapshot next affected := by
  induction affected generalizing snapshot with
  | nil =>
    cases run
    exact ⟨by simp, runsStopping_refl next, by simp, rfl⟩
  | cons id rest ih =>
    simp only [foldlM_cons, bind_eq_ok] at run
    obtain ⟨middle, first, later⟩ := run
    have one := revokeDependent_ok first
    have others := ih (nodup_cons.1 distinct).2 later
    have absent := (nodup_cons.1 distinct).1
    have seq : middle.seq = snapshot.seq := by rw [one.frame]
    refine ⟨?_, runsStopping_trans seq one.assignments others.assignments, ?_, ?_⟩
    · intro other
      rw [others.tickets other, one.tickets other, seq]
      by_cases same : other = id
      · subst same
        simp [absent]
      · simp [same]
    · intro other
      rw [others.requests other, one.requests other, seq, Option.map_map]
      congr 1
      funext request
      by_cases here : request.workId = id <;> by_cases there : request.workId ∈ rest <;>
        simp [here, there, superseded_twice, superseded_work]
    · rw [others.frame, one.frame]

theorem invalidateDependents_ok (run : invalidateDependents snapshot workId = .ok next) :
    ∃ affected : SortedSet String,
      (∀ id, id ∈ affected ↔ Relation.TransGen (Consumes snapshot) workId id) ∧
      DependentsRevoked snapshot next affected.items := by
  simp only [invalidateDependents, bind_eq_ok] at run
  obtain ⟨affected, found, revocations⟩ := run
  refine ⟨affected, affectedWorks_ok found, revokeDependents_ok ?_ revocations⟩
  exact affected.ordered.imp (fun less => ne_of_lt less)

/-- Every active assignment a Ticket names has a record. -/
def ActiveRecorded (snapshot : Snapshot) : Prop :=
  ∀ id work, snapshot.tickets.lookup id = some work →
    ∀ active, work.activeAssignment = some active →
      ∃ a, snapshot.assignments.lookup active = some a

theorem revoked_active (seq : Nat) (work : Ticket) :
    (revoked seq work).activeAssignment = work.activeAssignment := by
  unfold revoked
  split <;> rfl

section
variable (recorded : ActiveRecorded snapshot)
include recorded

theorem activeRecorded_revoked (change : DependentsRevoked snapshot next affected) :
    ActiveRecorded next := by
  intro id after found active holds
  rw [change.tickets id] at found
  have before : ∃ work, snapshot.tickets.lookup id = some work ∧
      work.activeAssignment = some active := by
    split at found
    · simp only [Option.map_eq_some_iff] at found
      obtain ⟨work, here, same⟩ := found
      rw [← same, revoked_active] at holds
      exact ⟨work, here, holds⟩
    · exact ⟨after, found, holds⟩
  obtain ⟨work, here, same⟩ := before
  obtain ⟨a, there⟩ := recorded id work here active same
  obtain ⟨b, kept, _⟩ := (change.assignments active).2 a there
  exact ⟨b, kept⟩

theorem revokeDependent_runs (id : String) : ∃ next, revokeDependent snapshot id = .ok next := by
  unfold revokeDependent
  split
  · exact ⟨_, rfl⟩
  · rename_i work found
    cases active : work.activeAssignment with
    | none => exact ⟨_, rfl⟩
    | some assignmentId =>
      obtain ⟨a, there⟩ := recorded id work found assignmentId active
      exact ⟨_, by simp [revokeRun, there, expect]; rfl⟩

theorem invalidateDependents_runs (workId : String) :
    ∃ next, invalidateDependents snapshot workId = .ok next := by
  obtain ⟨affected, found⟩ := affectedWorks_finishes snapshot workId
  have all : ∀ (items : List String) (state : Snapshot), ActiveRecorded state →
      ∃ next, items.foldlM revokeDependent state = .ok next := by
    intro items
    induction items with
    | nil =>
      intro state _
      exact ⟨state, rfl⟩
    | cons id rest ih =>
      intro state here
      obtain ⟨middle, first⟩ := revokeDependent_runs here id
      have kept := activeRecorded_revoked here (revokeDependent_ok first)
      obtain ⟨next, later⟩ := ih middle kept
      exact ⟨next, by simp only [foldlM_cons, first]; exact later⟩
  obtain ⟨next, run⟩ := all affected.items snapshot recorded
  exact ⟨next, by simp only [invalidateDependents, found]; exact run⟩

end

end Dependents

end Tickets
