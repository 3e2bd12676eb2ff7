import BambooAgent.Tickets.Scripts

/- Which assignments hold resources, and that no two of them hold the same ones. Ownership
   is granted at Start and at admission only; everything else can only give it back. -/
namespace Tickets
open SortedMaps Evolutions SortedMap

/-- The process is known to have stopped and no effect of it is uncertain. -/
structure Released (a : Assignment) : Prop where
  stopped : a.processStopped = true
  settled : hasUnsettled a.effects = false

/-- The states no holder of resources is in. -/
def Terminal (state : AssignmentState) : Prop :=
  state = .planned ∨ state = .failed ∨ state = .cancelled

/-- A record under its own id whose terminal state means that it was released. -/
structure Accounted (key : String) (a : Assignment) : Prop where
  named : a.id = key
  terminal : Terminal a.state → Released a

def AllAccounted (snapshot : Snapshot) : Prop :=
  ∀ key a, snapshot.assignments.lookup key = some a → Accounted key a

theorem hasUnsettled_false :
    hasUnsettled effects = false ↔
      ∀ id effect, effects.lookup id = some effect → unsettled effect = false := by
  unfold hasUnsettled
  rw [List.any_eq_false]
  constructor
  · intro settled id effect found
    exact Bool.eq_false_iff.2 (settled effect (mem_values.2 ⟨id, found⟩))
  · intro settled effect member
    obtain ⟨id, found⟩ := mem_values.1 member
    exact Bool.eq_false_iff.1 (settled id effect found)

theorem hasUnsettled_insert {id : String} (before : hasUnsettled effects = false)
    (here : unsettled effect = false) : hasUnsettled (effects.insert id effect) = false := by
  rw [hasUnsettled_false] at before ⊢
  intro other found present
  rw [lookup_insert] at present
  split at present
  · cases present
    exact here
  · exact before other found present

theorem holds_not_released (holds : holdsResources a = true) : ¬ Released a := by
  intro released
  simp [holdsResources, released.stopped, released.settled] at holds

theorem holds_iff (accounted : Accounted key a) : holdsResources a = true ↔ ¬ Released a := by
  constructor
  · exact holds_not_released
  · intro owned
    have unfinished : ¬ Terminal a.state := fun terminal => owned (accounted.terminal terminal)
    have live : a.processStopped = false ∨ hasUnsettled a.effects = true := by
      by_contra neither
      rw [not_or, Bool.not_eq_false, Bool.not_eq_true] at neither
      exact owned ⟨neither.1, neither.2⟩
    unfold Terminal at unfinished
    rcases live with running | uncertain
    · cases state : a.state <;> simp_all [holdsResources]
    · cases state : a.state <;> simp_all [holdsResources]

/-- What no edit of an assignment takes back. -/
structure Carried (key : String) (a b : Assignment) : Prop where
  accounted : Accounted key b
  workspace : b.workspace = a.workspace
  released : Released a → Released b

theorem permit_running (permit : activePermit snapshot a = .ok ()) :
    a.processStopped = false ∧ ¬ Terminal a.state := by
  obtain ⟨⟨work, current⟩, running⟩ := activePermit_ok.1 permit
  refine ⟨running, ?_⟩
  unfold Terminal
  rcases current.admitted with same | same <;> simp [same]

section
variable (accounted : Accounted key a)
include accounted

theorem carried_alive (running : a.processStopped = false) (named : b.id = a.id)
    (workspace : b.workspace = a.workspace) (unfinished : ¬ Terminal b.state) : Carried key a b where
  accounted := ⟨named.trans accounted.named, fun terminal => absurd terminal unfinished⟩
  workspace := workspace
  released := by
    intro released
    rw [released.stopped] at running
    cases running

theorem carried_state (named : b.id = a.id) (workspace : b.workspace = a.workspace)
    (stopped : b.processStopped = a.processStopped) (effects : b.effects = a.effects)
    (terminal : Terminal b.state → Terminal a.state) : Carried key a b := by
  have released : Released a → Released b := by
    intro before
    exact ⟨stopped.trans before.stopped, by rw [effects]; exact before.settled⟩
  refine ⟨⟨named.trans accounted.named, ?_⟩, workspace, released⟩
  intro ended
  exact released (accounted.terminal (terminal ended))

theorem carried_stopped (named : b.id = a.id) (workspace : b.workspace = a.workspace)
    (stopped : b.processStopped = true)
    (settled : hasUnsettled a.effects = false → hasUnsettled b.effects = false)
    (terminal : Terminal b.state → hasUnsettled b.effects = false) : Carried key a b where
  accounted := ⟨named.trans accounted.named, fun ended => ⟨stopped, terminal ended⟩⟩
  workspace := workspace
  released := fun before => ⟨stopped, settled before.settled⟩

theorem still_carried : Carried key a a :=
  ⟨accounted, rfl, fun released => released⟩

end

theorem stopState_running (state : AssignmentState) : ¬ Terminal (stopState state) := by
  unfold stopState Terminal
  split <;> simp

theorem stopping_carried (accounted : Accounted key a) (change : Stopping seq a b) :
    Carried key a b := by
  rcases change with same | ⟨revision, _, same⟩
  · subst same
    exact still_carried accounted
  · subst same
    exact carried_state accounted rfl rfl rfl rfl
      (fun terminal => absurd terminal (stopState_running a.state))

theorem isolate_carried (accounted : Accounted key a) : Carried key a (isolate seq a) := by
  unfold isolate
  split
  · exact carried_state accounted rfl rfl rfl rfl (fun terminal => by simp [Terminal] at terminal)
  · exact still_carried accounted

theorem stoppedState_terminal
    (terminal : Terminal (stoppedState unknown cancelled waiting completed state)) :
    unknown = false := by
  cases unknown with
  | false => rfl
  | true => simp [stoppedState, Terminal] at terminal

theorem consumption_holder (all : AllAccounted snapshot)
    (used : Consumption snapshot authority requestId fingerprint attemptId request bound holder) :
    holder.id = bound := (all bound holder used.found).named

theorem edit_carried (all : AllAccounted snapshot)
    (found : snapshot.assignments.lookup key = some a)
    (edit : AssignmentEdit snapshot authority operation key a b) : Carried key a b := by
  have accounted := all key a found
  cases edit with
  | stopping _ change => exact stopping_carried accounted change
  | admitted _ pending _ _ =>
    refine carried_state accounted rfl rfl rfl rfl (fun terminal => ?_)
    simp [bump, Terminal] at terminal
  | running _ _ permit =>
    exact carried_alive accounted (permit_running permit).1 rfl rfl (by simp [bump, Terminal])
  | planned _ permit =>
    exact carried_alive accounted (permit_running permit).1 rfl rfl (permit_running permit).2
  | yielded _ permit =>
    exact carried_alive accounted (permit_running permit).1 rfl rfl (by simp [bump, Terminal])
  | consumed used named =>
    rename_i request bound holder
    have same : bound = key := (consumption_holder all used).symm.trans named
    have permit := used.permit
    have there := used.found
    rw [same, found] at there
    cases there
    exact carried_alive accounted (permit_running permit).1 rfl rfl (permit_running permit).2
  | recorded _ permit _ _ _ =>
    exact carried_alive accounted (permit_running permit).1 rfl rfl (permit_running permit).2
  | submitted _ _ =>
    refine carried_state accounted rfl rfl rfl rfl (fun terminal => ?_)
    simp [bump, Terminal] at terminal
  | confirmed _ settled =>
    exact carried_stopped accounted rfl rfl rfl (fun _ => settled) (fun _ => settled)
  | stopped _ =>
    exact carried_stopped accounted rfl rfl rfl (fun settled => settled)
      (fun terminal => stoppedState_terminal terminal)
  | reconciled _ stopped =>
    refine carried_state accounted rfl rfl rfl rfl (fun terminal => ?_)
    simp [bump, Terminal] at terminal
  | unknown _ =>
    refine carried_state accounted rfl rfl rfl rfl (fun terminal => ?_)
    simp [bump, Terminal] at terminal

theorem observed_settled (effect : Effect) : unsettled (observedEffect effect) = false := rfl

theorem hostEdit_carried (accounted : Accounted key a)
    (edit : HostAssignmentEdit snapshot key a b) : Carried key a b := by
  cases edit with
  | isolated => exact isolate_carried accounted
  | begun permit _ _ =>
    exact carried_alive accounted (permit_running permit).1 rfl rfl (permit_running permit).2
  | installed alive running _ _ _ =>
    refine carried_alive accounted alive rfl rfl ?_
    rcases running with same | same <;> simp [bump, Terminal, same]
  | observed stopped unknown _ _ _ =>
    refine carried_stopped accounted rfl rfl stopped
      (fun settled => hasUnsettled_insert settled (observed_settled _)) (fun terminal => ?_)
    simp [bump, Terminal, unknown] at terminal
  | released stopped _ _ _ settled _ _ =>
    exact carried_stopped accounted rfl rfl stopped (fun _ => settled) (fun _ => settled)

theorem change_carried (all : AllAccounted snapshot)
    (found : snapshot.assignments.lookup key = some a)
    (change : AssignmentChange snapshot authority operation key a b) : Carried key a b := by
  rcases change with same | edit
  · subst same
    exact still_carried (all key b found)
  · exact edit_carried all found edit

theorem hostChange_carried (accounted : Accounted key a)
    (change : HostAssignmentChange snapshot key a b) : Carried key a b := by
  rcases change with same | edit
  · subst same
    exact still_carried accounted
  · exact hostEdit_carried accounted edit

theorem new_accounted (new : NewAssignment snapshot authority files ids uuid operation b) :
    Accounted uuid b := by
  cases new with
  | started dispatchKey admitted =>
    refine ⟨rfl, fun terminal => ?_⟩
    simp [newAssignment, Terminal] at terminal

theorem edit_runtime (edit : AssignmentEdit snapshot authority operation key a b) :
    b.runtime = a.runtime ∨ ∃ receipt, operation = .admitted key receipt ∧
      b.runtime = some receipt ∧ ∀ id other, snapshot.assignments.lookup id = some other →
        other.id ≠ a.id → holdsResources other = true → admitBeside receipt a other = .ok () := by
  cases edit with
  | stopping _ change =>
    left
    rcases change with same | ⟨_, _, same⟩
    · rw [same]
    · rw [same]
  | admitted _ _ _ beside => exact .inr ⟨_, rfl, rfl, beside⟩
  | running _ _ _ => exact .inl rfl
  | planned _ _ => exact .inl rfl
  | yielded _ _ => exact .inl rfl
  | consumed _ _ => exact .inl rfl
  | recorded _ _ _ _ _ => exact .inl rfl
  | submitted _ _ => exact .inl rfl
  | confirmed _ _ => exact .inl rfl
  | stopped _ => exact .inl rfl
  | reconciled _ _ => exact .inl rfl
  | unknown _ => exact .inl rfl

/-- Two assignments that have no resource in common. -/
structure Apart (a b : Assignment) : Prop where
  claims : ∀ mine theirs, a.workspace = some mine → b.workspace = some theirs →
    ∀ claim ∈ mine.claims, claim ∉ theirs.claims
  roots : ∀ mine theirs, a.workspace = some mine → b.workspace = some theirs →
    ∀ root ∈ mine.writeRoots, ∀ other ∈ theirs.writeRoots,
      pathStartsWith root other = false ∧ pathStartsWith other root = false
  sessions : ∀ mine theirs, a.runtime = some mine → b.runtime = some theirs →
    mine.sessionId ≠ theirs.sessionId

/-- No two holders have a resource in common. -/
def Exclusive (snapshot : Snapshot) : Prop :=
  ∀ key a other b, snapshot.assignments.lookup key = some a →
    snapshot.assignments.lookup other = some b → key ≠ other →
    holdsResources a = true → holdsResources b = true → Apart a b

theorem apart_symm (apart : Apart a b) : Apart b a where
  claims := by
    intro mine theirs first second claim here there
    exact apart.claims theirs mine second first claim there here
  roots := by
    intro mine theirs first second root member other present
    have both := apart.roots theirs mine second first other present root member
    exact ⟨both.2, both.1⟩
  sessions := by
    intro mine theirs first second same
    exact apart.sessions theirs mine second first same.symm

theorem overlaps_false (apart : overlaps mine theirs = false) :
    (∀ claim ∈ mine.claims, claim ∉ theirs.claims) ∧
      ∀ root ∈ mine.writeRoots, ∀ other ∈ theirs.writeRoots,
        pathStartsWith root other = false ∧ pathStartsWith other root = false := by
  simp only [overlaps, Bool.or_eq_false_iff, Bool.not_eq_false', SortedSet.isDisjoint_iff,
    List.any_eq_false] at apart
  refine ⟨apart.1, ?_⟩
  intro root member other present
  have none := apart.2 root member
  rw [Bool.not_eq_true, List.any_eq_false] at none
  have pair := none other present
  rw [Bool.not_eq_true, Bool.or_eq_false_iff] at pair
  exact pair

theorem admitWorkspace_apart {mine theirs}
    (admitted : admitWorkspace files snapshot workspace = .ok ()) (taken : workspace = some mine)
    (found : snapshot.assignments.lookup key = some b) (holds : holdsResources b = true)
    (held : b.workspace = some theirs) : overlaps mine theirs = false := by
  subst taken
  simp only [admitWorkspace, bind_eq_ok, rejectIf_eq_ok, List.any_eq_true, not_exists,
    not_and] at admitted
  obtain ⟨_, _, _, _, _, _, apart⟩ := admitted
  have one := apart b (mem_values.2 ⟨key, found⟩)
  simpa [holds, held] using one

theorem started_apart (new : NewAssignment snapshot authority files ids uuid operation b)
    (found : snapshot.assignments.lookup key = some old) (holds : holdsResources old = true)
    (workspace : c.workspace = old.workspace) : Apart b c := by
  cases new with
  | started dispatchKey admitted =>
    constructor
    · intro mine theirs taken held
      rw [workspace] at held
      exact (overlaps_false (admitWorkspace_apart admitted.workspace taken found holds held)).1
    · intro mine theirs taken held
      rw [workspace] at held
      exact (overlaps_false (admitWorkspace_apart admitted.workspace taken found holds held)).2
    · intro mine theirs unassigned
      cases unassigned

theorem admitBeside_sessions (beside : admitBeside receipt a other = .ok ())
    (held : other.runtime = some theirs) : receipt.sessionId ≠ theirs.sessionId := by
  simp only [admitBeside, bind_eq_ok, rejectIf_eq_ok, Bool.not_eq_true] at beside
  obtain ⟨_, _, sessions⟩ := beside
  intro same
  simp [held, same] at sessions

theorem edited_apart (all : AllAccounted snapshot) (exclusive : Exclusive snapshot)
    (first : snapshot.assignments.lookup key = some a)
    (second : snapshot.assignments.lookup other = some b) (different : key ≠ other)
    (holdsA : holdsResources a = true) (holdsB : holdsResources b = true)
    (changeA : AssignmentChange snapshot authority operation key a c)
    (changeB : AssignmentChange snapshot authority operation other b d) : Apart c d := by
  have before := exclusive key a other b first second different holdsA holdsB
  have carriedA := change_carried all first changeA
  have carriedB := change_carried all second changeB
  have runtimeA : c.runtime = a.runtime ∨ _ := changeA.elim (fun same => .inl (by rw [same]))
    edit_runtime
  have runtimeB : d.runtime = b.runtime ∨ _ := changeB.elim (fun same => .inl (by rw [same]))
    edit_runtime
  have namedA := (all key a first).named
  have namedB := (all other b second).named
  refine ⟨?_, ?_, ?_⟩
  · rw [carriedA.workspace, carriedB.workspace]
    exact before.claims
  · rw [carriedA.workspace, carriedB.workspace]
    exact before.roots
  · intro mine theirs heldA heldB
    rcases runtimeA with sameA | ⟨receipt, named, given, beside⟩
    · rcases runtimeB with sameB | ⟨receipt, _, given, beside⟩
      · exact before.sessions mine theirs (sameA ▸ heldA) (sameB ▸ heldB)
      · rw [given] at heldB
        cases heldB
        rw [sameA] at heldA
        have apart := admitBeside_sessions
          (beside key a first (by rw [namedA, namedB]; exact different) holdsA) heldA
        exact apart.symm
    · rcases runtimeB with sameB | ⟨again, named', _, _⟩
      · rw [given] at heldA
        cases heldA
        rw [sameB] at heldB
        exact admitBeside_sessions
          (beside other b second (by rw [namedA, namedB]; exact different.symm) holdsB) heldB
      · rw [named] at named'
        cases named'
        exact absurd rfl different

theorem held_before (accounted : Accounted key a) (carried : Carried key a b)
    (holds : holdsResources b = true) : holdsResources a = true := by
  rw [holds_iff accounted]
  intro released
  exact holds_not_released holds (carried.released released)

theorem exclusive_applied (all : AllAccounted snapshot) (exclusive : Exclusive snapshot)
    (change : Changes codec files authority ids uuid operation snapshot next) :
    Exclusive next := by
  intro key c other d present there different holdsC holdsD
  rcases change.assignments.origin key c present with ⟨a, first, changeA⟩ | ⟨named, newA⟩
  · have holdsA := held_before (all key a first) (change_carried all first changeA) holdsC
    rcases change.assignments.origin other d there with ⟨b, second, changeB⟩ | ⟨_, newB⟩
    · have holdsB := held_before (all other b second) (change_carried all second changeB) holdsD
      exact edited_apart all exclusive first second different holdsA holdsB changeA changeB
    · exact apart_symm (started_apart newB first holdsA (change_carried all first changeA).workspace)
  · rcases change.assignments.origin other d there with ⟨b, second, changeB⟩ | ⟨named', _⟩
    · have carried := change_carried all second changeB
      have holdsB := held_before (all other b second) carried holdsD
      exact started_apart newA second holdsB carried.workspace
    · exact absurd (named.trans named'.symm) different

theorem exclusive_hosted (all : AllAccounted snapshot) (exclusive : Exclusive snapshot)
    (change : HostChanges snapshot next) : Exclusive next := by
  intro key c other d present there different holdsC holdsD
  rcases change.assignments.origin key c present with ⟨a, first, changeA⟩ | impossible
  · rcases change.assignments.origin other d there with ⟨b, second, changeB⟩ | impossible
    · have carriedA := hostChange_carried (all key a first) changeA
      have carriedB := hostChange_carried (all other b second) changeB
      have before := exclusive key a other b first second different
        (held_before (all key a first) carriedA holdsC)
        (held_before (all other b second) carriedB holdsD)
      refine ⟨?_, ?_, ?_⟩
      · rw [carriedA.workspace, carriedB.workspace]
        exact before.claims
      · rw [carriedA.workspace, carriedB.workspace]
        exact before.roots
      · have runtimeA := congrArg Assignment.runtime (hostChange_kept changeA)
        have runtimeB := congrArg Assignment.runtime (hostChange_kept changeB)
        rw [runtimeA, runtimeB]
        exact before.sessions
    · exact impossible.elim
  · exact impossible.elim

theorem accounted_empty (binding : ScopeBinding) : AllAccounted (Snapshot.empty binding) := by
  intro key a found
  cases found

theorem accounted_kept : Kept codec (fun _ => True) AllAccounted where
  same := by
    intro snapshot next facts all key a found
    rw [facts.assignments] at found
    exact all key a found
  applied := by
    intro files authority ids after uuid operation snapshot next _ all _ run
    exact evolves_forall (apply_changes run).assignments all
      (fun key a b found _ edit => (change_carried all found edit).accounted)
      (fun key b new => new.1 ▸ new_accounted new.2)
  hosted := by
    intro snapshot next _ all change
    exact evolves_forall change.assignments all
      (fun key a b _ known edit => (hostChange_carried known edit).accounted)
      (fun _ _ impossible => impossible.elim)

theorem exclusive_empty (binding : ScopeBinding) : Exclusive (Snapshot.empty binding) := by
  intro key a other b found
  cases found

theorem exclusive_kept : Kept codec AllAccounted Exclusive where
  same := by
    intro snapshot next facts exclusive
    unfold Exclusive
    rw [facts.assignments]
    exact exclusive
  applied := fun all exclusive _ run => exclusive_applied all exclusive (apply_changes run)
  hosted := fun all exclusive change => exclusive_hosted all exclusive change

theorem reachable_accounted (reached : Reachable codec snapshot) : AllAccounted snapshot :=
  reachable_kept accounted_kept accounted_empty reached

/-- No reachable snapshot has two holders of one claim, of nested write roots, or of one
    Runtime session. -/
theorem resources_exclusive (reached : Reachable codec snapshot) {key other : String}
    {a b : Assignment} (first : snapshot.assignments.lookup key = some a)
    (second : snapshot.assignments.lookup other = some b) (different : key ≠ other)
    (holdsA : holdsResources a = true) (holdsB : holdsResources b = true) : Apart a b := by
  have both := reachable_kept (kept_both accounted_kept exclusive_kept)
    (fun binding => ⟨accounted_empty binding, exclusive_empty binding⟩) reached
  exact both.2 key a other b first second different holdsA holdsB

/-- Two Works started side by side in worktrees of their own. -/
def Sample.sideBySide : List Event :=
  [.command "a" Sample.supervisor [
    .create "x" .work none (Sample.contract "first") SortedSet.empty,
    .create "y" .work none (Sample.contract "second") SortedSet.empty,
    .ready "x", .ready "y",
    .start "x" "run x" (some (Sample.workspace "one")),
    .start "y" "run y" (some (Sample.workspace "two"))]]

theorem resources_exclusive_sideBySide :
    ∃ a b, (Sample.reached Sample.sideBySide).assignments.lookup "a4" = some a ∧
      (Sample.reached Sample.sideBySide).assignments.lookup "a5" = some b ∧
      holdsResources a = true ∧ holdsResources b = true ∧ Apart a b := by
  have first : ((Sample.reached Sample.sideBySide).assignments.lookup "a4").any holdsResources =
      true := by decide
  have second : ((Sample.reached Sample.sideBySide).assignments.lookup "a5").any holdsResources =
      true := by decide
  rw [Option.any_eq_true] at first second
  obtain ⟨a, foundA, holdsA⟩ := first
  obtain ⟨b, foundB, holdsB⟩ := second
  exact ⟨a, b, foundA, foundB, holdsA, holdsB,
    resources_exclusive (Sample.reached_reachable _) foundA foundB (by decide) holdsA holdsB⟩

/-- Assignments with permits at once are of different Works and share nothing that is held. -/
theorem permits_exclusive (reached : Reachable codec snapshot) {key other : String}
    {a b : Assignment} (first : snapshot.assignments.lookup key = some a)
    (second : snapshot.assignments.lookup other = some b) (different : key ≠ other)
    (permitA : activePermit snapshot a = .ok ()) (permitB : activePermit snapshot b = .ok ()) :
    a.workId ≠ b.workId ∧ Apart a b := by
  have both := reachable_kept (kept_both accounted_kept exclusive_kept)
    (fun binding => ⟨accounted_empty binding, exclusive_empty binding⟩) reached
  have holds : ∀ {id c}, snapshot.assignments.lookup id = some c →
      activePermit snapshot c = .ok () → holdsResources c = true := by
    intro id c found permit
    refine (holds_iff (both.1 id c found)).2 fun released => ?_
    exact absurd released.stopped (by simp [(permit_running permit).1])
  refine ⟨fun same => different ?_, both.2 key a other b first second different
    (holds first permitA) (holds second permitB)⟩
  -- A Work names one active Assignment.
  obtain ⟨⟨work, currentA⟩, -⟩ := activePermit_ok.1 permitA
  obtain ⟨⟨_, currentB⟩, -⟩ := activePermit_ok.1 permitB
  have found := currentB.found
  rw [← same, currentA.found] at found
  cases found
  rw [← (both.1 key a first).named, ← (both.1 other b second).named]
  exact Option.some.inj (currentA.active.symm.trans currentB.active)

def Sample.bothAdmitted : List Event :=
  Sample.sideBySide ++ [.command "b" Sample.runtime [
    .admitted "a4" ⟨"scope/a4/1", Sample.hash, "run", "worker"⟩,
    .admitted "a5" ⟨"scope/a5/1", Sample.hash, "run", "other"⟩]]

theorem permits_exclusive_bothAdmitted :
    ∃ a b, (Sample.reached Sample.bothAdmitted).assignments.lookup "a4" = some a ∧
      (Sample.reached Sample.bothAdmitted).assignments.lookup "a5" = some b ∧
      a.workId ≠ b.workId ∧ Apart a b := by
  have permitted : ∀ id ∈ ["a4", "a5"],
      ((Sample.reached Sample.bothAdmitted).assignments.lookup id).any
        (fun a => activePermit (Sample.reached Sample.bothAdmitted) a = .ok ()) = true := by decide
  have first := permitted "a4" (by decide)
  have second := permitted "a5" (by decide)
  rw [Option.any_eq_true] at first second
  obtain ⟨a, foundA, permitA⟩ := first
  obtain ⟨b, foundB, permitB⟩ := second
  exact ⟨a, b, foundA, foundB, permits_exclusive (Sample.reached_reachable _) foundA foundB
    (by decide) (of_decide_eq_true permitA) (of_decide_eq_true permitB)⟩

end Tickets
