import Mathlib.Data.List.Basic

/- Tasks that take their steps in any order. A pool holds the tasks by number, an ended one leaves
   its place empty; a run is a list of acts, each taken in the state that the ones before it left. -/
namespace Interleavings

variable {σ α τ : Type}

def run (step : σ → α → σ) (s : σ) (acts : List α) : σ := acts.foldl step s

/-- Each act of the run meets the condition in the state that it finds. -/
def Along (step : σ → α → σ) (condition : σ → α → Prop) : σ → List α → Prop
  | _, [] => True
  | s, act :: rest => condition s act ∧ Along step condition (step s act) rest

/-- What the acts of a run amount to, each weighed in the state that it finds. -/
def during (step : σ → α → σ) (weight : σ → α → Nat) : σ → List α → Nat
  | _, [] => 0
  | s, act :: rest => weight s act + during step weight (step s act) rest

/-- What the acts of a run note down, each in the state that it finds. -/
def noted {β : Type} (step : σ → α → σ) (note : σ → α → List β) : σ → List α → List β
  | _, [] => []
  | s, act :: rest => note s act ++ noted step note (step s act) rest

section Runs
variable {step : σ → α → σ} {condition : σ → α → Prop} {P : σ → Prop}

instance decidableAlong [dec : ∀ s act, Decidable (condition s act)] :
    ∀ (s : σ) (acts : List α), Decidable (Along step condition s acts)
  | _, [] => .isTrue trivial
  | s, act :: rest =>
    match dec s act, decidableAlong (step s act) rest with
    | .isTrue now, .isTrue later => .isTrue ⟨now, later⟩
    | .isFalse now, _ => .isFalse (fun both => now both.1)
    | _, .isFalse later => .isFalse (fun both => later both.2)

@[simp] theorem run_cons (s : σ) (act : α) (rest : List α) :
    run step s (act :: rest) = run step (step s act) rest := rfl

theorem along_keeps (keeps : ∀ s act, condition s act → P s → P (step s act)) :
    ∀ (acts : List α) {s : σ}, Along step condition s acts → P s → P (run step s acts) := by
  intro acts
  induction acts with
  | nil => exact fun _ holds => holds
  | cons act rest ih => exact fun along holds => ih along.2 (keeps _ act along.1 holds)

theorem run_keeps (keeps : ∀ s act, P s → P (step s act)) :
    ∀ (acts : List α) {s : σ}, P s → P (run step s acts) := by
  intro acts
  induction acts with
  | nil => exact fun holds => holds
  | cons act rest ih => exact fun holds => ih (keeps _ act holds)

/-- Where no step spends more than was held and came in with it, no run does. -/
theorem spent_within {spent granted : σ → α → Nat} (held : σ → Nat)
    (keeps : ∀ s act, held (step s act) + spent s act ≤ held s + granted s act) :
    ∀ (acts : List α) (s : σ),
    held (run step s acts) + during step spent s acts ≤ held s + during step granted s acts := by
  intro acts
  induction acts with
  | nil => exact fun _ => Nat.le_refl _
  | cons act rest ih =>
    intro s
    have now := keeps s act
    have later := ih (step s act)
    rw [run_cons]
    unfold during
    omega

theorem along_mono (implied : ∀ s act, condition s act → weaker s act) :
    ∀ (acts : List α) {s : σ}, Along step condition s acts → Along step weaker s acts := by
  intro acts
  induction acts with
  | nil => exact fun _ => trivial
  | cons act rest ih => exact fun along => ⟨implied _ act along.1, ih along.2⟩

theorem along_and : ∀ {acts : List α} {s : σ},
    Along step condition s acts → Along step other s acts →
      Along step (fun s act => condition s act ∧ other s act) s acts := by
  intro acts
  induction acts with
  | nil => exact fun _ _ => trivial
  | cons act rest ih =>
    exact fun first second => ⟨⟨first.1, second.1⟩, ih first.2 second.2⟩

/-- A condition that the state does not matter for. -/
theorem along_of_forall : ∀ {acts : List α} {s : σ},
    (∀ act ∈ acts, ∀ s, condition s act) → Along step condition s acts := by
  intro acts
  induction acts with
  | nil => exact fun _ => trivial
  | cons act rest ih =>
    intro s every
    exact ⟨every act List.mem_cons_self s, ih (fun other member => every other (.tail _ member))⟩

theorem along_append : ∀ {s : σ},
    Along step condition s (first ++ second) ↔
      Along step condition s first ∧ Along step condition (run step s first) second := by
  induction first with
  | nil => exact fun {s} => ⟨fun along => ⟨trivial, along⟩, fun along => along.2⟩
  | cons act rest ih =>
    intro s
    constructor
    · intro along
      exact ⟨⟨along.1, (ih.1 along.2).1⟩, (ih.1 along.2).2⟩
    · intro along
      exact ⟨along.1.1, ih.2 ⟨along.1.2, along.2⟩⟩

end Runs

section Pools
variable {P Q : τ → Prop} {pool : List (Option τ)} {place : Nat} {task : τ} {next : Option τ}

def Someone (P : τ → Prop) (pool : List (Option τ)) : Prop :=
  ∃ (place : Nat) (task : τ), pool[place]? = some (some task) ∧ P task

def Every (P : τ → Prop) (pool : List (Option τ)) : Prop :=
  ∀ (place : Nat) (task : τ), pool[place]? = some (some task) → P task

/-- What is found after a place was set is what it was set to, or was there before. -/
theorem set_cases {items : List α} {x y : α}
    (found : (items.set i x)[j]? = some y) : j = i ∧ y = x ∨ j ≠ i ∧ items[j]? = some y := by
  rw [List.getElem?_set] at found
  split at found
  · rename_i same
    split at found
    · exact .inl ⟨same.symm, (Option.some.inj found).symm⟩
    · cases found
  · rename_i different
    exact .inr ⟨Ne.symm different, found⟩

/-- What is found after one more was added is this one, or was there before. -/
theorem concat_cases {items : List α} {x y : α}
    (found : (items ++ [x])[i]? = some y) : items[i]? = some y ∨ i = items.length ∧ y = x := by
  rcases Nat.lt_or_ge i items.length with inside | beyond
  · rw [List.getElem?_append_left inside] at found
    exact .inl found
  · rw [List.getElem?_append_right beyond, List.getElem?_singleton] at found
    split at found
    · exact .inr ⟨by omega, (Option.some.inj found).symm⟩
    · cases found

theorem every_set (every : Every P pool) (others : ∀ other, P other → Q other)
    (moved : ∀ task, next = some task → Q task) : Every Q (pool.set place next) := by
  intro at_ task found
  rcases set_cases found with ⟨_, same⟩ | ⟨_, old⟩
  · exact moved task same.symm
  · exact others task (every at_ task old)

theorem every_launch (every : Every P pool) (launched : P task) :
    Every P (pool ++ [some task]) := by
  intro at_ other found
  rcases concat_cases found with old | ⟨_, same⟩
  · exact every at_ other old
  · cases same
    exact launched

/-- Who does is still there, unless it is the task that has moved. -/
theorem some_set (found : Someone P pool) (there : pool[place]? = some (some task)) :
    P task ∨ Someone P (pool.set place next) := by
  obtain ⟨at_, other, held, does⟩ := found
  by_cases same : place = at_
  · subst same
    rw [there] at held
    cases held
    exact .inl does
  · exact .inr ⟨at_, other, by rw [List.getElem?_set_ne same]; exact held, does⟩

theorem some_moved (there : pool[place]? = some (some task)) (does : Q after) :
    Someone Q (pool.set place (some after)) :=
  ⟨place, after, by rw [List.getElem?_set_self (List.getElem?_eq_some_iff.1 there).1], does⟩

theorem some_launch (found : Someone P pool) (launched : Option τ) :
    Someone P (pool ++ [launched]) := by
  obtain ⟨at_, other, held, does⟩ := found
  refine ⟨at_, other, ?_, does⟩
  rw [List.getElem?_append_left (List.getElem?_eq_some_iff.1 held).1]
  exact held

theorem not_someone (idle : ∀ task ∈ pool, task = none) : ¬ Someone P pool := by
  rintro ⟨at_, other, held, _⟩
  cases idle _ (List.mem_of_getElem? held)

end Pools

end Interleavings
