import Mathlib.Data.List.Forall2

/- Computations that stop at the first failed check, read off their success. -/
namespace Checks
open List

variable {ε α β : Type}

/-- Fail with this error when the condition holds. -/
def refuse (condition : Prop) [Decidable condition] (error : ε) : Except ε Unit :=
  if condition then .error error else .ok ()

theorem bind_eq_ok {f : α → Except ε β} :
    (x >>= f) = .ok b ↔ ∃ a, x = .ok a ∧ f a = .ok b := by
  cases x with
  | error e =>
    constructor
    · intro run
      cases run
    · intro ⟨_, run, _⟩
      cases run
  | ok a =>
    constructor
    · intro run
      exact ⟨a, rfl, run⟩
    · intro ⟨_, same, run⟩
      cases same
      exact run

/-- A check in front of the rest. -/
theorem check_bind_eq_ok {f : Unit → Except ε β} :
    (x >>= f) = .ok b ↔ x = .ok () ∧ f () = .ok b := by
  rw [bind_eq_ok]
  exact ⟨fun ⟨(), both⟩ => both, fun both => ⟨(), both⟩⟩

theorem pure_eq_ok : (pure a : Except ε α) = .ok b ↔ a = b := by
  constructor
  · intro same
    exact Except.ok.inj same
  · intro same
    rw [same]
    rfl

variable {condition : Prop} {error : ε}

theorem refuse_eq_ok [Decidable condition] {u : Unit} :
    refuse condition error = .ok u ↔ ¬ condition := by
  unfold refuse
  constructor
  · intro passed holds
    rw [if_pos holds] at passed
    cases passed
  · intro fails
    rw [if_neg fails]

theorem refuse_neg [Decidable condition] (fails : ¬ condition) :
    refuse condition error = .ok () := if_neg fails

theorem refuse_pos [Decidable condition] (holds : condition) :
    refuse condition error = .error error := if_pos holds

/-- A check in front of a computation that goes on. -/
theorem unless_eq_ok [Decidable condition] {rest : Except ε α} {a : α} :
    (if condition then .error error else rest) = .ok a ↔ ¬ condition ∧ rest = .ok a := by
  constructor
  · intro passed
    by_cases holds : condition
    · rw [if_pos holds] at passed
      cases passed
    · rw [if_neg holds] at passed
      exact ⟨holds, passed⟩
  · intro both
    rw [if_neg both.1]
    exact both.2

theorem ok_bind (a : α) (f : α → Except ε β) : (Except.ok a >>= f) = f a := rfl

theorem error_bind (error : ε) (f : α → Except ε β) :
    (Except.error error >>= f) = .error error := rfl

theorem mapM_eq_ok {f : α → Except ε β} (items : List α) :
    ∀ results, items.mapM f = .ok results ↔
      List.Forall₂ (fun item result => f item = .ok result) items results := by
  induction items with
  | nil =>
    intro results
    rw [mapM_nil, pure_eq_ok, forall₂_nil_left_iff]
    exact eq_comm
  | cons item rest ih =>
    intro results
    rw [mapM_cons]
    constructor
    · intro run
      obtain ⟨first, here, later⟩ := bind_eq_ok.1 run
      obtain ⟨others, there, same⟩ := bind_eq_ok.1 later
      cases pure_eq_ok.1 same
      exact .cons here ((ih others).1 there)
    · intro related
      cases related with
      | cons here there =>
        exact bind_eq_ok.2 ⟨_, here, bind_eq_ok.2 ⟨_, (ih _).2 there, rfl⟩⟩

/-- A check that returns what it has passed, made of every item. -/
theorem mapM_same {f : α → Except ε α} {P : α → Prop}
    (one : ∀ item result, f item = .ok result ↔ result = item ∧ P item) {items : List α} :
    items.mapM f = .ok results ↔ results = items ∧ ∀ item ∈ items, P item := by
  rw [mapM_eq_ok]
  constructor
  · intro related
    induction related with
    | nil => exact ⟨rfl, fun _ impossible => absurd impossible not_mem_nil⟩
    | cons first _ ih =>
      obtain ⟨rfl, holds⟩ := (one _ _).1 first
      obtain ⟨rfl, others⟩ := ih
      exact ⟨rfl, forall_mem_cons.2 ⟨holds, others⟩⟩
  · rintro ⟨rfl, holds⟩
    apply forall₂_same.2
    intro item member
    exact (one _ _).2 ⟨rfl, holds item member⟩

theorem related_of_mem {R : α → β → Prop}
    (related : List.Forall₂ R items results) (member : result ∈ results) :
    ∃ item ∈ items, R item result := by
  induction related with
  | nil => cases member
  | cons here _ ih =>
    cases mem_cons.1 member with
    | inl same =>
      rw [same]
      exact ⟨_, mem_cons_self, here⟩
    | inr later =>
      obtain ⟨item, known, holds⟩ := ih later
      exact ⟨item, mem_cons_of_mem _ known, holds⟩

theorem forM_eq_ok {f : α → Except ε Unit} (items : List α) :
    items.forM f = .ok () ↔ ∀ item ∈ items, f item = .ok () := by
  induction items with
  | nil =>
    exact ⟨fun _ _ none => absurd none not_mem_nil, fun _ => rfl⟩
  | cons item rest ih =>
    rw [forall_mem_cons, ← ih]
    constructor
    · intro run
      obtain ⟨_, here, later⟩ := bind_eq_ok.1 run
      exact ⟨here, later⟩
    · intro ⟨here, later⟩
      exact bind_eq_ok.2 ⟨(), here, later⟩

end Checks
