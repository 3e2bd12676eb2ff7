import BambooAgent.Library.Splits

/- Fitting a list of weighted items into a limit by passes over it. A pass goes from the
   first item to the last one and, as long as the running weight is over the limit, takes
   out every kept item that it may. -/
namespace Shedding
open Splits

variable {α : Type}

/-- An item with its keep flag. -/
abbrev Flagged (α : Type) := α × Bool

def kept (items : List (Flagged α)) : List α := (items.filter (·.2)).map (·.1)

def removed (items : List (Flagged α)) : List α := (items.filter (fun i => !i.2)).map (·.1)

def pass (eligible : α → Bool) (weight : α → Nat) (limit : Nat) :
    Nat → List (Flagged α) → Nat × List (Flagged α)
  | current, [] => (current, [])
  | current, (item, keep) :: rest =>
    if current ≤ limit then (current, (item, keep) :: rest)
    else if !keep || !eligible item then
      let after := pass eligible weight limit current rest
      (after.1, (item, keep) :: after.2)
    else
      let after := pass eligible weight limit (current - weight item) rest
      (after.1, (item, false) :: after.2)

def keptWeight (weight : α → Nat) (items : List (Flagged α)) : Nat :=
  ((kept items).map weight).sum

variable {eligible : α → Bool} {weight : α → Nat} {limit current : Nat}

@[simp] theorem kept_cons_true (item : α) (rest : List (Flagged α)) :
    kept ((item, true) :: rest) = item :: kept rest := rfl

variable (items : List (Flagged α))

theorem kept_sharedOut_removed : SharedOut (kept items) (removed items) (items.map (·.1)) := by
  induction items with
  | nil => exact .nil
  | cons first rest ih =>
    obtain ⟨item, keep⟩ := first
    cases keep with
    | true => exact .keep item ih
    | false => exact .drop item ih

theorem kept_all (items : List α) : kept (items.map (fun item => (item, true))) = items := by
  induction items with
  | nil => rfl
  | cons item rest ih => rw [List.map_cons, kept_cons_true, ih]

@[simp] theorem keptWeight_cons_true (item : α) (rest : List (Flagged α)) :
    keptWeight weight ((item, true) :: rest) = weight item + keptWeight weight rest := by
  rfl

/-- A pass changes flags only. -/
theorem pass_items :
    ∀ current, (pass eligible weight limit current items).2.map (·.1) = items.map (·.1) := by
  induction items with
  | nil =>
    intro current
    rfl
  | cons first rest ih =>
    intro current
    obtain ⟨item, keep⟩ := first
    rw [pass]
    split
    · rfl
    · split
      · exact congrArg (item :: ·) (ih current)
      · exact congrArg (item :: ·) (ih (current - weight item))

theorem pass_forall (holds : α → Prop) {items : List (Flagged α)}
    (before : ∀ entry ∈ items, holds entry.1) :
    ∀ entry ∈ (pass eligible weight limit current items).2, holds entry.1 := by
  intro entry member
  have listed : entry.1 ∈ (pass eligible weight limit current items).2.map (·.1) :=
    List.mem_map_of_mem member
  rw [pass_items] at listed
  obtain ⟨old, inside, same⟩ := List.mem_map.1 listed
  rw [← same]
  exact before old inside

/-- The running weight follows the weight of the kept items, with `outside` for what is
    kept besides the list. -/
theorem pass_weight :
    ∀ outside, (pass eligible weight limit (outside + keptWeight weight items) items).1 =
      outside + keptWeight weight
        (pass eligible weight limit (outside + keptWeight weight items) items).2 := by
  induction items with
  | nil =>
    intro outside
    rfl
  | cons first rest ih =>
    intro outside
    obtain ⟨item, keep⟩ := first
    rw [pass]
    split
    · rfl
    · cases keep with
      | false => exact ih outside
      | true =>
        split
        · have here := ih (outside + weight item)
          rw [keptWeight_cons_true, keptWeight_cons_true, ← add_assoc, ← add_assoc]
          exact here
        · have here := ih outside
          have less : outside + (weight item + keptWeight weight rest) - weight item =
              outside + keptWeight weight rest := by
            omega
          rw [keptWeight_cons_true, less]
          exact here

theorem pass_keptWeight {items : List (Flagged α)} (exact : current = keptWeight weight items) :
    (pass eligible weight limit current items).1 =
      keptWeight weight (pass eligible weight limit current items).2 := by
  have general : (pass eligible weight limit (0 + keptWeight weight items) items).1 =
      0 + keptWeight weight
        (pass eligible weight limit (0 + keptWeight weight items) items).2 :=
    pass_weight items 0
  rw [zero_add, zero_add] at general
  rw [exact]
  exact general

theorem pass_within (within : current ≤ limit) :
    pass eligible weight limit current items = (current, items) := by
  cases items with
  | nil => rfl
  | cons first rest =>
    rw [pass, if_pos within]

theorem pass_ends (eligible : α → Bool) (weight : α → Nat) (limit : Nat)
    (items : List (Flagged α)) :
    ∀ current, (pass eligible weight limit current items).1 ≤ limit ∨
      ∀ item ∈ kept (pass eligible weight limit current items).2, eligible item = false := by
  induction items with
  | nil =>
    intro current
    exact .inr (fun item member => absurd member List.not_mem_nil)
  | cons first rest ih =>
    intro current
    obtain ⟨item, keep⟩ := first
    rw [pass]
    split
    · next within => exact .inl within
    · split
      · next skipped =>
        cases ih current with
        | inl within => exact .inl within
        | inr out =>
          apply Or.inr
          intro other member
          cases keep with
          | false => exact out other member
          | true =>
            cases List.mem_cons.1 member with
            | inl same =>
              subst same
              simpa using skipped
            | inr later => exact out other later
      · cases ih (current - weight item) with
        | inl within => exact .inl within
        | inr out => exact .inr out

/-- What a pass keeps was kept before it. -/
theorem pass_kept :
    ∀ current, (kept (pass eligible weight limit current items).2).Sublist (kept items) := by
  induction items with
  | nil =>
    intro current
    exact .slnil
  | cons first rest ih =>
    intro current
    obtain ⟨item, keep⟩ := first
    rw [pass]
    split
    · exact List.Sublist.refl _
    · split
      · cases keep with
        | false => exact ih current
        | true => exact (ih current).cons_cons item
      · cases keep with
        | false => exact ih (current - weight item)
        | true => exact (ih (current - weight item)).cons item

/-- Items of weight at most one are taken out no further than down to the limit. -/
theorem pass_above :
    ∀ current, (∀ entry ∈ items, weight entry.1 ≤ 1) → limit ≤ current →
      limit ≤ (pass eligible weight limit current items).1 := by
  induction items with
  | nil =>
    intro current _ above
    exact above
  | cons first rest ih =>
    intro current light above
    obtain ⟨item, keep⟩ := first
    have one : weight item ≤ 1 := light (item, keep) List.mem_cons_self
    have others : ∀ entry ∈ rest, weight entry.1 ≤ 1 :=
      fun entry member => light entry (List.mem_cons_of_mem _ member)
    rw [pass]
    split
    · exact above
    · next overrun =>
      split
      · exact ih current others above
      · apply ih _ others
        omega

end Shedding
