import Mathlib.Algebra.Ring.Nat
import Mathlib.Data.List.Basic
import Mathlib.Data.List.Perm.Basic
import Mathlib.Algebra.BigOperators.Group.List.Basic
import Mathlib.Data.List.Nodup
import Mathlib.Data.List.Pairwise

/- Two lists that share out a third one: every element goes to exactly one side and each
   side keeps the order of the whole. -/
namespace Splits
open List hiding after

variable {α β : Type}

inductive SharedOut : List α → List α → List α → Prop
  | nil : SharedOut [] [] []
  | keep (a : α) (rest : SharedOut left right whole) :
      SharedOut (a :: left) right (a :: whole)
  | drop (a : α) (rest : SharedOut left right whole) :
      SharedOut left (a :: right) (a :: whole)

theorem sharedOut_left (whole : List α) : SharedOut whole [] whole := by
  induction whole with
  | nil => exact .nil
  | cons a rest ih => exact .keep a ih

theorem sharedOut_right (whole : List α) : SharedOut [] whole whole := by
  induction whole with
  | nil => exact .nil
  | cons a rest ih => exact .drop a ih

variable {left right : List α}

theorem sharedOut_append (first : SharedOut left right whole)
    (second : SharedOut left' right' whole') :
    SharedOut (left ++ left') (right ++ right') (whole ++ whole') := by
  induction first with
  | nil => exact second
  | keep a _ ih => exact .keep a ih
  | drop a _ ih => exact .drop a ih

theorem sharedOut_flatMap (f : α → List β) (shared : SharedOut left right whole) :
    SharedOut (left.flatMap f) (right.flatMap f) (whole.flatMap f) := by
  induction shared with
  | nil => exact .nil
  | keep a _ ih =>
    exact sharedOut_append (sharedOut_left (f a)) ih
  | drop a _ ih =>
    exact sharedOut_append (sharedOut_right (f a)) ih

theorem sharedOut_map (f : α → β) (shared : SharedOut left right whole) :
    SharedOut (left.map f) (right.map f) (whole.map f) := by
  induction shared with
  | nil => exact .nil
  | keep a _ ih => exact .keep (f a) ih
  | drop a _ ih => exact .drop (f a) ih

theorem sharedOut_sublist (shared : SharedOut left right whole) :
    left.Sublist whole := by
  induction shared with
  | nil => exact .slnil
  | keep a _ ih => exact ih.cons_cons a
  | drop a _ ih => exact ih.cons a

theorem sharedOut_perm (shared : SharedOut left right whole) :
    (left ++ right).Perm whole := by
  induction shared with
  | nil => exact .nil
  | keep a _ ih => exact ih.cons a
  | drop a _ ih => exact perm_middle.trans (ih.cons a)

theorem sharedOut_sum (weight : α → Nat) (shared : SharedOut left right whole) :
    (left.map weight).sum + (right.map weight).sum = (whole.map weight).sum := by
  have same := ((sharedOut_perm shared).map weight).sum_eq
  rw [map_append, sum_append] at same
  exact same

/-- The two sides of a test. -/
theorem sharedOut_filter (test : α → Bool) (whole : List α) :
    SharedOut (whole.filter test) (whole.filter (fun a => !test a)) whole := by
  induction whole with
  | nil => exact .nil
  | cons a rest ih =>
    cases holds : test a with
    | true =>
      rw [filter_cons_of_pos holds, filter_cons_of_neg (by simp [holds])]
      exact .keep a ih
    | false =>
      rw [filter_cons_of_neg (by simp [holds]), filter_cons_of_pos (by simp [holds])]
      exact .drop a ih

theorem key_chosen_iff {keys : α → List β} {blocks : List α}
    (distinct : (blocks.flatMap keys).Nodup) (among : chosen ⊆ blocks)
    (member : block ∈ blocks) (held : key ∈ keys block) :
    key ∈ chosen.flatMap keys ↔ block ∈ chosen := by
  constructor
  · intro met
    obtain ⟨other, picked, also⟩ := mem_flatMap.1 met
    by_cases same : block = other
    · rw [same]
      exact picked
    · have apart := (nodup_flatMap.1 distinct).2
      have symmetric : Std.Symm (Function.onFun List.Disjoint keys) :=
        ⟨fun _ _ away _ there here => away here there⟩
      have disjoint := apart.forall member (among picked) same
      exact absurd also (disjoint held)
  · intro picked
    exact mem_flatMap.2 ⟨block, picked, held⟩

theorem cut_at {items : List α} (found : items[position]? = some a) :
    items = items.take position ++ a :: items.drop (position + 1) := by
  obtain ⟨inside, here⟩ := List.getElem?_eq_some_iff.1 found
  rw [← here, ← drop_eq_getElem_cons inside, take_append_drop]

theorem ascending_ext {left right : List Nat} (up : left.Pairwise (· < ·))
    (upToo : right.Pairwise (· < ·)) (same : ∀ a, a ∈ left ↔ a ∈ right) : left = right := by
  have distinct : ∀ {items : List Nat}, items.Pairwise (· < ·) → items.Nodup :=
    fun ascending => ascending.imp ne_of_lt
  have perm : left.Perm right :=
    (perm_ext_iff_of_nodup (distinct up) (distinct upToo)).2 same
  refine List.Perm.eq_of_pairwise ?_ up upToo perm
  omega

theorem sublist_filter_mem [DecidableEq α] {part whole : List α} (sub : part.Sublist whole)
    (distinct : whole.Nodup) : whole.filter (fun a => decide (a ∈ part)) = part := by
  induction sub with
  | slnil => rfl
  | cons a sub ih =>
    obtain ⟨apart, rest⟩ := nodup_cons.1 distinct
    rw [filter_cons_of_neg (by simpa using fun here => apart (sub.subset here))]
    exact ih rest
  | cons_cons a sub ih =>
    obtain ⟨apart, rest⟩ := nodup_cons.1 distinct
    rw [filter_cons_of_pos (by simp)]
    congr 1
    conv_rhs => rw [← ih rest]
    apply filter_congr
    intro other member
    have differs : other ≠ a := fun same => apart (same ▸ member)
    simp [differs]

/-- A test that holds of just the blocks kept from an initial part picks those. -/
theorem filter_initial {before : List α} (distinct : (before ++ after).Nodup)
    (exact_ : ∀ block ∈ before ++ after, test block = true ↔ block ∈ before.filter keep) :
    (before ++ after).filter test = before.filter keep := by
  have none : after.filter test = [] := by
    apply filter_eq_nil_iff.2
    intro block member holds
    have early := (exact_ block (mem_append_right _ member)).1 holds
    exact (nodup_append.1 distinct).2.2 block (mem_filter.1 early).1 block member rfl
  rw [filter_append, none, append_nil]
  apply filter_congr
  intro block member
  have same := exact_ block (mem_append_left _ member)
  rw [mem_filter] at same
  rw [Bool.eq_iff_iff, same]
  exact and_iff_right member

end Splits
