import Mathlib.Data.List.Perm.Basic

/- Taking one occurrence out of a list by putting the last item in its place. -/
namespace SwapRemove
open List

variable {α : Type} [DecidableEq α]

/-- The list without the first occurrence of the item, or nothing where there is none. -/
def swapRemove (items : List α) (item : α) : Option (List α) :=
  if item ∈ items then
    items.getLast?.map (fun last => (items.set (items.idxOf item) last).dropLast)
  else none

theorem set_idxOf_perm (last : α) (member : item ∈ items) :
    (last :: items).Perm (item :: items.set (items.idxOf item) last) := by
  induction items with
  | nil => cases member
  | cons head rest ih =>
    by_cases same : head = item
    · subst same
      rw [idxOf_cons_self]
      exact List.Perm.swap _ _ _
    · have later := mem_of_ne_of_mem (Ne.symm same) member
      rw [idxOf_cons_ne _ same]
      exact (List.Perm.swap _ _ _).trans (((ih later).cons head).trans (List.Perm.swap _ _ _))

/-- With the item put back, what is left is what there was. -/
theorem swapRemove_perm {items : List α}
    (taken : swapRemove items item = some rest) : items.Perm (item :: rest) := by
  unfold swapRemove at taken
  split at taken
  · rename_i member
    obtain ⟨last, ends, rfl⟩ := Option.map_eq_some_iff.1 taken
    obtain ⟨front, rfl⟩ := List.getLast?_eq_some_iff.1 ends
    by_cases early : item ∈ front
    · rw [idxOf_append_of_mem early,
        set_append_left _ _ (idxOf_lt_length_of_mem early), dropLast_concat]
      exact (perm_append_singleton _ _).trans (set_idxOf_perm last early)
    · have same : item = last := by
        rcases mem_append.1 member with first | final
        · exact absurd first early
        · exact mem_singleton.1 final
      subst same
      rw [idxOf_append_of_notMem early, idxOf_cons_self, Nat.add_zero,
        set_append_right _ _ (Nat.le_refl _), Nat.sub_self, set_cons_zero,
        dropLast_concat]
      exact perm_append_singleton _ _
  · cases taken

end SwapRemove
