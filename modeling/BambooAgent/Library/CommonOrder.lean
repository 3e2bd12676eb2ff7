import Mathlib.Data.List.Nodup

/- Two lists that agree on the order of what they have in common, and what an insertion next to
   such an item keeps of that. -/
namespace CommonOrder
open List

variable {κ : Type} [DecidableEq κ]

/-- What `xs` has in common with `ys`, in its own order. -/
def common (xs ys : List κ) : List κ := xs.filter (fun item => item ∈ ys)

def Agree (xs ys : List κ) : Prop := common xs ys = common ys xs

instance (xs ys : List κ) : Decidable (Agree xs ys) :=
  inferInstanceAs (Decidable (common xs ys = common ys xs))

theorem common_append (xs xs' ys : List κ) :
    common (xs ++ xs') ys = common xs ys ++ common xs' ys :=
  filter_append xs xs'

variable {xs ys : List κ}

theorem common_nil (none_ : ∀ item ∈ xs, item ∉ ys) : common xs ys = [] :=
  filter_eq_nil_iff.2 (fun item member there => none_ item member (of_decide_eq_true there))

variable {item : κ}

theorem common_cons (member : item ∈ ys) : common (item :: xs) ys = item :: common xs ys :=
  filter_cons_of_pos (decide_eq_true member)

variable {front back : List κ}

theorem alone (nodup : (front ++ item :: back).Nodup) :
    item ∉ common front ys ∧ item ∉ common back ys := by
  have others : item ∉ back ++ front := (nodup_cons.1 (nodup_append_comm.1 nodup)).1
  rw [mem_append, not_or] at others
  exact ⟨fun member => others.2 (mem_of_mem_filter member),
    fun member => others.1 (mem_of_mem_filter member)⟩

theorem common_middle (new : item ∉ xs) :
    common xs (ys ++ item :: zs) = common xs (ys ++ zs) := by
  refine filter_congr (fun other member => ?_)
  have different : other ≠ item := fun same => new (same ▸ member)
  simp [different]

variable {after : List κ}

theorem agree_insert (agree : Agree (front ++ back) (before ++ item :: after))
    (cut : common front (before ++ item :: after) = common before (front ++ back))
    (new : item ∉ front ++ back) (once : item ∉ before ++ after) :
    Agree (front ++ item :: back) (before ++ item :: after) := by
  have out : common (item :: after) (front ++ back) = common after (front ++ back) :=
    filter_cons_of_neg (fun there => new (of_decide_eq_true there))
  rw [Agree, common_append, common_append, cut, out] at agree
  have right := append_cancel_left agree
  simp only [mem_append, not_or] at once
  have there : item ∈ before ++ item :: after := mem_append_right _ mem_cons_self
  have here : item ∈ front ++ item :: back := mem_append_right _ mem_cons_self
  rw [Agree, common_append, common_append, common_cons there, common_cons here,
    common_middle once.1, common_middle once.2, cut, right]

theorem cut_behind (left : xs = front ++ item :: back)
    (right : ys = before ++ item :: (skipped ++ after)) (agree : Agree xs ys) (nodup : xs.Nodup)
    (last : ∀ other ∈ skipped, other ∉ xs) :
    common (front ++ [item]) ys = common (before ++ item :: skipped) xs := by
  have here : item ∈ xs := left ▸ mem_append_right _ mem_cons_self
  have there : item ∈ ys := right ▸ mem_append_right _ mem_cons_self
  have parts : common front ys ++ item :: common back ys =
      common before xs ++ item :: common (skipped ++ after) xs := by
    rw [← common_cons there, ← common_cons here, ← common_append, ← common_append, ← left, ← right]
    exact agree
  rw [left] at nodup
  have same := ((append_cons_inj_of_notMem (alone nodup).1 (alone nodup).2).1 parts).1
  rw [common_append, common_append, common_cons there, common_cons here, same,
    common_nil last]
  rfl

theorem cut_before (left : xs = front ++ item :: back)
    (right : ys = before ++ (skipped ++ item :: after)) (agree : Agree xs ys) (nodup : xs.Nodup)
    (first : ∀ other ∈ before ++ skipped, other ∉ xs) : common front ys = common before xs := by
  have here : item ∈ xs := left ▸ mem_append_right _ mem_cons_self
  have there : item ∈ ys :=
    right ▸ mem_append_right _ (mem_append_right _ mem_cons_self)
  have parts : common front ys ++ item :: common back ys = [] ++ item :: common after xs := by
    rw [← common_cons there, ← common_append, ← left, ← common_cons here, agree,
      right, ← append_assoc, common_append, common_nil first, nil_append]
  rw [left] at nodup
  have same := ((append_cons_inj_of_notMem (alone nodup).1 (alone nodup).2).1 parts).1
  rw [same, common_nil (fun other member => first other (mem_append_left _ member))]

end CommonOrder
