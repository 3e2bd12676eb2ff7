import Mathlib.Data.Finset.Card
import Mathlib.Data.List.Nodup

/- A bounded list of the latest of what has come so far, by their keys. -/
namespace Windows
open List

variable {α : Type} {key : α → Nat} {n : Nat} {past others held kept : List α} {a : α}

structure Newest (key : α → Nat) (n : Nat) (past held : List α) : Prop where
  ordered : held.Pairwise (fun a b => key a < key b)
  within : ∀ a ∈ held, a ∈ past
  bounded : held.length ≤ n
  forgotten : ∀ a ∈ past, a ∈ held ∨ held.length = n ∧ ∀ b ∈ held, key a < key b

section
variable (newest : Newest key n past held)
include newest

theorem newest_known (known : a ∈ held) : Newest key n (past ++ [a]) held where
  ordered := newest.ordered
  within b member := mem_append_left _ (newest.within b member)
  bounded := newest.bounded
  forgotten b member := by
    rcases mem_append.1 member with old | new
    · exact newest.forgotten b old
    · rw [mem_singleton.1 new]
      exact .inl known

/-- One more that is later than all makes room for itself at the front. -/
theorem newest_push (some_ : 0 < n) (later : ∀ b ∈ held, key b < key a) :
    Newest key n (past ++ [a]) ((held ++ [a]).drop (held.length + 1 - n)) := by
  have grown : (held ++ [a]).Pairwise (fun a b => key a < key b) := by
    simpa [pairwise_append, newest.ordered] using later
  have bounded := newest.bounded
  have room : held.length + 1 - n ≤ held.length := by omega
  have cut : (held ++ [a]).drop (held.length + 1 - n) = held.drop (held.length + 1 - n) ++ [a] :=
    drop_append_of_le_length room
  constructor
  · exact grown.sublist (drop_sublist _ _)
  · intro b member
    rcases mem_append.1 (mem_of_mem_drop member) with old | new
    · exact mem_append_left _ (newest.within b old)
    · exact mem_append_right _ new
  · simp only [length_drop, length_append, length_singleton]
    omega
  · intro b member
    rw [cut]
    rcases mem_append.1 member with old | new
    · have above : ∀ c ∈ held.drop (held.length + 1 - n) ++ [a],
          (∀ c ∈ held.drop (held.length + 1 - n), key b < key c) → key b < key a →
            key b < key c := by
        intro c member rest last
        rcases mem_append.1 member with old | new
        · exact rest c old
        · rwa [mem_singleton.1 new]
      rcases newest.forgotten b old with known | ⟨full, earlier⟩
      · rw [← take_append_drop (held.length + 1 - n) held] at known
        rcases mem_append.1 known with dropped | stays
        · have full : held.length = n := by
            by_contra short
            rw [show held.length + 1 - n = 0 by omega] at dropped
            cases dropped
          have order := newest.ordered
          rw [← take_append_drop (held.length + 1 - n) held, pairwise_append] at order
          refine .inr ⟨by simp; omega, fun c member => above c member
            (fun c stays => order.2.2 b dropped c stays) (later b (mem_of_mem_take dropped))⟩
        · exact .inl (mem_append_left _ stays)
      · obtain ⟨first, member⟩ := exists_mem_of_length_pos (full ▸ some_)
        exact .inr ⟨by simp; omega, fun c member' => above c member'
          (fun c stays => earlier c (mem_of_mem_drop stays))
          ((earlier first member).trans (later first member))⟩
    · exact .inl (mem_append_right _ new)

theorem newest_nodup : held.Nodup :=
  newest.ordered.imp (fun less => ne_of_apply_ne key (ne_of_lt less))

end

/-- The latest of what one list and the latest of another have are the latest of both. -/
theorem newest_merge (newest : Newest key n (past ++ held) kept) (other : Newest key n others held) :
    Newest key n (past ++ others) kept where
  ordered := newest.ordered
  within a member := by
    rcases mem_append.1 (newest.within a member) with mine | theirs
    · exact mem_append_left _ mine
    · exact mem_append_right _ (other.within a theirs)
  bounded := newest.bounded
  forgotten a member := by
    rcases mem_append.1 member with mine | theirs
    · exact newest.forgotten a (mem_append_left _ mine)
    rcases other.forgotten a theirs with known | ⟨full, earlier⟩
    · exact newest.forgotten a (mem_append_right _ known)
    by_cases all : ∀ b ∈ held, b ∈ kept
    · have whole := (newest_nodup other).subperm all
      have size := whole.length_le
      have same := whole.perm_of_length_le (full ▸ newest.bounded)
      exact .inr ⟨by have := newest.bounded; omega, fun c member => earlier c (same.mem_iff.2 member)⟩
    · push Not at all
      obtain ⟨b, there, gone⟩ := all
      obtain ⟨size, later⟩ :=
        (newest.forgotten b (mem_append_right _ there)).resolve_left gone
      exact .inr ⟨size, fun c member => (earlier b there).trans (later c member)⟩

/-- What is kept is what fewer than `n` have come after. -/
theorem newest_iff (newest : Newest key n past held) (known : a ∈ past) :
    a ∈ held ↔ ((past.map key).toFinset.filter (key a < ·)).card < n := by
  have distinct : (held.map key).Nodup :=
    pairwise_map.2 (newest.ordered.imp (fun less => ne_of_lt less))
  have size := toFinset_card_of_nodup distinct
  rw [length_map] at size
  constructor
  · intro member
    have inside : key a ∈ (held.map key).toFinset :=
      mem_toFinset.2 (mem_map_of_mem member)
    have fewer : (past.map key).toFinset.filter (key a < ·) ⊆
        (held.map key).toFinset.erase (key a) := by
      intro x above
      obtain ⟨there, less⟩ := Finset.mem_filter.1 above
      obtain ⟨b, old, rfl⟩ := mem_map.1 (mem_toFinset.1 there)
      refine Finset.mem_erase.2 ⟨ne_of_gt less, mem_toFinset.2 ?_⟩
      rcases newest.forgotten b old with stays | ⟨_, earlier⟩
      · exact mem_map_of_mem stays
      · exact absurd less (lt_asymm (earlier a member))
    have counted := Finset.card_le_card fewer
    have erased := Finset.card_erase_lt_of_mem inside
    have bounded := newest.bounded
    omega
  · intro few
    by_contra gone
    obtain ⟨full, earlier⟩ := (newest.forgotten a known).resolve_left gone
    have more : (held.map key).toFinset ⊆ (past.map key).toFinset.filter (key a < ·) := by
      intro x there
      obtain ⟨b, member, rfl⟩ := mem_map.1 (mem_toFinset.1 there)
      exact Finset.mem_filter.2 ⟨mem_toFinset.2 (mem_map_of_mem (newest.within b member)),
        earlier b member⟩
    have counted := Finset.card_le_card more
    omega

end Windows
