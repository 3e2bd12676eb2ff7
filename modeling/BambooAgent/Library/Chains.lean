import Mathlib.Data.List.Nodup
import Mathlib.Data.Finset.Card

/- Walking a partial parent function upwards: how a walk can end, that a walk which ends
   never meets an item twice, and how many rounds suffice to see how it ends. -/
namespace Chains

variable {κ : Type}

/-- From a start, the items a walk passes and where it stops: at a root (`none`) or at an
    item that has no record. A walk round a cycle has no end. -/
inductive Ends (link : κ → Option (Option κ)) : Option κ → List κ → Option κ → Prop where
  | root : Ends link none [] none
  | missing {id : κ} (absent : link id = none) : Ends link (some id) [] (some id)
  | step {id : κ} {next : Option κ} {passed : List κ} {final : Option κ}
      (found : link id = some next) (tail : Ends link next passed final) :
      Ends link (some id) (id :: passed) final

/-- The walk reaches a root. -/
def Complete (link : κ → Option (Option κ)) (start : Option κ) : Prop :=
  ∃ passed, Ends link start passed none

variable {link : κ → Option (Option κ)}

variable {start final : Option κ} {passed : List κ}

theorem ends_unique (first : Ends link start passed final)
    (second : Ends link start passed' final') : passed = passed' ∧ final = final' := by
  induction first generalizing passed' final' with
  | root =>
    cases second
    exact ⟨rfl, rfl⟩
  | missing absent =>
    cases second with
    | missing _ => exact ⟨rfl, rfl⟩
    | step found tail => simp [absent] at found
  | step found tail ih =>
    cases second with
    | missing absent => simp [absent] at found
    | step found' tail' =>
      have same : _ = _ := Option.some.inj (found.symm.trans found')
      subst same
      obtain ⟨rest, stop⟩ := ih tail'
      exact ⟨by rw [rest], stop⟩

section
variable (walk : Ends link start passed final)
include walk

theorem ends_suffix {id : κ} (split : passed = before ++ id :: after) :
    Ends link (some id) (id :: after) final := by
  induction walk generalizing before with
  | root => simp at split
  | missing absent => simp at split
  | @step first next passed final found tail ih =>
    cases before with
    | nil =>
      simp only [List.nil_append, List.cons.injEq] at split
      obtain ⟨same, rest⟩ := split
      subst same; subst rest
      exact Ends.step found tail
    | cons _ before =>
      simp only [List.cons_append, List.cons.injEq] at split
      exact ih split.2

theorem ends_nodup : passed.Nodup := by
  induction walk with
  | root => exact List.nodup_nil
  | missing absent => exact List.nodup_nil
  | @step id next passed final found tail ih =>
    refine List.nodup_cons.2 ⟨?_, ih⟩
    intro again
    obtain ⟨before, after, split⟩ := List.append_of_mem again
    have shorter := ends_suffix tail split
    have same := (ends_unique shorter (Ends.step found tail)).1
    have lengths := congrArg List.length same
    rw [split] at lengths
    simp only [List.length_cons, List.length_append] at lengths
    omega

theorem ends_recorded : ∀ id ∈ passed, ∃ next, link id = some next := by
  induction walk with
  | root => simp
  | missing absent => simp
  | step found tail ih =>
    intro id member
    rcases List.mem_cons.1 member with same | later
    · exact ⟨_, same ▸ found⟩
    · exact ih id later

end

theorem ends_length {range : List κ} (inside : ∀ id next, link id = some next → id ∈ range)
    (walk : Ends link start passed final) : passed.length ≤ range.length := by
  apply (ends_nodup walk).length_le_of_subset
  intro id member
  obtain ⟨next, found⟩ := ends_recorded walk id member
  exact inside id next found

theorem complete_step {id : κ} (found : link id = some next) :
    Complete link (some id) ↔ Complete link next := by
  constructor
  · rintro ⟨passed, walk⟩
    cases walk with
    | step found' tail =>
      have same : _ = _ := Option.some.inj (found.symm.trans found')
      exact same ▸ ⟨_, tail⟩
  · rintro ⟨passed, walk⟩
    exact ⟨id :: passed, Ends.step found walk⟩

theorem complete_root : Complete link none := ⟨[], Ends.root⟩

section Guarded
variable [DecidableEq κ]

inductive Guarded where
  | ended
  | missing
  | repeated
  | exhausted

/-- A walk that refuses to meet an item twice. -/
def guardedWalk (link : κ → Option (Option κ)) : Nat → List κ → Option κ → Guarded
  | _, _, none => .ended
  | 0, _, some _ => .exhausted
  | rounds + 1, seen, some id =>
      if id ∈ seen then .repeated
      else match link id with
        | none => .missing
        | some next => guardedWalk link rounds (id :: seen) next

theorem guardedWalk_finishes (inside : ∀ id next, link id = some next → id ∈ range)
    (distinct : seen.Nodup) (within : seen ⊆ range) (enough : range.length < rounds + seen.length) :
    guardedWalk link rounds seen start ≠ .exhausted := by
  induction rounds generalizing seen start with
  | zero =>
    have bound := distinct.length_le_of_subset within
    omega
  | succ rounds ih =>
    cases start with
    | none => simp [guardedWalk]
    | some id =>
      simp only [guardedWalk]
      split
      · simp
      · rename_i unseen
        cases found : link id with
        | none => simp
        | some next =>
          apply ih (List.nodup_cons.2 ⟨unseen, distinct⟩)
          · intro c member
            rcases List.mem_cons.1 member with same | old
            · exact same ▸ inside id next found
            · exact within old
          · simp only [List.length_cons]
            omega

end Guarded

end Chains
