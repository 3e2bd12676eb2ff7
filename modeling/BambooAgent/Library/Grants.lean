import Mathlib.Data.List.Pairwise

/- Runs whose steps grant things. When every grant is recorded as it is made, stays on
   record, and is only made while nothing on record collides with it, the grants of a
   whole run do not collide with each other. -/
namespace Grants

variable {σ κ : Type}

/-- A run, and everything its steps granted in order. -/
inductive Runs (step : σ → List κ → σ → Prop) : σ → List κ → σ → Prop where
  | refl (s : σ) : Runs step s [] s
  | tail {granted more : List κ} (run : Runs step s granted t)
      (last : step t more u) : Runs step s (granted ++ more) u

/-- How the steps keep their record. -/
structure Recorded (step : σ → List κ → σ → Prop) (sound : σ → Prop) (recorded : σ → κ → Prop)
    (apart : κ → κ → Prop) : Prop where
  stays : ∀ {s t granted}, sound s → step s granted t → sound t
  kept : ∀ {s t granted k}, sound s → step s granted t → recorded s k → recorded t k
  single : ∀ {s t granted}, step s granted t → granted = [] ∨ ∃ k, granted = [k]
  fresh : ∀ {s t k}, sound s → step s [k] t →
    recorded t k ∧ ∀ old, recorded s old → apart old k

section Laws
variable {step : σ → List κ → σ → Prop} {sound : σ → Prop} {recorded : σ → κ → Prop}
  {apart : κ → κ → Prop} {s t : σ} {granted : List κ}

section
variable (keeps : Recorded step sound recorded apart)
include keeps

theorem runs_sound (start : sound s) (run : Runs step s granted t) : sound t := by
  induction run with
  | refl => exact start
  | tail _ last ih => exact keeps.stays ih last

theorem granted_recorded (start : sound s) (run : Runs step s granted t) :
    ∀ k ∈ granted, recorded t k := by
  induction run with
  | refl =>
    intro k none
    cases none
  | tail first last ih =>
    intro k member
    have middle := runs_sound keeps start first
    cases List.mem_append.1 member with
    | inl earlier => exact keeps.kept middle last (ih k earlier)
    | inr now =>
      rcases keeps.single last with none | ⟨one, only⟩
      · rw [none] at now
        cases now
      · subst only
        cases List.mem_singleton.1 now
        exact (keeps.fresh middle last).1

theorem granted_apart (start : sound s) (run : Runs step s granted t) : granted.Pairwise apart := by
  induction run with
  | refl => exact List.Pairwise.nil
  | tail first last ih =>
    have middle := runs_sound keeps start first
    have known := granted_recorded keeps start first
    rcases keeps.single last with none | ⟨one, only⟩
    · rw [none, List.append_nil]
      exact ih
    · subst only
      apply List.pairwise_append.2
      refine ⟨ih, List.pairwise_singleton _ _, ?_⟩
      intro old earlier k now
      cases List.mem_singleton.1 now
      exact (keeps.fresh middle last).2 old (known old earlier)

end

end Laws

end Grants
