import Mathlib.Data.List.Basic

/- Runs of a list of steps that stop at the first refusal. A position of such a run is a
   split of the list together with the state its first part leads to. -/
namespace Batches

variable {ε σ α : Type} {step : σ → α → Except ε σ} {items : List α} {start last : σ}

theorem foldlM_append_ok {before : List α} :
    (before ++ after).foldlM step start = .ok last ↔
      ∃ mid, before.foldlM step start = .ok mid ∧ after.foldlM step mid = .ok last := by
  rw [List.foldlM_append]
  cases before.foldlM step start with
  | error e =>
    constructor
    · intro run
      cases run
    · intro ⟨_, run, _⟩
      cases run
  | ok mid =>
    constructor
    · intro run
      exact ⟨mid, rfl, run⟩
    · intro ⟨_, same, run⟩
      cases same
      exact run

theorem foldlM_single : [item].foldlM step start = .ok last ↔ step start item = .ok last := by
  simp only [List.foldlM_cons, List.foldlM_nil]
  cases step start item with
  | error e => exact Iff.rfl
  | ok next => exact Iff.rfl

/-- What holds at the start and is kept at every position holds at the end. -/
theorem foldlM_invariant {holds : List α → σ → Prop} (begins : holds items start)
    (one : ∀ before item rest mid next, items = before ++ item :: rest →
      before.foldlM step start = .ok mid → holds (item :: rest) mid → step mid item = .ok next →
      holds rest next)
    (run : items.foldlM step start = .ok last) : holds [] last := by
  have every : ∀ rest before mid, items = before ++ rest → before.foldlM step start = .ok mid →
      holds rest mid → rest.foldlM step mid = .ok last → holds [] last := by
    intro rest
    induction rest with
    | nil =>
      intro before mid _ _ here done
      cases done
      exact here
    | cons item rest ih =>
      intro before mid whole sofar here remaining
      have cut : ([item] ++ rest).foldlM step mid = .ok last := remaining
      obtain ⟨next, first, later⟩ := foldlM_append_ok.1 cut
      have moved := foldlM_single.1 first
      apply ih (before ++ [item]) next
      · rw [whole, List.append_assoc]
        rfl
      · exact foldlM_append_ok.2 ⟨mid, sofar, first⟩
      · exact one before item rest mid next whole sofar here moved
      · exact later
  exact every items [] start rfl rfl begins run

end Batches
