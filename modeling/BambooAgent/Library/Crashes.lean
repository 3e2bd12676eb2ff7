import Mathlib.Data.List.Basic

/- Programs over a state that may return an error or be stopped for good at any step. What
   such a program is allowed to do to the state, it may be stopped in the middle of. -/
namespace Crashes

variable {σ ε α β : Type}

/-- How a program can end short of its result: with an error, or because its process died. -/
inductive Stop (ε : Type) where
  | failed (error : ε)
  | died

theorem of_toOption {result : Except (Stop ε) α} (found : result.toOption = some a) :
    result = .ok a := by
  cases result with
  | error _ => cases found
  | ok _ =>
    cases found
    rfl

def Program (σ ε α : Type) : Type := σ → Except (Stop ε) α × σ

namespace Program

def pure (a : α) : Program σ ε α := fun s => (.ok a, s)

def bind (m : Program σ ε α) (f : α → Program σ ε β) : Program σ ε β := fun s =>
  match m s with
  | (.ok a, s') => f a s'
  | (.error stop, s') => (.error stop, s')

instance : Monad (Program σ ε) where
  pure := pure
  bind := bind

end Program

def Ended (Q : α → σ → Prop) (E : σ → Prop) : Except (Stop ε) α × σ → Prop
  | (.ok a, s) => Q a s
  | (.error _, s) => E s

/-- What a part of a program may do to the state, in one step or in many. -/
structure Guarantee (σ : Type) where
  allows : σ → σ → Prop
  refl : ∀ s, allows s s
  trans : ∀ {s t u}, allows s t → allows t u → allows s u

/-- From `P` on, the program only does what is allowed, also when it is stopped, and has
    `Q` to show for its result. -/
def Guards (G : Guarantee σ) (P : σ → Prop) (m : Program σ ε α) (Q : α → σ → Prop) : Prop :=
  ∀ s, P s → Ended (fun a t => G.allows s t ∧ Q a t) (fun t => G.allows s t) (m s)

/-- A fact that nothing allowed can destroy. -/
def Stable (G : Guarantee σ) (F : σ → Prop) : Prop := ∀ s t, F s → G.allows s t → F t

section Rules
variable {G : Guarantee σ} {P : σ → Prop} {Q : α → σ → Prop} {R : β → σ → Prop}
  {m : Program σ ε α} {f : α → Program σ ε β}

theorem guards_pure (holds : ∀ s, P s → Q a s) :
    Guards G P (pure a : Program σ ε α) Q :=
  fun s start => ⟨G.refl s, holds s start⟩

theorem ended_bind (first : Ended Q E (m s))
    (stopped : ∀ t, E t → E' t) (rest : ∀ a t, Q a t → Ended R E' (f a t)) :
    Ended R E' ((m >>= f) s) := by
  change Ended R E' (Program.bind m f s)
  unfold Program.bind
  cases run : m s with
  | mk result t =>
    rw [run] at first
    cases result with
    | error stop => exact stopped t first
    | ok a => exact rest a t first

theorem ended_mono {result : Except (Stop ε) α × σ}
    (ended : Ended Q E result) (after : ∀ a t, Q a t → Q' a t) (stopped : ∀ t, E t → E' t) :
    Ended Q' E' result := by
  obtain ⟨result, t⟩ := result
  cases result with
  | error stop => exact stopped t ended
  | ok a => exact after a t ended

theorem guards_bind (first : Guards G P m Q) (rest : ∀ a, Guards G (Q a) (f a) R) :
    Guards G P (m >>= f) R := by
  intro s start
  apply ended_bind (first s start) (fun _ allowed => allowed)
  intro a t ⟨allowed, middle⟩
  apply ended_mono (rest a t middle)
  · intro b u ⟨further, last⟩
    exact ⟨G.trans allowed further, last⟩
  · intro u further
    exact G.trans allowed further

theorem guards_weaken (guards : Guards G P m Q)
    (before : ∀ s, P' s → P s) (after : ∀ a s, Q a s → Q' a s) : Guards G P' m Q' := by
  intro s start
  apply ended_mono (guards s (before s start)) ?_ (fun _ allowed => allowed)
  intro a t ⟨allowed, holds⟩
  exact ⟨allowed, after a t holds⟩

theorem stable_and (first : Stable G F) (second : Stable G F') :
    Stable G (fun s => F s ∧ F' s) :=
  fun s t holds allowed => ⟨first s t holds.1 allowed, second s t holds.2 allowed⟩

/-- Stable facts are carried past a program that says nothing about them. -/
theorem guards_frame (stable : Stable G F) (guards : Guards G P m Q) :
    Guards G (fun s => P s ∧ F s) m (fun a s => Q a s ∧ F s) := by
  intro s ⟨start, held⟩
  apply ended_mono (guards s start) ?_ (fun _ allowed => allowed)
  intro a t ⟨allowed, holds⟩
  exact ⟨allowed, holds, stable s t held allowed⟩

/-- A loop keeps an invariant that says which items it has passed. -/
theorem guards_foldlM {body : α → β → Program σ ε α}
    {I : List β → α → σ → Prop} (one : ∀ passed item rest, items = passed ++ item :: rest →
      ∀ a, Guards G (I passed a) (body a item) (fun b => I (passed ++ [item]) b)) (a : α) :
    Guards G (I [] a) (items.foldlM body a) (fun b => I items b) := by
  have general : ∀ rest passed, items = passed ++ rest → ∀ a,
      Guards G (I passed a) (rest.foldlM body a) (fun b => I items b) := by
    intro rest
    induction rest with
    | nil =>
      intro passed whole a
      rw [List.append_nil] at whole
      rw [whole]
      exact guards_pure (fun _ holds => holds)
    | cons item rest ih =>
      intro passed whole a
      apply guards_bind (one passed item rest whole a)
      intro b
      exact ih (passed ++ [item]) (by rw [whole, List.append_assoc]; rfl) b
  exact general items [] rfl a

end Rules

end Crashes
