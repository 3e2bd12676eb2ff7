import BambooAgent.Library.Interleavings

/- Transactions whose durable writes are made one after the other: a crash or a failed write
   leaves the first of them behind, and only a transaction that has made them all answers. -/
namespace Transactions
open Interleavings

variable {σ ω ε α β : Type}

structure Transaction (ω ε α : Type) where
  writes : List ω
  answer : Except ε α

namespace Transaction

def pure (a : α) : Transaction ω ε α := ⟨[], .ok a⟩

def bind (m : Transaction ω ε α) (f : α → Transaction ω ε β) : Transaction ω ε β :=
  match m.answer with
  | .error refused => ⟨m.writes, .error refused⟩
  | .ok a => ⟨m.writes ++ (f a).writes, (f a).answer⟩

instance : Monad (Transaction ω ε) where
  pure := pure
  bind := bind

def put (write : ω) : Transaction ω ε Unit := ⟨[write], .ok ()⟩

def check (result : Except ε α) : Transaction ω ε α := ⟨[], result⟩

/-- What is on disk after the first `count` writes. -/
def stopped (apply : σ → ω → σ) (s : σ) (t : Transaction ω ε α) (count : Nat) : σ :=
  run apply s (t.writes.take count)

def finished (apply : σ → ω → σ) (s : σ) (t : Transaction ω ε α) : σ := run apply s t.writes

end Transaction

variable {f : α → Transaction ω ε β}

theorem answer_bind :
    (m >>= f).answer = .ok b ↔ ∃ a, m.answer = .ok a ∧ (f a).answer = .ok b := by
  change (Transaction.bind m f).answer = .ok b ↔ _
  unfold Transaction.bind
  cases m.answer with
  | error refused =>
    constructor
    · intro impossible
      cases impossible
    · rintro ⟨_, impossible, _⟩
      cases impossible
  | ok a =>
    constructor
    · exact fun answered => ⟨a, rfl, answered⟩
    · rintro ⟨_, same, answered⟩
      cases same
      exact answered

theorem answer_ended (ended : m.answer = .ok a) :
    (m >>= f).answer = (f a).answer := by
  change (Transaction.bind m f).answer = _
  unfold Transaction.bind
  rw [ended]

theorem answer_check :
    (Transaction.check result : Transaction ω ε α).answer = result := rfl

/-- Each write meets the condition in the state that it finds, and the answer fits the state that
    all of them leave. -/
structure Keeps (apply : σ → ω → σ) (condition : σ → ω → Prop) (s : σ)
    (t : Transaction ω ε α) (Q : α → σ → Prop) : Prop where
  along : Along apply condition s t.writes
  answered : ∀ a, t.answer = .ok a → Q a (t.finished apply s)

section Rules
variable {apply : σ → ω → σ} {condition : σ → ω → Prop} {s : σ} {t : Transaction ω ε α}
  {Q : α → σ → Prop} {R : β → σ → Prop}

theorem keeps_pure (holds : Q a s) :
    Keeps apply condition s (pure a : Transaction ω ε α) Q where
  along := trivial
  answered := by
    intro b same
    cases same
    exact holds

theorem keeps_check (holds : ∀ a, result = .ok a → Q a s) :
    Keeps apply condition s (Transaction.check result : Transaction ω ε α) Q where
  along := trivial
  answered := holds

theorem keeps_put {Q : Unit → σ → Prop} (allowed : condition s write)
    (holds : Q () (apply s write)) :
    Keeps apply condition s (Transaction.put write : Transaction ω ε Unit) Q where
  along := ⟨allowed, trivial⟩
  answered := fun _ _ => holds

theorem keeps_bind (first : Keeps apply condition s t Q)
    (rest : ∀ a s', t.answer = .ok a → Q a s' → Keeps apply condition s' (f a) R) :
    Keeps apply condition s (t >>= f) R := by
  change Keeps apply condition s (Transaction.bind t f) R
  unfold Transaction.bind
  cases ended : t.answer with
  | error refused => exact ⟨first.along, fun _ impossible => nomatch impossible⟩
  | ok a =>
    have second := rest a (t.finished apply s) ended (first.answered a ended)
    refine ⟨along_append.2 ⟨first.along, second.along⟩, ?_⟩
    intro b answered
    have held := second.answered b answered
    unfold Transaction.finished run at ⊢
    rw [List.foldl_append]
    exact held

theorem keeps_mono (kept : Keeps apply condition s t Q)
    (implied : ∀ s write, condition s write → weaker s write)
    (after : ∀ a s', Q a s' → Q' a s') : Keeps apply weaker s t Q' where
  along := along_mono implied t.writes kept.along
  answered := fun a answered => after a _ (kept.answered a answered)

end Rules

end Transactions
