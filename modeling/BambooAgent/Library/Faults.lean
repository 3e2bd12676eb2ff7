import BambooAgent.Library.Crashes

/- Programs made of system calls, each of which may fail or be where the process stops: how such
   a program can end, from the rules of its parts. -/
namespace Faults
open Crashes

variable {σ ε α β : Type}

/-- What becomes of one call: one that does not proceed may have been half done. -/
inductive Fate (ε : Type) where
  | proceeds
  | fails (error : ε) (kept : Nat)
  | stops (kept : Nat)

abbrev Schedule (ε : Type) := Nat → Fate ε

def healthy : Schedule ε := fun _ => .proceeds

/-- Some call does not proceed. -/
def Disturbed (calls : Schedule ε) : Prop :=
  (∃ time error kept, calls time = .fails error kept) ∨ ∃ time kept, calls time = .stops kept

theorem healthy_undisturbed : ¬ Disturbed (healthy : Schedule ε) := by
  rintro (⟨_, _, _, impossible⟩ | ⟨_, _, impossible⟩)
  · cases impossible
  · cases impossible

/-- The state, and how many calls have been made. -/
structure Disk (σ : Type) where
  state : σ
  clock : Nat

abbrev Calling (σ ε α : Type) := Program (Disk σ) ε α

def lift (result : Except ε α) : Calling σ ε α := fun disk =>
  match result with
  | .ok a => (.ok a, disk)
  | .error error => (.error (.failed error), disk)

def syscall (calls : Schedule ε) (act : σ → Except ε (α × σ)) (part : Nat → σ → σ) :
    Calling σ ε α := fun disk =>
  match calls disk.clock with
  | .fails error kept => (.error (.failed error), ⟨part kept disk.state, disk.clock + 1⟩)
  | .stops kept => (.error .died, ⟨part kept disk.state, disk.clock + 1⟩)
  | .proceeds =>
    match act disk.state with
    | .ok (a, state) => (.ok a, ⟨state, disk.clock + 1⟩)
    | .error error => (.error (.failed error), ⟨disk.state, disk.clock + 1⟩)

def untouched (_ : Nat) (state : σ) : σ := state

/-- A call that reads, or that flushes what is already there. -/
def reading (calls : Schedule ε) (read : σ → Except ε α) : Calling σ ε α :=
  syscall calls (fun state => (read state).map (fun a => (a, state))) untouched

def flush (calls : Schedule ε) : Calling σ ε Unit := reading calls (fun _ => .ok ())

/-- An error becomes a result; nothing survives the end of the process. -/
def caught (m : Calling σ ε α) : Calling σ ε (Except ε α) := fun disk =>
  match m disk with
  | (.ok a, disk') => (.ok (.ok a), disk')
  | (.error (.failed error), disk') => (.ok (.error error), disk')
  | (.error .died, disk') => (.error .died, disk')

/-- From `P` on, the program has `Q` to show for its result, `X` for its error, and `D` when its
    process stops. -/
def Triple (P : σ → Prop) (m : Calling σ ε α) (Q : α → σ → Prop) (X : ε → σ → Prop)
    (D : σ → Prop) : Prop :=
  ∀ disk, P disk.state →
    match m disk with
    | (.ok a, disk') => Q a disk'.state
    | (.error (.failed error), disk') => X error disk'.state
    | (.error .died, disk') => D disk'.state

/-- Wherever a program ends short of its result. -/
abbrev Short (D : σ → Prop) : ε → σ → Prop := fun _ => D

variable {calls : Schedule ε}

section Rules
variable {P D : σ → Prop} {m : Calling σ ε α} {f : α → Calling σ ε β} {Q : α → σ → Prop}
  {R : β → σ → Prop} {X : ε → σ → Prop}

theorem triple_pure (holds : ∀ s, P s → Q a s) :
    Triple P (pure a : Calling σ ε α) Q X D :=
  fun disk before => holds disk.state before

theorem triple_lift (fine : ∀ s a, P s → result = .ok a → Q a s)
    (refused : ∀ s error, P s → result = .error error → X error s) :
    Triple P (lift result) Q X D := by
  intro disk before
  cases result with
  | ok a => exact fine disk.state a before rfl
  | error error => exact refused disk.state error before rfl

theorem triple_bind (first : Triple P m Q X D) (rest : ∀ a, Triple (Q a) (f a) R X D) :
    Triple P (m >>= f) R X D := by
  intro disk before
  have middle := first disk before
  change match Program.bind m f disk with
    | (.ok b, disk') => R b disk'.state
    | (.error (.failed error), disk') => X error disk'.state
    | (.error .died, disk') => D disk'.state
  unfold Program.bind
  cases ran : m disk with
  | mk result disk' =>
    rw [ran] at middle
    cases result with
    | ok a => exact rest a disk' middle
    | error stop =>
      cases stop with
      | failed error => exact middle
      | died => exact middle

theorem triple_weaken
    (triple : Triple P m Q X D) (before : ∀ s, P' s → P s) (after : ∀ a s, Q a s → Q' a s)
    (failed : ∀ e s, X e s → X' e s) (died : ∀ s, D s → D' s) : Triple P' m Q' X' D' := by
  intro disk start
  have ended := triple disk (before disk.state start)
  cases ran : m disk with
  | mk result disk' =>
    rw [ran] at ended
    cases result with
    | ok a => exact after a _ ended
    | error stop =>
      cases stop with
      | failed error => exact failed error _ ended
      | died => exact died _ ended

theorem triple_caught (triple : Triple P m Q X D) :
    Triple P (caught m) (fun result s =>
      match result with
      | .ok a => Q a s
      | .error error => X error s) Y D := by
  intro disk before
  have ended := triple disk before
  unfold caught
  cases ran : m disk with
  | mk result disk' =>
    rw [ran] at ended
    cases result with
    | ok a => exact ended
    | error stop =>
      cases stop with
      | failed error => exact ended
      | died => exact ended

/-- One call: what it does when it proceeds, why it may refuse, and what it may leave half done. -/
theorem triple_syscall (acts : ∀ s a s', P s → act s = .ok (a, s') → Q a s')
    (refuses : ∀ s error, P s → act s = .error error → X error s)
    (fails : ∀ s error kept, Disturbed calls → P s → X error (part kept s))
    (dies : ∀ s kept, Disturbed calls → P s → D (part kept s)) :
    Triple P (syscall calls act part) Q X D := by
  intro disk before
  unfold syscall
  cases fate : calls disk.clock with
  | fails error kept => exact fails disk.state error kept (.inl ⟨_, _, _, fate⟩) before
  | stops kept => exact dies disk.state kept (.inr ⟨_, _, fate⟩) before
  | proceeds =>
    cases ran : act disk.state with
    | error error => exact refuses disk.state error before ran
    | ok answer => exact acts disk.state answer.1 answer.2 before ran

theorem triple_reading {read : σ → Except ε α} (reads : ∀ s a, P s → read s = .ok a → Q a s)
    (refuses : ∀ s error, P s → read s = .error error → X error s)
    (fails : ∀ s error, Disturbed calls → P s → X error s)
    (dies : ∀ s, Disturbed calls → P s → D s) : Triple P (reading calls read) Q X D := by
  refine triple_syscall ?_ ?_ (fun s error _ => fails s error) (fun s _ => dies s)
  · intro s a s' before ran
    cases found : read s with
    | error error =>
      rw [found] at ran
      cases ran
    | ok answer =>
      rw [found] at ran
      cases ran
      exact reads _ _ before found
  · intro s error before ran
    cases found : read s with
    | error other =>
      rw [found] at ran
      cases ran
      exact refuses _ _ before found
    | ok answer =>
      rw [found] at ran
      cases ran

theorem triple_flush (short : ∀ s, Disturbed calls → P s → D s) :
    Triple P (flush calls) (fun _ => P) (Short D) D := by
  refine triple_reading (fun _ _ before _ => before) ?_ (fun s _ => short s) short
  intro s error _ impossible
  cases impossible

theorem triple_exists {ι : Type} {P : ι → σ → Prop}
    (every : ∀ i, Triple (P i) m Q X D) : Triple (fun s => ∃ i, P i s) m Q X D := by
  rintro disk ⟨i, before⟩
  exact every i disk before

theorem triple_or (first : Triple P m Q X D) (second : Triple P' m Q X D) :
    Triple (fun s => P s ∨ P' s) m Q X D := by
  rintro disk (before | before)
  · exact first disk before
  · exact second disk before

/-- A fact that no state takes part in. -/
theorem triple_and (given : fact → Triple P m Q X D) :
    Triple (fun s => fact ∧ P s) m Q X D := by
  rintro disk ⟨holds, before⟩
  exact given holds disk before

end Rules

end Faults
