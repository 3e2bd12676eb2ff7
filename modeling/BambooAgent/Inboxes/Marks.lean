import BambooAgent.Inboxes.Owned

/- The two watermark files read together, and what each way of writing them changes. -/
namespace Inboxes
open SortedMaps Crashes Checks

structure Marks where
  granted : Nat
  versioned : Bool
  interrupt : Nat
  owned : Bool

def Inbox.marks (inbox : Inbox) : Except SessionInboxError Marks := do
  let (granted, versioned) ← inbox.readActivationWatermark
  let interrupt ← inbox.readInterruptGeneration
  let owned ← inbox.ownedEnabled
  return { granted, versioned, interrupt, owned }

section
variable {inbox : Inbox} {marks : Marks}

theorem marks_eq_ok : inbox.marks = .ok marks ↔
    inbox.readActivationWatermark = .ok (marks.granted, marks.versioned) ∧
      inbox.readInterruptGeneration = .ok marks.interrupt ∧
      inbox.ownedEnabled = .ok marks.owned := by
  constructor
  · intro held
    obtain ⟨⟨granted, versioned⟩, first, held⟩ := bind_eq_ok.1 held
    obtain ⟨interrupt, second, held⟩ := bind_eq_ok.1 held
    obtain ⟨owned, third, held⟩ := bind_eq_ok.1 held
    cases pure_eq_ok.1 held
    exact ⟨first, second, third⟩
  · intro ⟨first, second, third⟩
    exact bind_eq_ok.2 ⟨_, first, bind_eq_ok.2 ⟨_, second, bind_eq_ok.2 ⟨_, third, rfl⟩⟩⟩

theorem marks_congr {other : Inbox} (activation : other.activation = inbox.activation)
    (interrupt : other.interrupt = inbox.interrupt) : other.marks = inbox.marks := by
  unfold Inbox.marks Inbox.readActivationWatermark Inbox.readInterruptGeneration
    Inbox.ownedEnabled Inbox.activationInterruptSnapshot Inbox.activationVersion
    Inbox.interruptVersion
  rw [activation, interrupt]

/- The shapes that the two files can have. -/

def bareActivation : Option Watermark → Option Nat
  | none => some 0
  | some (.plain granted) => some granted
  | some (.versioned _ _ _) => none

/-- What the files say, once every read of them succeeds. -/
inductive Read : Option Watermark → Option Watermark → Marks → Prop
  | bare (activation interrupt granted level)
      (first : bareActivation activation = some granted)
      (second : bareActivation interrupt = some level) :
      Read activation interrupt { granted, versioned := false, interrupt := level, owned := false }
  | fenced (granted snapshot interrupt level) (second : bareActivation interrupt = some level) :
      Read (some (.versioned 2 granted snapshot)) interrupt
        { granted, versioned := true, interrupt := level, owned := false }
  | upgrading (granted snapshot interrupt level) (second : bareActivation interrupt = some level) :
      Read (some (.versioned 3 granted (some snapshot))) interrupt
        { granted, versioned := true, interrupt := snapshot, owned := true }
  | owned (granted snapshot level rest) :
      Read (some (.versioned 3 granted (some snapshot))) (some (.versioned 3 level rest))
        { granted, versioned := true, interrupt := level, owned := true }

theorem read_marks (read : Read inbox.activation inbox.interrupt marks) :
    inbox.marks = .ok marks := by
  obtain ⟨generation, activation, interrupt, queues, admitted⟩ := inbox
  apply marks_eq_ok.2
  cases read with
  | bare _ _ granted level first second =>
    rcases activation with _ | ⟨granted⟩ | ⟨version, granted, snapshot⟩ <;>
      rcases interrupt with _ | ⟨level⟩ | ⟨version', level, snapshot'⟩ <;>
      cases first <;> cases second <;> exact ⟨rfl, rfl, rfl⟩
  | fenced granted snapshot _ level second =>
    rcases interrupt with _ | ⟨level⟩ | ⟨version', level, snapshot'⟩ <;> cases second <;>
      exact ⟨rfl, rfl, rfl⟩
  | upgrading granted snapshot _ level second =>
    rcases interrupt with _ | ⟨level⟩ | ⟨version', level, snapshot'⟩ <;> cases second <;>
      exact ⟨rfl, rfl, rfl⟩
  | owned => exact ⟨rfl, rfl, rfl⟩

section
variable (held : inbox.marks = .ok marks)
include held

theorem marks_read : Read inbox.activation inbox.interrupt marks := by
  obtain ⟨granted, versioned, level, owned⟩ := marks
  obtain ⟨first, second, third⟩ := marks_eq_ok.1 held
  obtain ⟨generation, activation, interrupt, queues, admitted⟩ := inbox
  dsimp only at first
  have interruptRead : ∀ version generation snapshot,
      interrupt = some (.versioned version generation snapshot) → version = 3 := by
    intro version generation snapshot same
    subst same
    by_contra other
    simp [Inbox.readInterruptGeneration, other] at second
  rcases activation with _ | ⟨found⟩ | ⟨version, found, snapshot⟩
  · rcases interrupt with _ | ⟨level'⟩ | ⟨version', level', snapshot'⟩
    · cases first; cases second; cases third
      exact .bare _ _ _ _ rfl rfl
    · cases first; cases second; cases third
      exact .bare _ _ _ _ rfl rfl
    · cases interruptRead _ _ _ rfl
      cases third
  · rcases interrupt with _ | ⟨level'⟩ | ⟨version', level', snapshot'⟩
    · cases first; cases second; cases third
      exact .bare _ _ _ _ rfl rfl
    · cases first; cases second; cases third
      exact .bare _ _ _ _ rfl rfl
    · cases interruptRead _ _ _ rfl
      cases third
  · have known : version = 2 ∨ version = 3 := by
      by_contra other
      push Not at other
      simp [Inbox.readActivationWatermark, other.1, other.2] at first
    cases known with
    | inl two =>
      subst two
      rcases interrupt with _ | ⟨level'⟩ | ⟨version', level', snapshot'⟩
      · cases first; cases second; cases third
        exact .fenced _ _ _ _ rfl
      · cases first; cases second; cases third
        exact .fenced _ _ _ _ rfl
      · cases interruptRead _ _ _ rfl
        cases third
    | inr three =>
      subst three
      cases snapshot with
      | none => cases first
      | some snapshot =>
        rcases interrupt with _ | ⟨level'⟩ | ⟨version', level', snapshot'⟩
        · cases first; cases second; cases third
          exact .upgrading _ _ _ _ rfl
        · cases first; cases second; cases third
          exact .upgrading _ _ _ _ rfl
        · cases interruptRead _ _ _ rfl
          cases first; cases second; cases third
          exact .owned _ _ _ _

theorem owned_versioned (owned : marks.owned = true) : marks.versioned = true := by
  obtain ⟨_, activation, interrupt, _, _⟩ := inbox
  have read := marks_read held
  cases read with
  | bare => cases owned
  | fenced => cases owned
  | upgrading => rfl
  | owned => rfl

/- The writes. -/

theorem marks_bare (bare : marks.versioned = false) (granted : Nat) :
    { inbox with activation := some (.plain granted) }.marks = .ok { marks with granted } := by
  apply read_marks
  obtain ⟨_, activation, interrupt, _, _⟩ := inbox
  have read := marks_read held
  cases read with
  | bare _ _ _ level _ second => exact .bare _ _ _ _ rfl second
  | fenced => cases bare
  | upgrading => cases bare
  | owned => cases bare

theorem marks_fenced (unowned : marks.owned = false) (granted : Nat) (snapshot : Option Nat) :
    { inbox with activation := some (.versioned 2 granted snapshot) }.marks =
      .ok { marks with granted, versioned := true } := by
  apply read_marks
  obtain ⟨_, activation, interrupt, _, _⟩ := inbox
  have read := marks_read held
  cases read with
  | bare _ _ _ level _ second => exact .fenced _ _ _ _ second
  | fenced _ _ _ level second => exact .fenced _ _ _ _ second
  | upgrading => cases unowned
  | owned => cases unowned

theorem marks_owned (granted : Nat) :
    { inbox with activation := some (.versioned 3 granted (some marks.interrupt)) }.marks =
      .ok { marks with granted, versioned := true, owned := true } := by
  apply read_marks
  obtain ⟨_, activation, interrupt, _, _⟩ := inbox
  have read := marks_read held
  cases read with
  | bare _ _ _ level _ second => exact .upgrading _ _ _ _ second
  | fenced _ _ _ level second => exact .upgrading _ _ _ _ second
  | upgrading _ _ _ level second => exact .upgrading _ _ _ _ second
  | owned => exact .owned _ _ _ _

theorem marks_interrupt_bare (unowned : marks.owned = false) (level : Nat) :
    { inbox with interrupt := some (.plain level) }.marks =
      .ok { marks with interrupt := level } := by
  apply read_marks
  obtain ⟨_, activation, interrupt, _, _⟩ := inbox
  have read := marks_read held
  cases read with
  | bare _ _ _ _ first _ => exact .bare _ _ _ _ first rfl
  | fenced => exact .fenced _ _ _ _ rfl
  | upgrading => cases unowned
  | owned => cases unowned

theorem marks_interrupt_owned (owned : marks.owned = true) (level : Nat) :
    { inbox with interrupt := some (.versioned 3 level none) }.marks =
      .ok { marks with interrupt := level } := by
  apply read_marks
  obtain ⟨_, activation, interrupt, _, _⟩ := inbox
  have read := marks_read held
  cases read with
  | bare => cases owned
  | fenced => cases owned
  | upgrading => exact .owned _ _ _ _
  | owned => exact .owned _ _ _ _

end

end

end Inboxes
