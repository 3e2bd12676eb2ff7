import BambooAgent.Inboxes.Upkeep

/- Programs followed step by step from a known inbox: whatever they have done when they end or
   are stopped is a course of allowed deeds. -/
namespace Inboxes
open SortedMaps Crashes Checks Bool

def Course (rules : Rules) (target : String) (clock : Time) (allowed : Deed → Prop) :
    Inbox → Inbox → Prop :=
  Relation.ReflTransGen (fun inbox inbox' =>
    ∃ deed, allowed deed ∧ Does rules target clock deed inbox inbox')

def course (rules : Rules) (target : String) (clock : Time) (allowed : Deed → Prop) :
    Guarantee Disk :=
  { allows := fun disk disk' => Course rules target clock allowed disk.inbox disk'.inbox
    refl := fun _ => Relation.ReflTransGen.refl
    trans := fun first second => Relation.ReflTransGen.trans first second }

def Keeps {α : Type} (rules : Rules) (target : String) (clock : Time) (allowed : Deed → Prop)
    (inbox : Inbox) (m : Act α) (Q : α → Inbox → Prop) : Prop :=
  Guards (course rules target clock allowed) (fun disk => disk.inbox = inbox) m
    (fun a disk => Q a disk.inbox)

variable {rules : Rules} {target : String} {clock : Time} {allowed : Deed → Prop} {inbox : Inbox}
  {f : α → Act β} {Q : α → Inbox → Prop} {R : β → Inbox → Prop}

theorem Course.single (may : allowed deed) (does : Does rules target clock deed inbox inbox') :
    Course rules target clock allowed inbox inbox' :=
  Relation.ReflTransGen.single ⟨deed, may, does⟩

theorem Course.tidy (course : Course rules target clock allowed inbox inbox')
    (tidy : Tidy rules target clock inbox marks) :
    ∃ marks', Tidy rules target clock inbox' marks' := by
  induction course with
  | refl => exact ⟨marks, tidy⟩
  | tail _ step ih =>
    obtain ⟨_, kept⟩ := ih
    obtain ⟨_, _, does⟩ := step
    exact does_tidy kept does

theorem Course.weaken (more : ∀ deed, allowed deed → allowed' deed)
    (course : Course rules target clock allowed inbox inbox') :
    Course rules target clock allowed' inbox inbox' := by
  induction course with
  | refl => exact .refl
  | tail _ step ih =>
    obtain ⟨deed, may, does⟩ := step
    exact ih.tail ⟨deed, more deed may, does⟩

theorem keeps_pure (holds : Q a inbox) : Keeps rules target clock allowed inbox (pure a) Q :=
  guards_pure (fun _ here => by rw [here]; exact holds)

theorem keeps_bind (first : Keeps rules target clock allowed inbox m Q)
    (rest : ∀ a inbox', Course rules target clock allowed inbox inbox' → Q a inbox' →
      Keeps rules target clock allowed inbox' (f a) R) :
    Keeps rules target clock allowed inbox (m >>= f) R := by
  intro disk here
  apply ended_bind (first disk here) (fun _ allows => allows)
  intro a disk' ⟨allows, holds⟩
  have reached : Course rules target clock allowed inbox disk'.inbox := by
    rw [← here]
    exact allows
  apply ended_mono (rest a disk'.inbox reached holds disk' rfl)
  · intro b last ⟨further, done⟩
    exact ⟨(course rules target clock allowed).trans allows further, done⟩
  · intro last further
    exact (course rules target clock allowed).trans allows further

theorem keeps_mono (first : Keeps rules target clock allowed' inbox m Q)
    (fewer : ∀ deed, allowed' deed → allowed deed)
    (after : ∀ a inbox', Course rules target clock allowed inbox inbox' → Q a inbox' →
      Q' a inbox') :
    Keeps rules target clock allowed inbox m Q' := by
  intro disk here
  have widened : ∀ disk', (course rules target clock allowed').allows disk disk' →
      (course rules target clock allowed).allows disk disk' :=
    fun _ allows => Course.weaken fewer allows
  apply ended_mono (first disk here)
  · intro a disk' ⟨allows, holds⟩
    refine ⟨widened disk' allows, after a disk'.inbox ?_ holds⟩
    rw [← here]
    exact widened disk' allows
  · intro disk' allows
    exact widened disk' allows

theorem keeps_look (rest : Keeps rules target clock allowed inbox (g inbox) R) :
    Keeps rules target clock allowed inbox (look >>= g) R := by
  intro disk here
  change Ended _ _ (g disk.inbox disk)
  rw [here]
  exact rest disk here

theorem keeps_returned (rest : Keeps rules target clock allowed inbox (f a) R) :
    Keeps rules target clock allowed inbox (pure a >>= f) R :=
  fun disk here => rest disk here

theorem keeps_check (holds : ∀ a, result = .ok a → Q a inbox) :
    Keeps rules target clock allowed inbox (check result) Q := by
  intro disk here
  cases result with
  | error error => exact Relation.ReflTransGen.refl
  | ok a =>
    refine ⟨Relation.ReflTransGen.refl, ?_⟩
    dsimp only
    rw [here]
    exact holds a rfl

theorem keeps_checked
    (rest : ∀ a, result = .ok a → Keeps rules target clock allowed inbox (f a) R) :
    Keeps rules target clock allowed inbox (check result >>= f) R := by
  apply keeps_bind (keeps_check (Q := fun a inbox' => result = .ok a ∧ inbox' = inbox)
    (fun a passed => ⟨passed, rfl⟩))
  intro a inbox' _ ⟨passed, same⟩
  rw [same]
  exact rest a passed

theorem keeps_refused [Decidable condition] {error : SessionInboxError}
    {f : Unit → Act β}
    (rest : ¬ condition → Keeps rules target clock allowed inbox (f ()) R) :
    Keeps rules target clock allowed inbox (check (refuse condition error) >>= f) R :=
  keeps_checked (fun _ passed => rest (refuse_eq_ok.1 passed))

theorem keeps_step {Q : Unit → Inbox → Prop} (deed : Deed) (may : allowed deed)
    (does : Does rules target clock deed inbox (change inbox)) (holds : Q () (change inbox)) :
    Keeps rules target clock allowed inbox (step change) Q := by
  intro ⟨found, left⟩ here
  cases here
  cases left with
  | zero => exact Relation.ReflTransGen.refl
  | succ left => exact ⟨Course.single may does, holds⟩

theorem keeps_stepped {f : Unit → Act β} (deed : Deed) (may : allowed deed)
    (does : Does rules target clock deed inbox (change inbox))
    (rest : Keeps rules target clock allowed (change inbox) (f ()) R) :
    Keeps rules target clock allowed inbox (step change >>= f) R := by
  apply keeps_bind (keeps_step (Q := fun _ inbox' => inbox' = change inbox) deed may does rfl)
  intro _ inbox' _ same
  rw [same]
  exact rest

theorem keeps_skipIf [Decidable condition] {m : Act Unit}
    {Q : Unit → Inbox → Prop} (skipped : condition → Q () inbox)
    (taken : ¬ condition → Keeps rules target clock allowed inbox m Q) :
    Keeps rules target clock allowed inbox (skipIf condition m) Q := by
  unfold skipIf
  by_cases here : condition
  · rw [if_pos here]
    exact keeps_pure (skipped here)
  · rw [if_neg here]
    exact taken here

theorem keeps_ran (keeps : Keeps rules target clock allowed inbox m Q)
    (ran : m { inbox, left } = (result, disk)) :
    Course rules target clock allowed inbox disk.inbox ∧ ∀ a, result = .ok a → Q a disk.inbox := by
  have ended := keeps { inbox, left } rfl
  rw [ran] at ended
  cases result with
  | error stop => exact ⟨ended, fun a same => nomatch same⟩
  | ok a =>
    refine ⟨ended.1, ?_⟩
    intro b same
    cases same
    exact ended.2

theorem keeps_after (keeps : Keeps rules target clock allowed inbox m Q) (left : Nat) :
    Course rules target clock allowed inbox (m { inbox, left }).2.inbox :=
  (keeps_ran keeps rfl).1

/- The writers of the watermarks. -/

/-- The files and receipts are as they were. -/
structure SameFiles (inbox inbox' : Inbox) : Prop where
  generation : inbox'.generation = inbox.generation
  queues : inbox'.queues = inbox.queues
  admitted : inbox'.admitted = inbox.admitted

theorem SameFiles.transport (same : SameFiles inbox inbox') (queue : Queue) (name : Name) :
    inbox'.transport queue name = inbox.transport queue name := by
  unfold Inbox.transport
  rw [same.queues]

theorem keeps_writeActivation (read : inbox.marks = .ok marks)
    (written : marks' = { marks with granted, versioned })
    (known : versioned = marks.versioned ∨ versioned = true ∧ marks.owned = false)
    (may : allowed deed) (moved : MarksMove inbox.generation deed marks marks') :
    Keeps rules target clock allowed inbox (writeActivationWatermark granted versioned)
      (fun _ inbox' => SameFiles inbox inbox' ∧ inbox'.marks = .ok marks') := by
  obtain ⟨_, readInterrupt, readOwned⟩ := marks_eq_ok.1 read
  apply keeps_look
  apply keeps_checked
  intro owned passed
  cases readOwned.symm.trans passed
  by_cases second : versioned = true
  · by_cases owned : marks.owned = true
    · have reads : { inbox with
          activation := some (.versioned 3 granted (some marks.interrupt)) }.marks =
          .ok marks' := by
        rw [marks_owned read granted, written, second, ← owned]
      simp only [second, owned, if_true]
      apply keeps_checked
      intro level passed
      cases readInterrupt.symm.trans passed
      apply keeps_returned
      apply keeps_step deed may (.marks deed inbox _ _ marks _ read reads moved)
      exact ⟨⟨rfl, rfl, rfl⟩, reads⟩
    · have unowned : marks.owned = false := eq_false_of_not_eq_true owned
      have reads : { inbox with activation := some (.versioned 2 granted none) }.marks =
          .ok marks' := by
        rw [marks_fenced read unowned granted none, written, second]
      simp only [second, unowned, if_true, false_eq_true, if_false]
      apply keeps_returned
      apply keeps_step deed may (.marks deed inbox _ _ marks _ read reads moved)
      exact ⟨⟨rfl, rfl, rfl⟩, reads⟩
  · have first : versioned = false := eq_false_of_not_eq_true second
    have bare : marks.versioned = false := by
      rcases known with same | ⟨impossible, _⟩
      · rw [← same]
        exact first
      · exact absurd impossible second
    have reads : { inbox with activation := some (.plain granted) }.marks = .ok marks' := by
      rw [marks_bare read bare granted, written, first, ← bare]
    simp only [first, false_eq_true, if_false]
    apply keeps_step deed may (.marks deed inbox _ _ marks _ read reads moved)
    exact ⟨⟨rfl, rfl, rfl⟩, reads⟩

theorem keeps_writeInterrupt (read : inbox.marks = .ok marks)
    (written : marks' = { marks with interrupt := level }) (may : allowed deed)
    (moved : MarksMove inbox.generation deed marks marks') :
    Keeps rules target clock allowed inbox (writeInterruptWatermark level)
      (fun _ inbox' => SameFiles inbox inbox' ∧ inbox'.marks = .ok marks') := by
  obtain ⟨_, _, readOwned⟩ := marks_eq_ok.1 read
  apply keeps_look
  apply keeps_checked
  intro owned passed
  cases readOwned.symm.trans passed
  by_cases owned : marks.owned = true
  · have reads := (marks_interrupt_owned read owned level).trans (congrArg _ written.symm)
    simp only [owned, if_true]
    apply keeps_step deed may (.marks deed inbox _ _ marks _ read reads moved)
    exact ⟨⟨rfl, rfl, rfl⟩, reads⟩
  · have unowned : marks.owned = false := eq_false_of_not_eq_true owned
    have reads := (marks_interrupt_bare read unowned level).trans (congrArg _ written.symm)
    simp only [unowned, false_eq_true, if_false]
    apply keeps_step deed may (.marks deed inbox _ _ marks _ read reads moved)
    exact ⟨⟨rfl, rfl, rfl⟩, reads⟩

end Inboxes
