import BambooAgent.Inboxes.Leases

/- The deeds of the marks; which messages have been granted, and what a mark leaves behind. -/
namespace Inboxes
open SortedMaps Crashes Checks List Bool

variable {inbox : Inbox}

/- Permissions of one message. -/

theorem message_ok (own : transport.intent.all (fun intent => intent.supported) = true)
    (coordinator : transport.coordinatorIntent.all (fun intent => intent.supported) = true) :
    ∃ activation, messageActivationIntent transport = .ok activation ∧
      (activation.isSome = true ↔
        transport.intent.isSome = true ∨ transport.coordinatorIntent.isSome = true) := by
  unfold messageActivationIntent
  rw [intentField_eq_ok.2 ⟨own, rfl⟩, intentField_eq_ok.2 ⟨coordinator, rfl⟩]
  simp only [bind, Except.bind]
  split
  · rename_i delivered
    refine ⟨transport.intent, rfl, fun some => .inl some, fun _ => ?_⟩
    cases intent : transport.intent with
    | none =>
      rw [intent] at delivered
      cases delivered
    | some => rfl
  · split
    · rename_i interrupts
      refine ⟨_, rfl, fun _ => ?_, fun _ => rfl⟩
      cases intent : transport.intent with
      | some => exact .inl rfl
      | none =>
        cases granted : transport.coordinatorIntent with
        | some => exact .inr rfl
        | none =>
          rw [intent, granted] at interrupts
          cases interrupts
    · refine ⟨_, rfl, ?_⟩
      cases transport.intent with
      | none => simp
      | some => simp

theorem FileSound.message
    (sound : FileSound rules target clock generation marks queue name transport) :
    ∃ activation, messageActivationIntent transport = .ok activation ∧
      (activation.isSome = true ↔
        transport.intent.isSome = true ∨ transport.coordinatorIntent.isSome = true) :=
  message_ok sound.intent sound.coordinator

/-- The messages that may be consumed, by their receipts. -/
def Granted (inbox : Inbox) (receipt : SessionInboxReceipt) : Prop :=
  ∃ marks queue name transport activation, inbox.marks = .ok marks ∧
    inbox.transport queue name = some transport ∧ name.generation = receipt.generation ∧
    transport.envelope.id = receipt.id ∧
    messageActivationIntent transport = .ok activation ∧
    eligible name.generation marks.granted activation = true

def SameGrants (inbox inbox' : Inbox) : Prop :=
  ∀ receipt, Granted inbox receipt ↔ Granted inbox' receipt

/-- What a mark may do. -/
def widens : Deed → Prop
  | .upgrade | .interrupt | .grant _ | .promote _ => True
  | _ => False

/-- What changes no permission. -/
def silent : Deed → Prop
  | .upgrade | .interrupt => True
  | _ => False

theorem eligible_iff :
    eligible generation granted intent = true ↔
      0 < generation ∧ (generation ≤ granted ∨ intent.isSome = true) := by
  simp [eligible]

theorem granted_does (tidy : Tidy rules target clock inbox marks)
    (does : Does rules target clock deed inbox inbox') (widening : widens deed)
    (granted : Granted inbox receipt) : Granted inbox' receipt := by
  obtain ⟨marks₁, queue, name, transport, activation, read, held, generation, id, message,
    open'⟩ := granted
  rw [tidy.same_marks read] at open'
  obtain ⟨positive, reason⟩ := eligible_iff.1 open'
  cases does with
  | marks deed inbox activation' interrupt marks₀ marks' read₀ reads moved =>
    rw [tidy.same_marks read₀] at moved
    refine ⟨marks', queue, name, transport, activation, reads, held, generation, id, message,
      eligible_iff.2 ⟨positive, reason.imp_left ?_⟩⟩
    intro below
    cases moved with
    | upgrade => exact below
    | grant marks upTo further => exact le_trans below further
    | interrupt => exact below
  | rewrite deed inbox queue₀ name₀ transport₀ transport' marks₀ read₀ held₀ rewrites =>
    by_cases here : queue = queue₀ ∧ name = name₀
    · obtain ⟨rfl, rfl⟩ := here
      cases held₀.symm.trans held
      obtain ⟨same, sound⟩ := rewrites_sound (tidy.file held)
        (by rw [tidy.same_marks read₀] at rewrites; exact rewrites)
      obtain ⟨activation', message', some⟩ := sound.message
      refine ⟨marks, queue, name, transport', activation', ?_, ?_, generation, by rw [same, id],
        message', ?_⟩
      · exact tidy.read
      · rw [Inbox.transport_put, if_pos ⟨rfl, rfl⟩]
      · cases rewrites with
        | promote => exact eligible_iff.2 ⟨positive, .inr (some.2 (.inr rfl))⟩
        | lease => cases widening
        | extend => cases widening
        | fail => cases widening
        | request => cases widening
    · refine ⟨marks, queue, name, transport, activation, ?_, ?_, generation, id, message,
        eligible_iff.2 ⟨positive, reason⟩⟩
      · exact tidy.read
      · rw [Inbox.transport_put, if_neg here]
        exact held
  | count => cases widening
  | publish => cases widening
  | rename deed inbox queue queue' name name' transport held same moves =>
    cases moves <;> cases widening
  | record => cases widening
  | clear => cases widening

theorem granted_back (does : Does rules target clock deed inbox inbox') (quiet : silent deed)
    (granted : Granted inbox' receipt) : Granted inbox receipt := by
  cases does with
  | marks deed inbox activation' interrupt marks₀ marks' read₀ reads moved =>
    obtain ⟨marks₁, queue, name, transport, activation, read, held, generation, id, message,
      open'⟩ := granted
    cases reads.symm.trans read
    refine ⟨marks₀, queue, name, transport, activation, read₀, held, generation, id, message, ?_⟩
    cases moved with
    | upgrade => exact open'
    | grant => cases quiet
    | interrupt => exact open'
  | rewrite deed inbox queue₀ name₀ transport₀ transport' marks₀ read₀ held₀ rewrites =>
    cases rewrites <;> cases quiet
  | count => cases quiet
  | publish => cases quiet
  | rename deed inbox queue queue' name name' transport held same moves =>
    cases moves <;> cases quiet
  | record => cases quiet
  | clear => cases quiet

theorem silent_widens (quiet : silent deed) : widens deed := by
  cases deed <;> first | exact trivial | cases quiet

theorem granted_course (tidy : Tidy rules target clock inbox marks)
    (course : Course rules target clock widens inbox inbox') (granted : Granted inbox receipt) :
    Granted inbox' receipt :=
  course_induct (F := fun inbox => Granted inbox receipt)
    (fun _ _ _ _ may tidy does => granted_does tidy does may) tidy course granted

theorem sameGrants_course (tidy : Tidy rules target clock inbox marks)
    (course : Course rules target clock silent inbox inbox') : SameGrants inbox inbox' := by
  apply course_induct (F := fun inbox' => SameGrants inbox inbox') _ tidy course
    (fun _ => Iff.rfl)
  intro deed before after marks' quiet tidy' does same receipt
  rw [same receipt]
  exact ⟨granted_does tidy' does (silent_widens quiet), granted_back does quiet⟩

/- Programs whose last step alone changes a permission. -/

/-- Stopped or refused, the program has granted nothing. -/
def Quiet (inbox : Inbox) (m : Act Unit) : Prop :=
  ∀ left, Ended (fun _ _ => True) (fun disk => SameGrants inbox disk.inbox) (m { inbox, left })

theorem quiet_pure : Quiet inbox (pure ()) := fun _ => trivial

theorem quiet_look (rest : Quiet inbox (f inbox)) :
    Quiet inbox (look >>= f) := fun left => rest left

theorem quiet_returned {f : α → Act Unit} (rest : Quiet inbox (f a)) :
    Quiet inbox (pure a >>= f) := fun left => rest left

theorem quiet_check : Quiet inbox (check result) := by
  intro left
  cases result with
  | error error => exact fun _ => Iff.rfl
  | ok a => exact trivial

theorem quiet_checked {f : α → Act Unit} (rest : ∀ a, result = .ok a → Quiet inbox (f a)) :
    Quiet inbox (check result >>= f) := by
  intro left
  cases result with
  | error error => exact fun _ => Iff.rfl
  | ok a => exact rest a rfl left

theorem quiet_step : Quiet inbox (step change) := by
  intro left
  cases left with
  | zero => exact fun _ => Iff.rfl
  | succ left => exact trivial

theorem quiet_skipIf [Decidable condition] {m : Act Unit} (taken : ¬ condition → Quiet inbox m) :
    Quiet inbox (skipIf condition m) := by
  unfold skipIf
  by_cases here : condition
  · rw [if_pos here]
    exact quiet_pure
  · rw [if_neg here]
    exact taken here

theorem quiet_bind {Q : α → Inbox → Prop} (tidy : Tidy rules target clock inbox marks)
    (first : Keeps rules target clock silent inbox m Q)
    (rest : ∀ a inbox', Course rules target clock silent inbox inbox' → Q a inbox' →
      Quiet inbox' (f a)) : Quiet inbox (m >>= f) := by
  intro left
  apply ended_bind (first { inbox, left } rfl)
  · exact fun disk allows => sameGrants_course tidy allows
  · intro a disk ⟨allows, holds⟩
    have same := sameGrants_course tidy allows
    apply ended_mono (rest a disk.inbox allows holds disk.left) (fun _ _ _ => trivial)
    exact fun disk' more receipt => (same receipt).trans (more receipt)

/- Programs that find nothing to do. -/

/-- The program ends at once and leaves everything as it is. -/
def Idle (inbox : Inbox) (m : Act Unit) : Prop :=
  ∀ left, m { inbox, left } = (.ok (), { inbox, left })

theorem idle_look (rest : Idle inbox (f inbox)) : Idle inbox (look >>= f) := fun left => rest left

theorem idle_check (passed : result = .ok ()) : Idle inbox (check result) := by
  intro left
  rw [passed]
  rfl

theorem idle_checked (passed : result = .ok a) (rest : Idle inbox (f a)) :
    Idle inbox (check result >>= f) := by
  intro left
  rw [passed]
  exact rest left

theorem idle_refused [Decidable condition] {error : SessionInboxError} {f : Unit → Act Unit}
    (passes : ¬ condition) (rest : Idle inbox (f ())) :
    Idle inbox (check (refuse condition error) >>= f) :=
  idle_checked (refuse_eq_ok.2 passes) rest

theorem idle_skipIf [Decidable condition] {m : Act Unit} (here : condition) :
    Idle inbox (skipIf condition m) := by
  intro left
  unfold skipIf
  rw [if_pos here]
  rfl

theorem idle_bind (first : Idle inbox m) (rest : Idle inbox (f ())) : Idle inbox (m >>= f) := by
  intro left
  change Program.bind m f { inbox, left } = _
  unfold Program.bind
  rw [first left]
  exact rest left

/- The marks of a prefix. -/

def grantsUpTo (generation : Nat) : Deed → Prop
  | .interrupt => True
  | .grant upTo => upTo = generation
  | _ => False

variable {policy : SessionActivationPolicy}

section
variable (tidy : Tidy rules target clock inbox marks)
include tidy

theorem keeps_markInterrupt (may : allowed .interrupt) :
    Keeps rules target clock allowed inbox
      (skipIf (policy ≠ .interruptSpecificWait) (do
        let current ← check inbox.readInterruptGeneration
        skipIf (generation ≤ current) (writeInterruptWatermark generation)))
      (fun _ inbox' => SameFiles inbox inbox' ∧ ∃ interrupt,
        inbox'.marks = .ok { marks with interrupt } ∧
          (policy = .interruptSpecificWait → generation ≤ interrupt)) := by
  obtain ⟨_, readInterrupt, _⟩ := marks_eq_ok.1 tidy.read
  apply keeps_skipIf
  · exact fun other => ⟨⟨rfl, rfl, rfl⟩, marks.interrupt, tidy.read, fun same => absurd same other⟩
  · intro _
    apply keeps_checked
    intro current passed
    cases readInterrupt.symm.trans passed
    apply keeps_skipIf
    · exact fun enough => ⟨⟨rfl, rfl, rfl⟩, marks.interrupt, tidy.read, fun _ => enough⟩
    · intro less
      apply keeps_mono (keeps_writeInterrupt tidy.read rfl may
        (.interrupt marks generation (Nat.le_of_not_le less))) (fun _ may => may)
      intro _ inbox' _ ⟨same, reads⟩
      exact ⟨same, generation, reads, fun _ => le_rfl⟩

theorem keeps_markActivationEligible :
    Keeps rules target clock (grantsUpTo generation) inbox
      (markActivationEligible generation policy)
      (fun _ inbox' => Idle inbox' (markActivationEligible generation policy)) := by
  apply keeps_look
  apply keeps_refused
  intro range
  apply keeps_bind (keeps_markInterrupt tidy trivial)
  intro _ middle _ ⟨same, interrupt, reads, enough⟩
  obtain ⟨readGranted, _, _⟩ := marks_eq_ok.1 reads
  apply keeps_look
  apply keeps_checked
  intro found passed
  cases readGranted.symm.trans passed
  -- Whatever is written here, a second mark finds both watermarks far enough.
  have settled : ∀ last : Inbox, last.generation = inbox.generation → ∀ granted versioned owned,
      last.marks = .ok { granted, versioned, interrupt, owned } → generation ≤ granted →
      Idle last (markActivationEligible generation policy) := by
    intro last sameGeneration granted versioned owned read far
    obtain ⟨readGranted', readInterrupt', _⟩ := marks_eq_ok.1 read
    apply idle_look
    rw [← sameGeneration] at range
    apply idle_refused range
    apply idle_bind
    · by_cases interrupts : policy = .interruptSpecificWait
      · intro left
        unfold skipIf
        rw [if_neg (not_not.2 interrupts)]
        exact idle_checked readInterrupt' (idle_skipIf (enough interrupts)) left
      · exact idle_skipIf interrupts
    · apply idle_checked readGranted'
      exact idle_skipIf far
  apply keeps_skipIf
  · exact fun far => settled middle same.generation _ _ _ reads far
  · intro less
    have delivered : generation ≤ middle.generation := by
      rw [same.generation]
      push Not at range
      exact range.2
    have may : grantsUpTo generation (.grant generation) := rfl
    apply keeps_mono (keeps_writeActivation reads rfl (.inl rfl) may
      (.grant _ generation (Nat.le_of_not_le less) delivered)) (fun _ may => may)
    intro _ last _ ⟨sameLast, readsLast⟩
    exact settled last (sameLast.generation.trans same.generation) _ _ _ readsLast le_rfl

theorem quiet_markActivationEligible : Quiet inbox (markActivationEligible generation policy) := by
  apply quiet_look
  apply quiet_checked
  intro _ _
  apply quiet_bind tidy (keeps_markInterrupt tidy trivial)
  intro _ middle _ ⟨_, interrupt, reads, _⟩
  apply quiet_look
  apply quiet_checked
  intro found _
  apply quiet_skipIf
  intro _
  apply quiet_look
  apply quiet_checked
  intro owned _
  split
  · split
    · apply quiet_checked
      intro level _
      exact quiet_returned quiet_step
    · exact quiet_returned quiet_step
  · exact quiet_step

end

/- The marks of one message. -/

/-- Only the message that the mark names is granted. -/
def grantsOne (inbox : Inbox) (receipt : SessionInboxReceipt) : Deed → Prop
  | .upgrade => True
  | .promote generation => generation = receipt.generation ∧ Names inbox receipt
  | _ => False

theorem message_promoted (message : messageActivationIntent transport = .ok current)
    (undelivered : ¬ current.any (fun intent => intent.delivery.isSome) = true) :
    ∃ intent, messageActivationIntent { transport with
        coordinatorIntent := some (SessionInboxActivationIntent.new policy) } = .ok (some intent) ∧
      intent.delivery = none ∧ (intent.policy = policy ∨
        intent.policy = .interruptSpecificWait) := by
  obtain ⟨first, field, rest⟩ := bind_eq_ok.1 message
  obtain ⟨second, granted, rest⟩ := bind_eq_ok.1 rest
  obtain ⟨_, rfl⟩ := intentField_eq_ok.1 field
  have original : ¬ transport.intent.any (fun intent => intent.delivery.isSome) = true := by
    intro delivered
    rw [if_pos delivered] at rest
    cases rest
    exact undelivered delivered
  have supported : (some (SessionInboxActivationIntent.new policy)).all
      (fun intent => intent.supported) = true := rfl
  unfold messageActivationIntent
  rw [field, intentField_eq_ok.2 ⟨supported, rfl⟩]
  simp only [bind, Except.bind]
  rw [if_neg original]
  split
  · exact ⟨_, rfl, rfl, .inr rfl⟩
  · rename_i calm
    cases intent : transport.intent with
    | none => exact ⟨_, rfl, rfl, .inl rfl⟩
    | some stored =>
      rw [intent] at calm original
      refine ⟨stored, rfl, ?_, .inl ?_⟩
      · simpa using original
      · have respects : stored.policy ≠ .interruptSpecificWait ∧
            policy ≠ .interruptSpecificWait := by
          simpa [SessionInboxActivationIntent.new] using calm
        cases stored' : stored.policy with
        | interruptSpecificWait => exact absurd stored' respects.1
        | respectSpecificWait =>
          cases policy with
          | interruptSpecificWait => exact absurd rfl respects.2
          | respectSpecificWait => rfl

theorem promote_idle (read : inbox.marks = .ok marks)
    (message : messageActivationIntent transport = .ok current)
    (fenced : ¬ (current.isSome = true ∧ marks.versioned = false))
    (enough : if current.any (fun intent => intent.delivery.isSome) = true then
        validateExplicitMessagePromotion current policy = .ok ()
      else current.any (fun intent => decide (intent.policy = policy) ||
        decide (intent.policy = .interruptSpecificWait)) = true) :
    Idle inbox (promote rules policy queue name transport) := by
  apply idle_look
  apply idle_checked message
  apply idle_checked (marks_eq_ok.1 read).1
  apply idle_refused fenced
  split at enough
  · rename_i delivered
    rw [if_pos delivered]
    exact idle_check enough
  · rename_i undelivered
    rw [if_neg undelivered, if_pos enough]
    exact fun _ => rfl

/-- The file of the message, so far marked that a second mark finds nothing to do. -/
structure Settled (rules : Rules) (target : String) (policy : SessionActivationPolicy)
    (receipt : SessionInboxReceipt) (inbox : Inbox) (queue : Queue) (name : Name)
    (transport : Transport) : Prop where
  waiting : Queue.waiting queue
  read : readOwnedTransport rules inbox queue name = .ok transport
  generation : name.generation = receipt.generation
  id : transport.envelope.id = receipt.id
  idle : Idle inbox (promote rules policy queue name transport)

section
variable (tidy : Tidy rules target clock inbox marks)
include tidy

theorem keeps_promote (waiting : Queue.waiting queue)
    (read : readOwnedTransport rules inbox queue name = .ok transport)
    (generation : name.generation = receipt.generation) (id : transport.envelope.id = receipt.id) :
    Keeps rules target clock (grantsOne inbox receipt) inbox
      (promote rules policy queue name transport)
      (fun _ inbox' => inbox'.admitted = inbox.admitted ∧
        ∃ transport', Settled rules target policy receipt inbox' queue name transport') := by
  have held := readOwned_eq_ok read
  have named : Names inbox receipt := ⟨queue, name, transport, held, generation, id⟩
  have sound := tidy.file held
  obtain ⟨readGranted, _, _⟩ := marks_eq_ok.1 tidy.read
  apply keeps_look
  apply keeps_checked
  intro current message
  apply keeps_checked
  intro found passed
  cases readGranted.symm.trans passed
  apply keeps_refused
  intro fenced
  have stays : (if current.any (fun intent => intent.delivery.isSome) = true then
      validateExplicitMessagePromotion current policy = .ok ()
      else current.any (fun intent => decide (intent.policy = policy) ||
        decide (intent.policy = .interruptSpecificWait)) = true) →
      inbox.admitted = inbox.admitted ∧
        ∃ transport', Settled rules target policy receipt inbox queue name transport' :=
    fun enough => ⟨rfl, transport, waiting, read, generation, id,
      promote_idle tidy.read message fenced enough⟩
  split
  · rename_i delivered
    apply keeps_check
    intro _ passed
    apply stays
    rw [if_pos delivered]
    exact passed
  · rename_i undelivered
    split
    · rename_i enough
      apply keeps_pure
      apply stays
      rw [if_neg undelivered]
      exact enough
    · obtain ⟨intent, promoted, plain, far⟩ :=
        @message_promoted policy transport current message undelivered
      apply keeps_bind (Q := fun _ fencedInbox => SameFiles inbox fencedInbox ∧ ∃ marks',
        fencedInbox.marks = .ok marks' ∧ marks'.versioned = true)
      · apply keeps_skipIf
        · exact fun versioned => ⟨⟨rfl, rfl, rfl⟩, marks, tidy.read, versioned⟩
        · intro versioned
          have unowned : marks.owned = false := by
            by_contra owned
            exact versioned (owned_versioned tidy.read (eq_true_of_not_eq_false owned))
          have may : grantsOne inbox receipt .upgrade := trivial
          apply keeps_mono (keeps_writeActivation tidy.read rfl (.inr ⟨rfl, unowned⟩) may
            (.upgrade marks true marks.owned (fun _ => rfl) (fun owned => owned)))
            (fun _ may => may)
          rintro _ inbox' _ ⟨same, reads⟩
          exact ⟨same, _, reads, rfl⟩
      · rintro _ fencedInbox course ⟨same, marks', reads, versioned⟩
        apply keeps_refused
        intro size
        have held' : fencedInbox.transport queue name = some transport := by
          rw [same.transport]
          exact held
        have does : Does rules target clock (.promote name.generation) fencedInbox
            (fencedInbox.put queue name { transport with
              coordinatorIntent := some (SessionInboxActivationIntent.new policy) }) :=
          .rewrite _ fencedInbox queue name transport _ marks' reads held'
            (.promote queue name transport _ waiting versioned rfl)
        refine keeps_step (.promote name.generation) ⟨generation, named⟩ does ⟨same.admitted,
          { transport with coordinatorIntent := some (SessionInboxActivationIntent.new policy) },
          waiting, ?_, generation, id, ?_⟩
        · unfold readOwnedTransport
          rw [Inbox.transport_put, if_pos ⟨rfl, rfl⟩]
          apply bind_eq_ok.2
          refine ⟨(), refuse_eq_ok.2 size, bind_eq_ok.2 ⟨(), refuse_eq_ok.2 ?_, rfl⟩⟩
          rw [sound.valid]
          exact false_ne_true
        · have readPut : (fencedInbox.put queue name { transport with
              coordinatorIntent := some (SessionInboxActivationIntent.new policy) }).marks =
              .ok marks' := by
            exact reads
          apply promote_idle readPut promoted
          · rw [versioned]
            rintro ⟨_, impossible⟩
            cases impossible
          · rw [if_neg (by rw [Option.any_some, plain]; exact false_ne_true)]
            rcases far with same | interrupts
            · simp [same]
            · simp [interrupts]

theorem markMessageIn_idle
    (settled : Settled rules target policy receipt inbox queue name transport) :
    ∀ entries : List (Queue × Name), (∀ entry ∈ entries, ∃ transport,
      inbox.transport entry.1 entry.2 = some transport) → (queue, name) ∈ entries →
    Idle inbox (markMessageIn rules target receipt policy entries) := by
  have held := readOwned_eq_ok settled.read
  have sound := tidy.file held
  intro entries
  induction entries with
  | nil => exact fun _ impossible => nomatch impossible
  | cons entry rest ih =>
    intro listed member
    obtain ⟨queue', name'⟩ := entry
    unfold markMessageIn
    by_cases here : name'.generation = receipt.generation
    · obtain ⟨transport', held'⟩ := listed _ mem_cons_self
      obtain ⟨rfl, rfl⟩ := tidy.oneGeneration held held' (settled.generation.trans here.symm)
      rw [if_neg (not_not.2 here)]
      apply idle_look
      apply idle_checked settled.read
      apply idle_checked (leaseKnown_ok tidy sound.known)
      apply idle_refused (by rw [sound.envelope]; exact fun impossible => nomatch impossible)
      rw [if_neg (not_or.2 ⟨not_not.2 settled.id, not_not.2 sound.aimed⟩)]
      exact settled.idle
    · rw [if_pos here]
      apply ih (fun other later => listed other (mem_cons_of_mem _ later))
      rcases mem_cons.1 member with same | later
      · cases same
        exact absurd settled.generation here
      · exact later

theorem markMessage_idle (settled : Settled rules target policy receipt inbox queue name transport)
    (unadmitted : inbox.admitted.lookup receipt.id = none) :
    Idle inbox (markMessageActivationEligible rules target receipt policy) := by
  have held := readOwned_eq_ok settled.read
  have positive := (tidy.file held).positive
  rw [settled.generation] at positive
  apply idle_refused (ne_of_gt positive)
  apply idle_look
  rw [unadmitted]
  apply markMessageIn_idle tidy settled
  · intro entry member
    exact (mem_entries.1 member).2
  · refine mem_entries.2 ⟨?_, transport, held⟩
    rcases settled.waiting with same | same
    · rw [same]
      exact mem_cons_self
    · rw [same]
      exact mem_cons_of_mem _ mem_cons_self

theorem keeps_markMessageIn :
    ∀ entries : List (Queue × Name), (∀ entry ∈ entries, Queue.waiting entry.1) →
    Keeps rules target clock (grantsOne inbox receipt) inbox
      (markMessageIn rules target receipt policy entries)
      (fun _ inbox' => inbox'.admitted = inbox.admitted ∧ ∃ queue name transport,
        Settled rules target policy receipt inbox' queue name transport) := by
  intro entries
  induction entries with
  | nil => exact fun _ => keeps_check (fun _ impossible => nomatch impossible)
  | cons entry rest ih =>
    intro waiting
    obtain ⟨queue, name⟩ := entry
    have further := ih (fun other later => waiting other (mem_cons_of_mem _ later))
    unfold markMessageIn
    split
    · exact further
    · rename_i same
      apply keeps_look
      apply keeps_checked
      intro transport read
      apply keeps_checked
      intro _ _
      apply keeps_refused
      intro _
      split
      · exact further
      · rename_i matching
        push Not at same matching
        apply keeps_mono (keeps_promote tidy (waiting _ mem_cons_self) read same matching.1)
          (fun _ may => may)
        intro _ inbox' _ ⟨admitted, transport', settled⟩
        exact ⟨admitted, queue, name, transport', settled⟩

theorem keeps_markMessage :
    Keeps rules target clock (grantsOne inbox receipt) inbox
      (markMessageActivationEligible rules target receipt policy)
      (fun _ inbox' => Idle inbox' (markMessageActivationEligible rules target receipt policy)) := by
  apply keeps_refused
  intro positive
  apply keeps_look
  cases admitted : inbox.admitted.lookup receipt.id with
  | some terminal =>
    apply keeps_refused
    intro same
    apply keeps_checked
    intro intent field
    apply keeps_check
    intro _ valid
    apply idle_refused positive
    apply idle_look
    rw [admitted]
    apply idle_refused same
    apply idle_checked field
    exact idle_check valid
  | none =>
    refine keeps_mono (keeps_markMessageIn tidy _ ?_) (fun _ may => may) ?_
    · intro entry member
      obtain ⟨queue, name⟩ := entry
      rcases mem_cons.1 (mem_entries.1 member).1 with rfl | further
      · exact .inl rfl
      · cases mem_singleton.1 further
        exact .inr rfl
    · intro _ inbox' course ⟨same, queue, name, transport, settled⟩
      obtain ⟨marks', tidy'⟩ := Course.tidy course tidy
      exact markMessage_idle tidy' settled (by rw [same]; exact admitted)

theorem quiet_promote : Quiet inbox (promote rules policy queue name transport) := by
  obtain ⟨readGranted, _, _⟩ := marks_eq_ok.1 tidy.read
  apply quiet_look
  apply quiet_checked
  intro current _
  apply quiet_checked
  intro found passed
  cases readGranted.symm.trans passed
  apply quiet_checked
  intro _ _
  split
  · exact quiet_check
  · split
    · exact quiet_pure
    · apply quiet_bind (Q := fun _ _ => True) tidy
      · apply keeps_skipIf
        · exact fun _ => trivial
        · intro versioned
          have unowned : marks.owned = false := by
            by_contra owned
            exact versioned (owned_versioned tidy.read (eq_true_of_not_eq_false owned))
          have may : silent .upgrade := trivial
          exact keeps_mono (keeps_writeActivation tidy.read rfl (.inr ⟨rfl, unowned⟩) may
            (.upgrade marks true marks.owned (fun _ => rfl) (fun owned => owned)))
            (fun _ may => may) (fun _ _ _ _ => trivial)
      · intro _ inbox' _ _
        apply quiet_checked
        intro _ _
        exact quiet_step

theorem quiet_markMessage :
    Quiet inbox (markMessageActivationEligible rules target receipt policy) := by
  apply quiet_checked
  intro _ _
  apply quiet_look
  split
  · apply quiet_checked
    intro _ _
    apply quiet_checked
    intro _ _
    exact quiet_check
  · have every : ∀ entries : List (Queue × Name),
        Quiet inbox (markMessageIn rules target receipt policy entries) := by
      intro entries
      induction entries with
      | nil => exact quiet_check
      | cons entry rest ih =>
        unfold markMessageIn
        split
        · exact ih
        · apply quiet_look
          apply quiet_checked
          intro transport _
          apply quiet_checked
          intro _ _
          apply quiet_checked
          intro _ _
          split
          · exact ih
          · exact quiet_promote tidy
    exact every _

end

end Inboxes
