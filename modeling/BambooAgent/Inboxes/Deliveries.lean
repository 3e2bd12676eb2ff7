import BambooAgent.Inboxes.Facts

/- What a delivery finds, and the deeds of a delivery and of a withdrawal. -/
namespace Inboxes
open SortedMaps Crashes Checks List Option

variable {inbox : Inbox}

/- Reading. -/

theorem mem_entries :
    (queue, name) ∈ inbox.entries queues ↔
      queue ∈ queues ∧ ∃ transport, inbox.transport queue name = some transport := by
  unfold Inbox.entries
  rw [mem_flatMap]
  constructor
  · intro ⟨queue', listed, member⟩
    obtain ⟨name', named, same⟩ := mem_map.1 member
    cases same
    exact ⟨listed, Inbox.mem_names.1 named⟩
  · intro ⟨listed, held⟩
    exact ⟨queue, listed, mem_map.2 ⟨name, Inbox.mem_names.2 held, rfl⟩⟩

theorem intentField_eq_ok :
    activationIntentField intent = .ok found ↔
      intent.all (fun intent => intent.supported) = true ∧ found = intent := by
  cases intent with
  | none =>
    constructor
    · intro same
      cases same
      exact ⟨rfl, rfl⟩
    · intro ⟨_, same⟩
      rw [same]
      rfl
  | some intent =>
    unfold activationIntentField SessionInboxActivationIntent.checkedPolicy
    by_cases supported : intent.supported = true
    · simp only [supported, if_true, all_some, true_and]
      constructor
      · intro same
        cases same
        rfl
      · intro same
        rw [same]
        rfl
    · simp only [supported, all_some]
      constructor
      · intro same
        cases same
      · intro ⟨impossible, _⟩
        cases impossible

theorem leaseKnown_ok (tidy : Tidy rules target clock inbox marks)
    (owned : lease.isSome = true → marks.owned = true) : leaseKnown inbox lease = .ok () := by
  unfold leaseKnown
  by_cases leased : lease.isSome = true
  · rw [if_pos leased]
    have enabled := (marks_eq_ok.1 tidy.read).2.2
    rw [owned leased] at enabled
    exact bind_eq_ok.2 ⟨true, enabled, refuse_eq_ok.2 (fun impossible => nomatch impossible)⟩
  · rw [if_neg leased]

theorem FileSound.valid
    (sound : FileSound rules target clock generation marks queue name transport) :
    transport.lease.any (fun lease => !lease.valid) = false := by
  cases leased : transport.lease with
  | none => rfl
  | some lease =>
    simp only [any_some, (sound.leased lease leased).1]
    rfl

theorem FileSound.known (sound : FileSound rules target clock generation marks queue name transport)
    (leased : transport.lease.isSome = true) : marks.owned = true := by
  obtain ⟨lease, held⟩ := isSome_iff_exists.1 leased
  exact (sound.leased lease held).2

theorem receiptOfFile_eq (tidy : Tidy rules target clock inbox marks)
    (held : inbox.transport queue name = some transport) (requested : SessionMessageEnvelope)
    (intent : Option SessionInboxActivationIntent) :
    receiptOfFile rules inbox requested intent queue name =
      if transport.envelope.id ≠ requested.id then .ok none
      else if deliveryDigest rules transport.envelope transport.intent ≠
          deliveryDigest rules requested transport.intent ∨ transport.intent ≠ intent then
        .error (invalid ("message id " ++ requested.id ++
          " was reused with different delivery semantics"))
      else .ok (some
        { delivery := { id := requested.id, generation := name.generation },
          pending := decide (queue = .new) || decide (queue = .cur) }) := by
  have sound := tidy.file held
  have known := leaseKnown_ok tidy sound.known
  have field := intentField_eq_ok.2 ⟨sound.intent, rfl⟩
  have undamaged : ¬ transport.lease.any (fun lease => !lease.valid) = true := by
    rw [sound.valid]
    exact Bool.false_ne_true
  unfold receiptOfFile
  rw [held]
  dsimp only
  rw [if_neg undamaged, known, field]
  by_cases other : transport.envelope.id ≠ requested.id
  · simp only [bind, Except.bind, if_pos other]
    rfl
  · simp only [bind, Except.bind, if_neg other, refuse]
    by_cases differs : deliveryDigest rules transport.envelope transport.intent ≠
        deliveryDigest rules requested transport.intent ∨ transport.intent ≠ intent
    · rw [if_pos differs, if_pos differs]
    · rw [if_neg differs, if_neg differs]
      rfl

/- The search over the files. -/

theorem receiptOfFiles_none : ∀ {entries : List (Queue × Name)},
    receiptOfFiles rules inbox requested intent entries = .ok none →
    ∀ entry ∈ entries, receiptOfFile rules inbox requested intent entry.1 entry.2 = .ok none := by
  intro entries
  induction entries with
  | nil => exact fun _ entry member => nomatch member
  | cons first rest ih =>
    intro nothing entry member
    obtain ⟨found, here, later⟩ := bind_eq_ok.1 nothing
    cases found with
    | some receipt => cases later
    | none =>
      rcases mem_cons.1 member with rfl | further
      · exact here
      · exact ih later entry further

theorem receiptOfFiles_some :
    ∀ {entries : List (Queue × Name)},
    receiptOfFiles rules inbox requested intent entries = .ok (some receipt) →
    ∃ entry ∈ entries,
      receiptOfFile rules inbox requested intent entry.1 entry.2 = .ok (some receipt) := by
  intro entries
  induction entries with
  | nil => exact fun impossible => nomatch impossible
  | cons first rest ih =>
    intro run
    obtain ⟨found, here, later⟩ := bind_eq_ok.1 run
    cases found with
    | some receipt' =>
      cases later
      exact ⟨first, mem_cons_self, here⟩
    | none =>
      obtain ⟨entry, member, last⟩ := ih later
      exact ⟨entry, mem_cons_of_mem _ member, last⟩

theorem receiptOfFiles_eq :
    ∀ {entries : List (Queue × Name)}, entry ∈ entries →
    (∀ other ∈ entries, other ≠ entry →
      receiptOfFile rules inbox requested intent other.1 other.2 = .ok none) →
    receiptOfFile rules inbox requested intent entry.1 entry.2 ≠ .ok none →
    receiptOfFiles rules inbox requested intent entries =
      receiptOfFile rules inbox requested intent entry.1 entry.2 := by
  intro entries
  induction entries with
  | nil => exact fun member => nomatch member
  | cons first rest ih =>
    intro member others speaks
    rw [receiptOfFiles]
    by_cases here : first = entry
    · rw [here]
      cases run : receiptOfFile rules inbox requested intent entry.1 entry.2 with
      | error error => rfl
      | ok found =>
        cases found with
        | none => exact absurd run speaks
        | some receipt => rfl
    · rw [others first mem_cons_self here]
      rcases mem_cons.1 member with same | further
      · exact absurd same.symm here
      · exact ih further (fun other later => others other (mem_cons_of_mem _ later)) speaks

theorem admittedReceipt_none (nothing : admittedReceipt rules inbox requested = .ok none) :
    inbox.admitted.lookup requested.id = none := by
  cases found : inbox.admitted.lookup requested.id with
  | none => rfl
  | some receipt =>
    unfold admittedReceipt at nothing
    rw [found] at nothing
    obtain ⟨_, _, nothing⟩ := bind_eq_ok.1 nothing
    obtain ⟨_, _, nothing⟩ := bind_eq_ok.1 nothing
    obtain ⟨_, _, nothing⟩ := bind_eq_ok.1 nothing
    obtain ⟨_, _, nothing⟩ := bind_eq_ok.1 nothing
    cases nothing

theorem admittedReceipt_some (found : admittedReceipt rules inbox requested = .ok (some receipt)) :
    inbox.admitted.lookup requested.id = some receipt ∧ receipt.id = requested.id ∧
      receipt.semanticDigest = deliveryDigest rules requested receipt.intent ∧
      ∀ lease, receipt.lease = some lease → lease.valid = true := by
  unfold admittedReceipt at found
  cases held : inbox.admitted.lookup requested.id with
  | none =>
    rw [held] at found
    cases found
  | some stored =>
    rw [held] at found
    obtain ⟨_, id, found⟩ := bind_eq_ok.1 found
    obtain ⟨_, field, found⟩ := bind_eq_ok.1 found
    obtain ⟨_, digest, found⟩ := bind_eq_ok.1 found
    obtain ⟨_, lease, found⟩ := bind_eq_ok.1 found
    cases found
    obtain ⟨_, rfl⟩ := intentField_eq_ok.1 field
    refine ⟨rfl, Decidable.not_not.1 (refuse_eq_ok.1 id),
      Decidable.not_not.1 (refuse_eq_ok.1 digest), ?_⟩
    intro own leased
    have sound := refuse_eq_ok.1 lease
    rw [leased] at sound
    simpa using sound

theorem lookupReceipt_some (tidy : Tidy rules target clock inbox marks)
    (found : lookupReceipt rules inbox requested intent = .ok (some receipt)) :
    receipt.delivery.id = requested.id ∧ Kept rules inbox requested intent receipt.delivery := by
  obtain ⟨admitted, first, found⟩ := bind_eq_ok.1 found
  cases admitted with
  | some admitted =>
    obtain ⟨_, same, found⟩ := bind_eq_ok.1 found
    cases found
    obtain ⟨held, _, digest, _⟩ := admittedReceipt_some first
    have own : admitted.intent = intent := Decidable.not_not.1 (refuse_eq_ok.1 same)
    rw [own] at digest
    exact ⟨rfl, .inr ⟨admitted, held, rfl, digest, own⟩⟩
  | none =>
    obtain ⟨⟨queue, name⟩, member, found⟩ := receiptOfFiles_some found
    obtain ⟨_, transport, held⟩ := mem_entries.1 member
    rw [receiptOfFile_eq tidy held] at found
    split at found
    · cases found
    · rename_i sameId
      split at found
      · cases found
      · rename_i matching
        cases found
        push Not at matching sameId
        obtain ⟨digest, own⟩ := matching
        refine ⟨rfl, .inl ⟨queue, name, transport, held, rfl, sameId, ?_, own⟩⟩
        rw [digest, own]

theorem lookupReceipt_none (tidy : Tidy rules target clock inbox marks)
    (nothing : lookupReceipt rules inbox requested intent = .ok none) :
    inbox.admitted.lookup requested.id = none ∧
      ∀ queue name transport, inbox.transport queue name = some transport →
        transport.envelope.id ≠ requested.id := by
  obtain ⟨admitted, first, nothing⟩ := bind_eq_ok.1 nothing
  cases admitted with
  | some admitted =>
    obtain ⟨_, _, nothing⟩ := bind_eq_ok.1 nothing
    cases nothing
  | none =>
    refine ⟨admittedReceipt_none first, ?_⟩
    intro queue name transport held
    have listed : queue ∈ [Queue.new, .cur, .cancelled, .dead] := by
      cases queue with
      | new => exact mem_cons_self
      | cur => exact mem_cons_of_mem _ mem_cons_self
      | dead => exact mem_cons_of_mem _ (mem_cons_of_mem _ (mem_cons_of_mem _
          mem_cons_self))
      | cancelled => exact mem_cons_of_mem _ (mem_cons_of_mem _ mem_cons_self)
      | corrupt => exact absurd (tidy.file held).placed id
    have silent := receiptOfFiles_none nothing (queue, name)
      (mem_entries.2 ⟨listed, transport, held⟩)
    rw [receiptOfFile_eq tidy held] at silent
    by_contra same
    rw [if_neg (not_not.2 same)] at silent
    split at silent
    · cases silent
    · cases silent

/- Delivery. -/

def delivers : Deed → Prop
  | .count | .upgrade | .publish => True
  | _ => False

/-- A message without a permission of its own, above all that has been granted. -/
structure Staged (inbox : Inbox) (receipt : SessionInboxReceipt) : Prop where
  above : ∃ marks, inbox.marks = .ok marks ∧ marks.granted < receipt.generation
  own : ∀ {queue name transport}, inbox.transport queue name = some transport →
    name.generation = receipt.generation →
    transport.intent = none ∧ transport.coordinatorIntent = none

/-- What was delivered with a permission is read under a versioned watermark. -/
def Fenced (inbox : Inbox) (intent : Option SessionInboxActivationIntent) : Prop :=
  intent.isSome = true → ∃ marks, inbox.marks = .ok marks ∧ marks.versioned = true

theorem deliverable_ok (allowed : deliverable rules envelope intent = .ok ()) :
    intent.all (fun intent => intent.supported) = true ∧
      intent.all (fun intent => intent.expectedRunId.isNone) = true ∧
      envelope.isScopedLoopControl = false ∧ rules.validEnvelope envelope = true := by
  obtain ⟨found, field, allowed⟩ := bind_eq_ok.1 allowed
  obtain ⟨supported, same⟩ := intentField_eq_ok.1 field
  subst found
  obtain ⟨_, _, allowed⟩ := bind_eq_ok.1 allowed
  obtain ⟨_, _, allowed⟩ := bind_eq_ok.1 allowed
  obtain ⟨_, _, allowed⟩ := bind_eq_ok.1 allowed
  obtain ⟨_, control, allowed⟩ := bind_eq_ok.1 allowed
  obtain ⟨_, bound, allowed⟩ := bind_eq_ok.1 allowed
  obtain ⟨_, valid, allowed⟩ := bind_eq_ok.1 allowed
  have unbound := refuse_eq_ok.1 bound
  have unscoped := refuse_eq_ok.1 control
  have sound := refuse_eq_ok.1 valid
  refine ⟨supported, ?_, Bool.eq_false_of_not_eq_true unscoped, by simpa using sound⟩
  cases intent with
  | none => rfl
  | some intent => simpa using unbound

theorem keeps_fenceIntent (read : inbox.marks = .ok marks) :
    Keeps rules target clock delivers inbox (fenceIntent rules transport)
      (fun _ inbox' => SameFiles inbox inbox' ∧
        ∃ marks', inbox'.marks = .ok marks' ∧ marks'.granted = marks.granted ∧
          (transport.intent.isSome = true → marks'.versioned = true)) := by
  obtain ⟨granted, _, _⟩ := marks_eq_ok.1 read
  unfold fenceIntent
  by_cases some : transport.intent.isSome = true
  · rw [if_pos some]
    apply keeps_refused
    intro _
    apply keeps_look
    apply keeps_checked
    intro found passed
    cases granted.symm.trans passed
    apply keeps_skipIf
    · intro versioned
      exact ⟨⟨rfl, rfl, rfl⟩, marks, read, rfl, fun _ => versioned⟩
    · intro versioned
      have unowned : marks.owned = false := by
        by_contra owned
        exact versioned (owned_versioned read (Bool.eq_true_of_not_eq_false owned))
      have moved : MarksMove inbox.generation .upgrade marks
          { marks with granted := marks.granted, versioned := true } :=
        .upgrade marks true marks.owned (fun _ => rfl) id
      apply keeps_mono (keeps_writeActivation read rfl (.inr ⟨rfl, unowned⟩) trivial moved)
        (fun _ may => may)
      intro _ inbox' _ ⟨same, reads⟩
      exact ⟨same, _, reads, rfl, fun _ => rfl⟩
  · rw [if_neg some]
    exact keeps_pure ⟨⟨rfl, rfl, rfl⟩, marks, read, rfl, fun impossible => absurd impossible some⟩

theorem keeps_deliver (tidy : Tidy rules target clock inbox marks)
    (aimed : envelope.targetSessionId = target) :
    Keeps rules target clock delivers inbox (deliver rules envelope gate intent)
      (fun receipt inbox' => receipt.delivery.id = envelope.id ∧
        Kept rules inbox' envelope intent receipt.delivery ∧
        (lookupReceipt rules inbox envelope intent = .ok none → intent = none →
          Staged inbox' receipt.delivery) ∧ Fenced inbox' intent) := by
  apply keeps_checked
  intro _ allowed
  obtain ⟨supported, unbound, unscoped, valid⟩ := deliverable_ok allowed
  apply keeps_look
  apply keeps_checked
  intro found lookup
  cases found with
  | some receipt =>
    obtain ⟨id, kept⟩ := lookupReceipt_some tidy lookup
    have replay : lookupReceipt rules inbox envelope intent = .ok none → intent = none →
        Staged inbox receipt.delivery := by
      intro nothing _
      cases lookup.symm.trans nothing
    dsimp only
    split
    · apply keeps_checked
      intro found passed
      obtain ⟨readGranted, _, _⟩ := marks_eq_ok.1 tidy.read
      cases readGranted.symm.trans passed
      apply keeps_refused
      intro versioned
      have fenced : Fenced inbox intent :=
        fun _ => ⟨marks, tidy.read, Bool.eq_true_of_not_eq_false versioned⟩
      exact keeps_pure ⟨id, kept, replay, fenced⟩
    · rename_i plain
      exact keeps_pure ⟨id, kept, replay, fun some => absurd some plain⟩
  | none =>
    obtain ⟨unadmitted, absent⟩ := lookupReceipt_none tidy lookup
    apply keeps_checked
    intro _ _
    apply keeps_refused
    intro _
    apply keeps_stepped .count trivial (.count inbox)
    have counted := tidy_count tidy
    apply keeps_bind (keeps_fenceIntent counted.read)
    intro _ fenced _ ⟨same, marks', reads, granted, versioned⟩
    apply keeps_checked
    intro _ _
    have generation : fenced.generation = inbox.generation + 1 := same.generation
    have sound : FileSound rules target clock fenced.generation marks' .new
        { generation := inbox.generation + 1, label := .delivered envelope.id }
        { envelope, intent, coordinatorIntent := none, lease := none } :=
      { positive := Nat.succ_pos _
        bounded := le_of_eq generation.symm
        envelope := valid
        aimed := aimed
        unscoped := unscoped
        intent := supported
        unbound := unbound
        coordinator := rfl
        fenced := fun some => versioned (some.elim id (fun impossible => nomatch impossible))
        leased := fun _ impossible => nomatch impossible
        dead := fun _ impossible => nomatch impossible
        placed := fun _ impossible => nomatch impossible }
    have last : marks'.granted < inbox.generation + 1 := by
      rw [granted]
      exact Nat.lt_succ_of_le tidy.granted
    have fresh : ∀ queue name' transport', fenced.transport queue name' = some transport' →
        name'.generation ≠ inbox.generation + 1 ∧ transport'.envelope.id ≠ envelope.id := by
      intro queue name' transport' held
      rw [same.transport] at held
      have bounded := (tidy.file held).bounded
      exact ⟨by omega, absent queue name' transport' held⟩
    have unreceived : ∀ id receipt, fenced.admitted.lookup id = some receipt →
        receipt.generation ≠ inbox.generation + 1 ∧ id ≠ envelope.id := by
      intro id receipt held
      rw [same.admitted] at held
      have bounded := (tidy.receipt held).bounded
      refine ⟨by omega, ?_⟩
      rintro rfl
      rw [unadmitted] at held
      cases held
    apply keeps_stepped .publish trivial
      (.publish fenced _ _ marks' reads sound rfl rfl last fresh unreceived)
    have published := Inbox.transport_put fenced .new .new
      { generation := inbox.generation + 1, label := .delivered envelope.id }
      { generation := inbox.generation + 1, label := .delivered envelope.id }
      { envelope, intent, coordinatorIntent := none, lease := none }
    rw [if_pos ⟨rfl, rfl⟩] at published
    refine keeps_pure ⟨rfl, .inl ⟨_, _, _, published, rfl, rfl, rfl, rfl⟩, ?_, ?_⟩
    · intro _ none
      refine ⟨⟨marks', ?_, last⟩, ?_⟩
      · exact reads
      · intro queue name transport held generation'
        rcases Inbox.of_put held with ⟨rfl, rfl, rfl⟩ | ⟨_, old⟩
        · exact ⟨none, rfl⟩
        · exact absurd generation' (fresh _ _ _ old).1
    · intro some
      refine ⟨marks', ?_, versioned some⟩
      exact reads

/- Withdrawal. -/

def withdraws : Deed → Prop
  | .move => True
  | _ => False

theorem keeps_cancelGuidanceIn {id : String} : ∀ names : List Name,
    Keeps rules target clock withdraws inbox (cancelGuidanceIn target id names)
      (fun _ _ => True) := by
  intro names
  induction names with
  | nil => exact keeps_pure trivial
  | cons name rest ih =>
    apply keeps_look
    cases held : inbox.transport .new name with
    | none => exact keeps_check (fun _ impossible => nomatch impossible)
    | some transport =>
      apply keeps_refused
      intro unleased
      split
      · apply keeps_stepped .move trivial
          (.rename .move inbox .new .cancelled name name transport held rfl
            (.cancel transport (by simpa using unleased)))
        exact keeps_pure trivial
      · exact ih

theorem keeps_cancelGuidance {id : String} :
    Keeps rules target clock withdraws inbox (cancelGuidance target id) (fun _ _ => True) :=
  keeps_look (keeps_cancelGuidanceIn _)

end Inboxes
