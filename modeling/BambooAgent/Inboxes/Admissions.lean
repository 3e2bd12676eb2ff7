import BambooAgent.Inboxes.Deliveries

/- The deeds of an admission, and of the consumer without leases. -/
namespace Inboxes
open SortedMaps Crashes Checks Option

section
variable (tidy : Tidy rules target clock inbox marks)
include tidy

theorem Tidy.same_marks (read : inbox.marks = .ok marks') : marks' = marks := by
  cases tidy.read.symm.trans read
  rfl

theorem does_marks (does : Does rules target clock deed inbox inbox') :
    inbox'.marks = inbox.marks ∨
      ∃ marks', inbox'.marks = .ok marks' ∧ MarksMove inbox.generation deed marks marks' := by
  cases does with
  | marks deed inbox activation interrupt marks₀ marks₁ read₀ reads moved =>
    rw [tidy.same_marks read₀] at moved
    exact .inr ⟨marks₁, reads, moved⟩
  | count => exact .inl rfl
  | publish => exact .inl (Inbox.put_marks _ _ _)
  | rewrite => exact .inl (Inbox.put_marks _ _ _)
  | rename => exact .inl (Inbox.rename_marks _ _ _ _)
  | record => exact .inl rfl
  | clear => exact .inl (Inbox.remove_marks _ _)

theorem does_tidy_same (does : Does rules target clock deed inbox inbox')
    (same : inbox'.marks = inbox.marks) : Tidy rules target clock inbox' marks := by
  obtain ⟨marks', tidy'⟩ := does_tidy tidy does
  have read : inbox.marks = .ok marks' := by
    rw [← same]
    exact tidy'.read
  rw [tidy.same_marks read] at tidy'
  exact tidy'

end

/- Admission. -/

def admits : Deed → Prop
  | .record | .clear => True
  | _ => False

theorem lineage_of_identity (same : StoredLease.sameOptionalIdentity left right = true) :
    left.map StoredLease.lineage = right.map StoredLease.lineage := by
  cases left with
  | none =>
    cases right with
    | none => rfl
    | some => cases same
  | some left =>
    cases right with
    | none => cases same
    | some right =>
      have token : left.token = right.token := by
        have both := (Bool.and_eq_true_iff.1 same).1
        exact of_decide_eq_true both
      unfold StoredLease.lineage
      rw [map_some, map_some, token]

theorem keeps_ackUnlocked (valid : ∀ lease, expected = some lease → lease.valid = true)
    (alive : ∀ transport lease, inbox.transport .cur claim.claimId = some transport →
      transport.envelope = claim.envelope → transport.lease = some lease →
      lease.deadLetteredAt = none) :
    Keeps rules target clock admits inbox
      (ackUnlocked rules target claim expected admittedAt) (fun _ _ => True) := by
  apply keeps_look
  cases held : inbox.transport .cur claim.claimId with
  | none =>
    apply keeps_checked
    intro found _
    cases found with
    | none => exact keeps_check (fun _ _ => trivial)
    | some receipt => exact keeps_check (fun _ _ => trivial)
  | some transport =>
    apply keeps_refused
    intro _
    apply keeps_refused
    intro identity
    apply keeps_checked
    intro intent field
    apply keeps_checked
    intro coordinator _
    apply keeps_refused
    intro _
    apply keeps_refused
    intro mismatch
    apply keeps_checked
    intro existing _
    apply keeps_refused
    intro _
    obtain ⟨_, rfl⟩ := intentField_eq_ok.1 field
    push Not at mismatch
    obtain ⟨generation, _, envelope⟩ := mismatch
    have lineage := lineage_of_identity (Bool.eq_true_of_not_eq_false identity)
    have leftover : Leftover rules .cur transport
        { id := claim.envelope.id, generation := claim.generation,
          semanticDigest := deliveryDigest rules claim.envelope transport.intent, admittedAt,
          intent := transport.intent, coordinatorIntent := coordinator, lease := expected } :=
      { queue := rfl
        digest := by rw [envelope]
        intent := rfl
        lineage := lineage.symm
        alive := fun lease leased => alive transport lease held envelope leased }
    apply keeps_stepped .record trivial
      (.record inbox claim.claimId transport _ held (by rw [envelope]) generation.symm
        valid leftover)
    have admitted := (@Inbox.lookup_record inbox
      { id := claim.envelope.id, generation := claim.generation,
        semanticDigest := deliveryDigest rules claim.envelope transport.intent, admittedAt,
        intent := transport.intent, coordinatorIntent := coordinator, lease := expected }
      transport.envelope.id).trans (if_pos (congrArg _ envelope))
    exact keeps_step .clear trivial (.clear _ .cur claim.claimId transport _ held admitted) trivial

theorem keeps_ack (tidy : Tidy rules target clock inbox marks) :
    Keeps rules target clock admits inbox (ack rules target claim admittedAt)
      (fun _ _ => True) := by
  apply keeps_refused
  intro _
  apply keeps_refused
  intro _
  apply keeps_look
  apply keeps_checked
  intro enabled passed
  apply keeps_refused
  intro disabled
  have unowned : marks.owned = false := by
    cases (marks_eq_ok.1 tidy.read).2.2.symm.trans passed
    exact Bool.eq_false_of_not_eq_true disabled
  apply keeps_ackUnlocked
  · intro lease impossible
    cases impossible
  intro transport lease held _ leased
  have owned := ((tidy.file held).leased lease leased).2
  rw [unowned] at owned
  cases owned

/- The consumer without leases. -/

def MayConsume (inbox : Inbox) (generation : Nat) : Prop :=
  ∃ marks queue name transport activation, inbox.marks = .ok marks ∧
    inbox.transport queue name = some transport ∧ name.generation = generation ∧
    messageActivationIntent transport = .ok activation ∧
    eligible generation marks.granted activation = true

def ReadFrom (inbox : Inbox) (claim : SessionInboxClaim) : Prop :=
  ∃ transport, inbox.transport .cur claim.claimId = some transport ∧
    transport.envelope = claim.envelope ∧ claim.claimId.generation = claim.generation

section
variable (tidy : Tidy rules target clock inbox marks)
include tidy

theorem queueIntent_eq_ok
    (run : queueIntent rules inbox versioned terminal queue name = .ok (intent, acknowledged)) :
    ∃ transport, inbox.transport queue name = some transport ∧
      messageActivationIntent transport = .ok intent := by
  unfold queueIntent at run
  cases held : inbox.transport queue name with
  | none =>
    rw [held] at run
    cases run
  | some transport =>
    rw [held] at run
    obtain ⟨_, _, run⟩ := bind_eq_ok.1 run
    have undamaged : ¬ transport.lease.any (fun lease => !lease.valid) = true := by
      rw [(tidy.file held).valid]
      exact Bool.false_ne_true
    rw [if_neg undamaged] at run
    obtain ⟨_, _, run⟩ := bind_eq_ok.1 run
    obtain ⟨found, message, run⟩ := bind_eq_ok.1 run
    obtain ⟨_, _, run⟩ := bind_eq_ok.1 run
    refine ⟨transport, rfl, ?_⟩
    cases terminal with
    | none =>
      cases run
      exact message
    | some target =>
      obtain ⟨receipt, _, run⟩ := bind_eq_ok.1 run
      cases receipt with
      | none =>
        cases run
        exact message
      | some receipt =>
        obtain ⟨_, _, run⟩ := bind_eq_ok.1 run
        obtain ⟨_, _, run⟩ := bind_eq_ok.1 run
        cases run
        exact message

theorem turnEntries_sound (prefixed : marks.granted = granted) :
    ∀ {entries : List (Queue × Name)} {found : List TurnEntry},
    turnEntries rules inbox granted interrupt versioned run scopedOnly entries = .ok found →
    ∀ entry ∈ found, MayConsume inbox entry.name.generation := by
  intro entries
  induction entries with
  | nil =>
    intro found run entry member
    cases run
    cases member
  | cons first rest ih =>
    intro found run entry member
    obtain ⟨here, turn, run⟩ := bind_eq_ok.1 run
    obtain ⟨others, later, run⟩ := bind_eq_ok.1 run
    cases run
    rcases List.mem_append.1 member with this | further
    · obtain ⟨⟨intent, acknowledged⟩, message, turn⟩ := bind_eq_ok.1 turn
      dsimp only at turn
      split at turn
      · cases turn
        cases this
      · rename_i passed
        obtain ⟨policy, _, turn⟩ := bind_eq_ok.1 turn
        cases turn
        cases mem_toList.1 this
        obtain ⟨transport, held, activation⟩ := queueIntent_eq_ok tidy message
        refine ⟨marks, first.1, first.2, transport, intent, tidy.read, held, rfl, activation, ?_⟩
        rw [prefixed]
        simp only [Bool.or_eq_true, not_or, Bool.not_eq_true] at passed
        simpa using passed.1.2
    · exact ih later entry further

theorem keeps_claimTurnEntry (unowned : marks.owned = false) :
    Keeps rules target clock withdraws inbox (claimTurnEntry rules target entry claims)
      (fun found inbox' => Tidy rules target clock inbox' marks ∧
        inbox'.admitted = inbox.admitted ∧
        (found = claims ∨ ∃ claim, found = claims ++ [claim] ∧ ReadFrom inbox' claim ∧
          claim.generation = entry.name.generation)) := by
  apply keeps_look
  by_cases gone : entry.claimed = false ∧ inbox.transport .new entry.name = none
  · rw [if_pos gone]
    exact keeps_pure ⟨tidy, rfl, .inl rfl⟩
  · rw [if_neg gone]
    apply keeps_bind (Q := fun _ inbox' => Tidy rules target clock inbox' marks ∧
      inbox'.admitted = inbox.admitted)
    · apply keeps_skipIf
      · exact fun _ => ⟨tidy, rfl⟩
      · intro already
        have pending : inbox.transport .new entry.name ≠ none :=
          fun none => gone ⟨Bool.eq_false_of_not_eq_true already, none⟩
        obtain ⟨transport, held⟩ := ne_none_iff_exists'.1 pending
        have does : Does rules target clock .move inbox
            (inbox.rename .new .cur entry.name entry.name) := by
          refine .rename .move inbox .new .cur entry.name entry.name transport held rfl
            (.take .new transport (.inl rfl) ?_)
          intro lease leased
          have owned := ((tidy.file held).leased lease leased).2
          rw [unowned] at owned
          cases owned
        exact keeps_step .move trivial does
          ⟨does_tidy_same tidy does (Inbox.rename_marks _ _ _ _), Inbox.rename_admitted _ _ _ _⟩
    · intro _ moved _ ⟨kept, same⟩
      apply keeps_look
      cases held : moved.transport .cur entry.name with
      | none => exact keeps_check (fun _ impossible => nomatch impossible)
      | some transport =>
        dsimp only
        have sound := kept.file held
        have readable : ¬ (transport.lease.isSome = true ∨
            rules.validEnvelope transport.envelope = false ∨
            transport.envelope.targetSessionId ≠ target) := by
          rintro (leased | invalid | elsewhere)
          · have owned := sound.known leased
            rw [unowned] at owned
            cases owned
          · rw [sound.envelope] at invalid
            cases invalid
          · exact elsewhere sound.aimed
        rw [if_neg readable]
        exact keeps_pure ⟨kept, same, .inr ⟨_, rfl, ⟨transport, held, rfl, rfl⟩, rfl⟩⟩

end

/-- Every claim of a turn was read from a file of a generation that was open. -/
def TurnClaims (rules : Rules) (target : String) (clock : Time) (inbox : Inbox)
    (entries : List TurnEntry) (claims : List SessionInboxClaim) : Prop :=
  ∀ claim ∈ claims, (∃ entry ∈ entries, claim.generation = entry.name.generation) ∧
    ∃ between, Course rules target clock withdraws inbox between ∧
      between.admitted = inbox.admitted ∧ ReadFrom between claim

theorem keeps_claimTurnEntries (start : Inbox) (every : List TurnEntry)
    (unowned : marks.owned = false) :
    ∀ (entries : List TurnEntry) (claims : List SessionInboxClaim) (inbox : Inbox), (∀ entry ∈
      entries, entry ∈ every) → Tidy rules target clock inbox marks → Course rules target clock
      withdraws start inbox → inbox.admitted = start.admitted → TurnClaims rules target clock start
      every claims → Keeps rules target clock withdraws inbox (claimTurnEntries rules target limit
      entries claims) (fun found _ => TurnClaims rules target clock start every found) := by
  intro entries
  induction entries with
  | nil => exact fun _ _ _ _ _ _ sound => keeps_pure sound
  | cons entry rest ih =>
    intro claims inbox listed tidy course admitted sound
    unfold claimTurnEntries
    split
    · exact keeps_pure sound
    · apply keeps_bind (keeps_claimTurnEntry tidy unowned)
      intro found inbox' further ⟨tidy', same, outcome⟩
      have reached := course.trans further
      have sameStart := same.trans admitted
      apply ih found inbox' (fun other member => listed other (List.mem_cons_of_mem _ member))
        tidy' reached sameStart
      rcases outcome with rfl | ⟨claim, rfl, read, generation⟩
      · exact sound
      · intro other member
        rcases List.mem_append.1 member with before | last
        · exact sound other before
        · cases List.mem_singleton.1 last
          exact ⟨⟨entry, listed entry List.mem_cons_self, generation⟩, inbox', reached,
            sameStart, read⟩

theorem keeps_claimForTurn (tidy : Tidy rules target clock inbox marks) :
    Keeps rules target clock withdraws inbox (claimForTurn rules target limit run scopedOnly)
      (fun claims _ => ∀ claim ∈ claims, MayConsume inbox claim.generation ∧
        ∃ between, Course rules target clock withdraws inbox between ∧
          between.admitted = inbox.admitted ∧ ReadFrom between claim) := by
  obtain ⟨readGranted, _, readOwned⟩ := marks_eq_ok.1 tidy.read
  apply keeps_look
  apply keeps_checked
  intro enabled passed
  apply keeps_refused
  intro disabled
  cases readOwned.symm.trans passed
  have unowned := Bool.eq_false_of_not_eq_true disabled
  apply keeps_checked
  intro found granted
  cases readGranted.symm.trans granted
  dsimp only
  split
  · exact keeps_pure (fun _ impossible => nomatch impossible)
  · apply keeps_checked
    intro interrupt _
    apply keeps_checked
    intro entries chosen
    have open' := turnEntries_sound tidy rfl chosen
    apply keeps_mono (keeps_claimTurnEntries inbox
      (entries.mergeSort (fun left right => decide (left.name ≤ right.name)))
      unowned _ [] inbox (fun _ member => member) tidy .refl rfl
      (fun _ impossible => nomatch impossible)) (fun _ may => may)
    intro claims _ _ sound claim member
    obtain ⟨⟨entry, listed, generation⟩, read⟩ := sound claim member
    rw [generation]
    exact ⟨open' entry (List.mem_mergeSort.1 listed), read⟩

end Inboxes
