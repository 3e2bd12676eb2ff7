import BambooAgent.Inboxes.Admissions

/- The deeds of the consumers with leases. -/
namespace Inboxes
open SortedMaps Crashes Checks Option

variable {rules : Rules}

/- Valid leases. -/

variable {lease : StoredLease}

theorem valid_iff : lease.valid = true ↔
    lease.version = 1 ∧ lease.token.epoch ≠ 0 ∧ validConsumer lease.token.consumer = true ∧
      lease.failureCount ≤ maxExplicitFailures ∧
      (∀ count, lease.reclaimCount = some count → count < lease.token.epoch) ∧
      lease.manualRetryCount < lease.token.epoch ∧
      (∀ code, lease.lastErrorCode = some code → validErrorCode code = true) ∧
      (lease.failureCount = 0 ∨ lease.lastErrorCode.isSome = true) ∧
      (lease.retryAfter = none ∨ lease.deadLetteredAt = none) ∧
      (lease.retryRequestedAt = none ∨ lease.deadLetteredAt.isSome = true) := by
  cases reclaims : lease.reclaimCount <;> cases code : lease.lastErrorCode <;>
    simp [StoredLease.valid, and_assoc, reclaims, code]

theorem reclaims_lt (valid : lease.valid = true) : lease.reclaims < lease.token.epoch := by
  obtain ⟨_, positive, _, _, counted, _⟩ := valid_iff.1 valid
  unfold StoredLease.reclaims
  cases reclaims : lease.reclaimCount with
  | none =>
    have below : lease.token.epoch - 1 < lease.token.epoch := by omega
    exact below
  | some count => exact counted count reclaims

theorem checkedNext_eq_ok (run : checkedNext count message = .ok next) : next = count + 1 := by
  unfold checkedNext at run
  split at run
  · cases run
    rfl
  · cases run

theorem successorLease_sound (consumer : validConsumer request.consumer = true)
    (valid : ∀ before, previous = some before → before.valid = true)
    (run : successorLease request expiresAt incarnation policy previous = .ok lease) :
    lease.valid = true ∧ lease.deadLetteredAt = none ∧
      lease.token.epoch = epochOf previous + 1 ∧ lease.failureCount ≤ failuresOf previous ∧
      lease.token.consumer = request.consumer := by
  obtain ⟨epoch, epochRun, run⟩ := bind_eq_ok.1 run
  obtain ⟨reclaims, reclaimsRun, run⟩ := bind_eq_ok.1 run
  obtain ⟨manual, manualRun, run⟩ := bind_eq_ok.1 run
  cases run
  cases previous with
  | none =>
    cases epochRun
    cases reclaimsRun
    cases manualRun
    refine ⟨valid_iff.2 ⟨rfl, Nat.one_ne_zero, consumer, Nat.zero_le _, ?_, Nat.one_pos, ?_,
      .inl rfl, .inl rfl, .inl rfl⟩, rfl, rfl, le_rfl, rfl⟩
    · intro count same
      cases same
      exact Nat.one_pos
    · exact fun _ impossible => nomatch impossible
  | some before =>
    have sound := valid before rfl
    obtain ⟨_, positive, _, few, _, manualBelow, codes, errors, _, _⟩ := valid_iff.1 sound
    have epochNext : epoch = before.token.epoch + 1 := checkedNext_eq_ok epochRun
    have reclaimsBelow : reclaims < epoch := by
      have below := reclaims_lt sound
      simp only [nextReclaimCount] at reclaimsRun
      split at reclaimsRun
      · have next := checkedNext_eq_ok reclaimsRun
        omega
      · cases reclaimsRun
        omega
    have manualNext : manual < epoch := by
      simp only [nextManualRetryCount] at manualRun
      split at manualRun
      · have next := checkedNext_eq_ok manualRun
        omega
      · cases manualRun
        omega
    by_cases retried : before.retryRequestedAt.isNone = true
    · have kept : (some before).filter (fun lease => lease.retryRequestedAt.isNone) =
          some before := by
        rw [filter_some, if_pos retried]
      rw [kept]
      refine ⟨valid_iff.2 ⟨rfl, ?_, consumer, few, ?_, manualNext, codes, errors, .inl rfl,
        .inl rfl⟩, rfl, epochNext, le_rfl, rfl⟩
      · change epoch ≠ 0
        omega
      · intro count same
        cases same
        exact reclaimsBelow
    · have dropped : (some before).filter (fun lease => lease.retryRequestedAt.isNone) =
          none := by
        rw [filter_some, if_neg retried]
      rw [dropped]
      refine ⟨valid_iff.2 ⟨rfl, ?_, consumer, Nat.zero_le _, ?_, manualNext, ?_, .inl rfl,
        .inl rfl, .inl rfl⟩, rfl, epochNext, Nat.zero_le _, rfl⟩
      · change epoch ≠ 0
        omega
      · intro count same
        cases same
        exact reclaimsBelow
      · exact fun _ impossible => nomatch impossible

/- Format and recovery. -/

def claims : Deed → Prop
  | .upgrade | .lease | .extend | .move | .clear => True
  | _ => False

theorem keeps_ensureOwnedFormat (tidy : Tidy rules target clock inbox marks)
    (may : allowed .upgrade) :
    Keeps rules target clock allowed inbox (ensureOwnedFormat rules) (fun _ inbox' => SameFiles inbox inbox' ∧
        inbox'.marks = .ok { marks with versioned := true, owned := true }) := by
  obtain ⟨readGranted, readInterrupt, readOwned⟩ := marks_eq_ok.1 tidy.read
  apply keeps_look
  apply keeps_checked
  intro enabled passed
  cases readOwned.symm.trans passed
  apply keeps_checked
  intro version _
  split
  · rename_i done
    refine keeps_pure ⟨⟨rfl, rfl, rfl⟩, ?_⟩
    rw [tidy.read]
    have versioned := owned_versioned tidy.read done.1
    obtain ⟨granted, versioned', interrupt, owned⟩ := marks
    cases done.1
    cases versioned
    rfl
  · apply keeps_bind (Q := fun _ inbox' => inbox' = inbox)
    · apply keeps_skipIf
      · exact fun _ => rfl
      · exact fun _ => keeps_check (fun _ _ => rfl)
    · intro _ unchanged _ same
      subst unchanged
      apply keeps_checked
      intro granted passed
      cases readGranted.symm.trans passed
      apply keeps_checked
      intro interrupt passed
      cases readInterrupt.symm.trans passed
      have first := marks_owned tidy.read marks.granted
      have second := marks_interrupt_owned first rfl marks.interrupt
      apply keeps_stepped .upgrade may (.marks .upgrade inbox _ _ marks _ tidy.read first
        (.upgrade marks true true (fun _ => rfl) (fun _ => rfl)))
      apply keeps_step .upgrade may (.marks .upgrade _ _ _ _ _ first second
        (.upgrade _ true true (fun _ => rfl) (fun _ => rfl)))
      exact ⟨⟨rfl, rfl, rfl⟩, second⟩

theorem readOwned_eq_ok (run : readOwnedTransport rules inbox queue name = .ok transport) :
    inbox.transport queue name = some transport := by
  unfold readOwnedTransport at run
  cases held : inbox.transport queue name with
  | none =>
    rw [held] at run
    cases run
  | some found =>
    rw [held] at run
    obtain ⟨_, _, run⟩ := bind_eq_ok.1 run
    obtain ⟨_, _, run⟩ := bind_eq_ok.1 run
    cases run
    rfl

theorem ownedClaim_eq_ok
    (run : ownedClaim rules target transport generation claimId lease = .ok claim) :
    claim = { claim := { envelope := transport.envelope, generation,
                         activationPolicy := lease.policy, claimId },
              lease := lease.token } := by
  obtain ⟨_, _, run⟩ := bind_eq_ok.1 run
  obtain ⟨_, _, run⟩ := bind_eq_ok.1 run
  cases run
  rfl

theorem admittedReceipt_free (run : admittedReceipt rules inbox requested = .ok found)
    (free : ¬ found.isSome = true) : inbox.admitted.lookup requested.id = none := by
  cases found with
  | none => exact admittedReceipt_none run
  | some receipt => exact absurd rfl free

def recovers : Deed → Prop
  | .move => True
  | _ => False

theorem keeps_recoverRotation (tidy : Tidy rules target clock inbox marks) :
    Keeps rules target clock recovers inbox (recoverRotation rules target name)
      (fun _ inbox' => Tidy rules target clock inbox' marks) := by
  apply keeps_look
  apply keeps_checked
  intro transport read
  have held := readOwned_eq_ok read
  cases leased : transport.lease with
  | none => exact keeps_pure tidy
  | some stored =>
    dsimp only
    split
    · exact keeps_pure tidy
    · rename_i marked
      push Not at marked
      apply keeps_checked
      intro claim made
      apply keeps_checked
      intro found receipt
      apply keeps_refused
      intro free
      apply keeps_refused
      intro _
      have envelope : claim.claim.envelope = transport.envelope := by
        rw [ownedClaim_eq_ok made]
      have unadmitted := admittedReceipt_free receipt free
      rw [envelope] at unadmitted
      have does : Does rules target clock .move inbox (inbox.rename .cur .dead name name) :=
        .rename .move inbox .cur .dead name name transport held rfl
          (.bury transport stored unadmitted leased
            (isSome_iff_ne_none.2 marked.1))
      exact keeps_step .move trivial does
        (does_tidy_same tidy does (Inbox.rename_marks _ _ _ _))

theorem keeps_recoverRotations : ∀ (names : List Name) (inbox : Inbox),
    Tidy rules target clock inbox marks →
    Keeps rules target clock recovers inbox (recoverRotations rules target names)
      (fun _ inbox' => Tidy rules target clock inbox' marks) := by
  intro names
  induction names with
  | nil => exact fun _ tidy => keeps_pure tidy
  | cons name rest ih =>
    intro inbox tidy
    apply keeps_bind (keeps_recoverRotation tidy)
    intro _ inbox' _ tidy'
    exact ih inbox' tidy'

theorem keeps_recoverDeadLetterRotations (tidy : Tidy rules target clock inbox marks) :
    Keeps rules target clock recovers inbox (recoverDeadLetterRotations rules target)
      (fun _ inbox' => Tidy rules target clock inbox' marks) :=
  keeps_look (keeps_recoverRotations _ inbox tidy)

/- Claims. -/

/-- The claim stands in `cur` under its own name, of a message that may be consumed. -/
structure HandsOut (inbox : Inbox) (claim : SessionInboxOwnedClaim) : Prop where
  stands : ∃ transport lease, inbox.transport .cur claim.claim.claimId = some transport ∧
    transport.envelope = claim.claim.envelope ∧ transport.lease = some lease ∧
    lease.token = claim.lease
  named : claim.claim.claimId = ownedName claim.claim.generation claim.lease
  unadmitted : inbox.admitted.lookup claim.claim.envelope.id = none
  consumable : MayConsume inbox claim.claim.generation

/-- Claims given out one after the other, each true of the inbox when it was given. -/
inductive Handed (rules : Rules) (target : String) (clock : Time) (allowed : Deed → Prop)
    (holds : Inbox → SessionInboxOwnedClaim → Prop) (start : Inbox) :
    List SessionInboxOwnedClaim → Inbox → Prop
  | start : Handed rules target clock allowed holds start [] start
  | further {given inbox inbox'} (before : Handed rules target clock allowed holds start given inbox)
      (course : Course rules target clock allowed inbox inbox') :
      Handed rules target clock allowed holds start given inbox'
  | given {given inbox claim} (before : Handed rules target clock allowed holds start given inbox)
      (held : holds inbox claim) :
      Handed rules target clock allowed holds start (given ++ [claim]) inbox

theorem keeps_writeOwnedTransport (may : allowed deed)
    (does : Does rules target clock deed inbox (inbox.put queue name transport)) :
    Keeps rules target clock allowed inbox (writeOwnedTransport rules queue name transport)
      (fun _ inbox' => inbox' = inbox.put queue name transport) := by
  apply keeps_refused
  intro _
  exact keeps_step deed may does rfl

theorem keeps_handOut (tidy : Tidy rules target clock inbox marks) (owned : marks.owned = true)
    (held : inbox.transport queue name = some transport) (waiting : Queue.waiting queue)
    (unadmitted : inbox.admitted.lookup transport.envelope.id = none) (valid : lease.valid = true)
    (alive : lease.deadLetteredAt = none)
    (next : transport.lease = some lease ∨ lease.token.epoch = epochOf transport.lease + 1 ∧
      lease.failureCount ≤ failuresOf transport.lease)
    (message : messageActivationIntent transport = .ok activation)
    (open' : eligible name.generation marks.granted activation = true) :
    Keeps rules target clock claims inbox (handOut rules target queue name transport lease)
      (fun claim inbox' => Tidy rules target clock inbox' marks ∧ HandsOut inbox' claim) := by
  have written : ∃ deed, claims deed ∧ Does rules target clock deed inbox
      (inbox.put queue name { transport with lease := some lease }) := by
    rcases next with same | ⟨epoch, failures⟩
    · exact ⟨.extend, trivial, .rewrite .extend inbox queue name transport _ marks tidy.read held
        (.extend queue name transport lease lease.token.expiresAt waiting same alive)⟩
    · refine ⟨.lease, trivial, .rewrite .lease inbox queue name transport _ marks tidy.read held ?_⟩
      exact .lease queue name transport lease waiting unadmitted owned valid alive epoch failures
  obtain ⟨deed, may, does⟩ := written
  apply keeps_bind (keeps_writeOwnedTransport may does)
  intro _ put _ same
  subst same
  have tidyPut := does_tidy_same tidy does (Inbox.put_marks _ _ _)
  have heldPut : (inbox.put queue name { transport with lease := some lease }).transport queue
      name = some { transport with lease := some lease } := by
    rw [Inbox.transport_put, if_pos ⟨rfl, rfl⟩]
  apply keeps_bind (Q := fun _ moved => Tidy rules target clock moved marks ∧
    moved.admitted = inbox.admitted ∧
    moved.transport .cur (ownedName name.generation lease.token) =
      some { transport with lease := some lease })
  · apply keeps_skipIf
    · rintro ⟨rfl, here⟩
      refine ⟨tidyPut, rfl, ?_⟩
      rw [← here]
      exact heldPut
    · intro _
      apply keeps_look
      apply keeps_refused
      intro _
      have renames : Does rules target clock .move
          (inbox.put queue name { transport with lease := some lease })
          ((inbox.put queue name { transport with lease := some lease }).rename queue .cur name
            (ownedName name.generation lease.token)) := by
        refine .rename .move _ queue .cur name _ _ heldPut rfl (.take queue _ waiting ?_)
        intro other same
        cases same
        exact alive
      refine keeps_step .move trivial renames
        ⟨does_tidy_same tidyPut renames (Inbox.rename_marks _ _ _ _), ?_, ?_⟩
      · rw [Inbox.rename_admitted]
        rfl
      · rw [Inbox.transport_rename heldPut, if_pos ⟨rfl, rfl⟩]
  · intro _ moved _ ⟨tidyMoved, admitted, stands⟩
    apply keeps_check
    intro claim made
    cases ownedClaim_eq_ok made
    refine ⟨tidyMoved, ⟨⟨{ transport with lease := some lease }, lease, stands, rfl, rfl, rfl⟩,
      rfl, ?_, ?_⟩⟩
    · rw [admitted]
      exact unadmitted
    · exact ⟨marks, .cur, ownedName name.generation lease.token,
        { transport with lease := some lease }, activation, tidyMoved.read, stands, rfl, message,
        open'⟩

theorem leaseFor_sound (consumer : validConsumer request.request.consumer = true)
    (valid : ∀ before, stored = some before → before.valid = true)
    (marked : ∀ before, stored = some before → before.deadLetteredAt.isSome = true →
      before.retryRequestedAt.isSome = true)
    (run : leaseFor request expiresAt drawn granted interrupt generation activation stored =
      .ok (some lease)) :
    lease.valid = true ∧ lease.deadLetteredAt = none ∧
      (stored = some lease ∨ lease.token.epoch = epochOf stored + 1 ∧
        lease.failureCount ≤ failuresOf stored) := by
  unfold leaseFor at run
  cases stored with
  | none =>
    obtain ⟨policy, _, run⟩ := bind_eq_ok.1 run
    obtain ⟨next, made, run⟩ := bind_eq_ok.1 run
    cases run
    obtain ⟨sound, alive, epoch, failures, _⟩ := successorLease_sound consumer valid made
    exact ⟨sound, alive, .inr ⟨epoch, failures⟩⟩
  | some before =>
    dsimp only at run
    split at run
    · rename_i current
      split at run
      · cases run
      · cases run
        refine ⟨valid _ rfl, ?_, .inl rfl⟩
        by_contra dead
        have requested := marked _ rfl (isSome_iff_ne_none.2 dead)
        rw [current.1] at requested
        cases requested
    · obtain ⟨next, made, run⟩ := bind_eq_ok.1 run
      cases run
      obtain ⟨sound, alive, epoch, failures, _⟩ := successorLease_sound consumer valid made
      exact ⟨sound, alive, .inr ⟨epoch, failures⟩⟩

theorem markersPlaced_ok (run : markersPlaced queue stored = .ok ()) (leased : stored = some lease)
    (dead : lease.deadLetteredAt.isSome = true) : lease.retryRequestedAt.isSome = true := by
  subst leased
  obtain ⟨_, first, _⟩ := bind_eq_ok.1 run
  have unrequested := refuse_eq_ok.1 first
  by_contra none
  exact unrequested ⟨dead, not_isSome_iff_eq_none.1 none⟩

theorem keeps_claimEntry (tidy : Tidy rules target clock inbox marks) (owned : marks.owned = true)
    (consumer : validConsumer request.request.consumer = true) (waiting : Queue.waiting queue) :
    Keeps rules target clock claims inbox
      (claimEntry rules target request expiresAt marks.granted interrupt queue name given)
      (fun found inbox' => Tidy rules target clock inbox' marks ∧
        (found = given ∨ ∃ claim, found = given ++ [claim] ∧ HandsOut inbox' claim)) := by
  unfold claimEntry
  split
  · exact keeps_pure ⟨tidy, .inl rfl⟩
  apply keeps_look
  apply keeps_checked
  intro transport read
  have held := readOwned_eq_ok read
  apply keeps_checked
  intro intent field
  apply keeps_checked
  intro activation message
  split
  · exact keeps_pure ⟨tidy, .inl rfl⟩
  split
  · exact keeps_pure ⟨tidy, .inl rfl⟩
  rename_i open'
  apply keeps_refused
  intro _
  apply keeps_refused
  intro _
  split
  · exact keeps_pure ⟨tidy, .inl rfl⟩
  split
  · exact keeps_pure ⟨tidy, .inl rfl⟩
  apply keeps_checked
  intro found receipt
  cases found with
  | some receipt' =>
    apply keeps_checked
    intro _ _
    have does : Does rules target clock .clear inbox (inbox.remove queue name) :=
      .clear inbox queue name transport receipt' held (admittedReceipt_some receipt).1
    exact keeps_stepped .clear trivial does
      (keeps_pure ⟨does_tidy_same tidy does (Inbox.remove_marks _ _), .inl rfl⟩)
  | none =>
    apply keeps_checked
    intro _ placed
    split
    · exact keeps_pure ⟨tidy, .inl rfl⟩
    split
    · exact keeps_pure ⟨tidy, .inl rfl⟩
    apply keeps_checked
    intro chosen leased
    cases chosen with
    | none => exact keeps_pure ⟨tidy, .inl rfl⟩
    | some lease =>
      obtain ⟨valid, alive, next⟩ := leaseFor_sound consumer
        (fun before stored => ((tidy.file held).leased before stored).1)
        (fun before stored => markersPlaced_ok placed stored) leased
      apply keeps_bind (keeps_handOut tidy owned held waiting (admittedReceipt_none receipt)
        valid alive next message (Bool.eq_true_of_not_eq_false open'))
      rintro claim inbox' _ ⟨tidy', handed⟩
      exact keeps_pure ⟨tidy', .inr ⟨claim, rfl, handed⟩⟩

theorem keeps_claimEntries (start : Inbox) (owned : marks.owned = true)
    (consumer : validConsumer request.request.consumer = true) :
    ∀ (entries : List (Queue × Name)) (given : List SessionInboxOwnedClaim) (inbox : Inbox),
    (∀ entry ∈ entries, Queue.waiting entry.1) → Tidy rules target clock inbox marks →
    Handed rules target clock claims HandsOut start given inbox →
    Keeps rules target clock claims inbox
      (claimEntries rules target request expiresAt marks.granted interrupt entries given)
      (fun found inbox' => Handed rules target clock claims HandsOut start found inbox') := by
  intro entries
  induction entries with
  | nil => exact fun _ _ _ _ handed => keeps_pure handed
  | cons entry rest ih =>
    intro given inbox waiting tidy handed
    unfold claimEntries
    split
    · exact keeps_pure handed
    · apply keeps_bind (keeps_claimEntry tidy owned consumer (waiting _ List.mem_cons_self))
      intro found inbox' course ⟨tidy', outcome⟩
      apply ih found inbox' (fun other later => waiting other (List.mem_cons_of_mem _ later)) tidy'
      rcases outcome with rfl | ⟨claim, rfl, stands⟩
      · exact handed.further course
      · exact (handed.further course).given stands

theorem mem_sortEntries : entry ∈ sortEntries entries ↔ entry ∈ entries := List.mem_mergeSort

theorem expiresAt_eq_ok {request : SessionInboxLeaseRequest}
    (run : request.expiresAt = .ok expiresAt) :
    validConsumer request.consumer = true ∧ 0 < request.duration ∧
      expiresAt = request.now + request.duration := by
  unfold SessionInboxLeaseRequest.expiresAt at run
  split at run
  · cases run
  · rename_i sound
    cases run
    push Not at sound
    exact ⟨sound.1, Nat.pos_of_ne_zero sound.2.1, rfl⟩

theorem keeps_claimOwned (tidy : Tidy rules target clock inbox marks) :
    Keeps rules target clock claims inbox (claimOwned rules target request)
      (fun found inbox' => Handed rules target clock claims HandsOut inbox found inbox') := by
  apply keeps_refused
  intro _
  apply keeps_checked
  intro expiresAt requested
  have consumer := (expiresAt_eq_ok requested).1
  apply keeps_bind (keeps_ensureOwnedFormat tidy trivial)
  intro _ upgraded course ⟨_, reads⟩
  obtain ⟨marks', tidy'⟩ := Course.tidy course tidy
  have same : { marks with versioned := true, owned := true } = marks' := by
    cases tidy'.read.symm.trans reads
    rfl
  apply keeps_bind (keeps_mono (keeps_recoverDeadLetterRotations tidy')
    (fun deed may => by cases deed <;> first | exact trivial | cases may)
    (fun _ _ _ done => done))
  intro _ recovered course' tidy''
  apply keeps_look
  obtain ⟨readGranted, readInterrupt, _⟩ := marks_eq_ok.1 tidy''.read
  apply keeps_checked
  intro granted passed
  cases readGranted.symm.trans passed
  apply keeps_checked
  intro interrupt _
  apply keeps_claimEntries inbox (by rw [← same]) consumer
  · intro entry member
    obtain ⟨queue, name⟩ := entry
    have listed := (mem_entries.1 (mem_sortEntries.1 member)).1
    rcases List.mem_cons.1 listed with rfl | further
    · exact .inr rfl
    · cases List.mem_singleton.1 further
      exact .inl rfl
  · exact tidy''
  · exact (Handed.start.further course).further course'

/- The holder of a lease. -/

structure Current (inbox : Inbox) (claim : SessionInboxOwnedClaim) (now : Time)
    (transport : Transport) (stored : StoredLease) : Prop where
  held : inbox.transport .cur claim.claim.claimId = some transport
  leased : transport.lease = some stored
  token : stored.token = claim.lease
  unexpired : now < stored.token.expiresAt
  named : claim.claim.claimId = ownedName claim.claim.generation claim.lease
  envelope : transport.envelope = claim.claim.envelope
  enabled : inbox.ownedEnabled = .ok true

theorem currentOwned_eq_ok
    (run : currentOwned rules inbox target claim now = .ok (transport, stored)) :
    Current inbox claim now transport stored := by
  obtain ⟨_, _, run⟩ := bind_eq_ok.1 run
  obtain ⟨enabled, known, run⟩ := bind_eq_ok.1 run
  obtain ⟨_, on, run⟩ := bind_eq_ok.1 run
  obtain ⟨found, read, run⟩ := bind_eq_ok.1 run
  cases leased : found.lease with
  | none =>
    rw [leased] at run
    cases run
  | some lease =>
    rw [leased] at run
    obtain ⟨_, kept, run⟩ := bind_eq_ok.1 run
    obtain ⟨current, made, run⟩ := bind_eq_ok.1 run
    obtain ⟨_, matching, run⟩ := bind_eq_ok.1 run
    cases run
    have identity := refuse_eq_ok.1 kept
    push Not at identity
    obtain ⟨same, _, unexpired, named⟩ := identity
    have token : stored.token = claim.lease :=
      of_decide_eq_true (Bool.eq_true_of_not_eq_false same)
    have claimed := Decidable.not_not.1 (refuse_eq_ok.1 matching)
    rw [ownedClaim_eq_ok made] at claimed
    exact
      { held := readOwned_eq_ok read
        leased := leased
        token := token
        unexpired := unexpired
        named := by rw [← token]; exact named.symm
        envelope := by rw [← claimed]
        enabled := by
          have true' := refuse_eq_ok.1 on
          rw [known, Bool.eq_true_of_not_eq_false true'] }

theorem Current.alive (current : Current inbox claim now transport stored)
    (tidy : Tidy rules target clock inbox marks) (later : clock ≤ now) :
    stored.deadLetteredAt = none := by
  by_contra dead
  have ended := ((tidy.file current.held).dead stored current.leased
    (isSome_iff_ne_none.2 dead)).2
  exact lt_irrefl _ (lt_of_lt_of_le current.unexpired (le_trans ended later))

/-- A claim whose lease is on record. -/
def Holds (inbox : Inbox) (claim : SessionInboxOwnedClaim) : Prop :=
  ∃ lease, Recorded inbox claim.claim.envelope.id lease ∧ lease.token = claim.lease

theorem HandsOut.holds (handed : HandsOut inbox claim) : Holds inbox claim := by
  obtain ⟨transport, lease, held, envelope, leased, token⟩ := handed.stands
  exact ⟨lease, .inl ⟨.cur, _, transport, held, congrArg _ envelope, leased⟩, token⟩

def renews : Deed → Prop
  | .extend => True
  | _ => False

theorem extend_does (tidy : Tidy rules target clock inbox marks)
    (current : Current inbox claim now transport stored) (later : clock ≤ now) :
    Does rules target clock .extend inbox (inbox.put .cur claim.claim.claimId
      { transport with lease := some { stored with
          token := { stored.token with expiresAt } } }) :=
  .rewrite .extend inbox .cur _ transport _ marks tidy.read current.held
    (.extend .cur _ transport stored expiresAt (.inr rfl) current.leased
      (current.alive tidy later))

theorem keeps_renew (tidy : Tidy rules target clock inbox marks) (later : clock ≤ request.now) :
    Keeps rules target clock renews inbox (renew rules target claim request)
      (fun renewed inbox' => Holds inbox' renewed ∧
        ∃ transport stored, Current inbox claim request.now transport stored) := by
  apply keeps_checked
  intro expiresAt _
  apply keeps_refused
  intro _
  apply keeps_look
  apply keeps_checked
  intro ⟨transport, stored⟩ checked
  have current := currentOwned_eq_ok checked
  apply keeps_bind (keeps_writeOwnedTransport trivial (extend_does tidy current later))
  intro _ inbox' _ same
  subst same
  apply keeps_check
  intro renewed made
  cases ownedClaim_eq_ok made
  have stands := Inbox.transport_put inbox .cur .cur claim.claim.claimId claim.claim.claimId
    { transport with lease := some { stored with
        token := { stored.token with expiresAt := max stored.token.expiresAt expiresAt } } }
  rw [if_pos ⟨rfl, rfl⟩] at stands
  exact ⟨⟨_, .inl ⟨.cur, claim.claim.claimId, _, stands, rfl, rfl⟩, rfl⟩, transport, stored,
    current⟩

/-- What an ack may rest on: the lease itself, or a receipt that bears exactly it. -/
def AckGround (inbox : Inbox) (claim : SessionInboxOwnedClaim) (now : Time) : Prop :=
  (∃ transport stored, Current inbox claim now transport stored) ∨
  (∃ receipt lease, inbox.admitted.lookup claim.claim.envelope.id = some receipt ∧
    receipt.generation = claim.claim.generation ∧ receipt.lease = some lease ∧
    lease.token = claim.lease)

theorem keeps_ackOwned (tidy : Tidy rules target clock inbox marks) (later : clock ≤ now) :
    Keeps rules target clock admits inbox (ackOwned rules target claim now admittedAt)
      (fun _ _ => AckGround inbox claim now) := by
  apply keeps_refused
  intro _
  apply keeps_refused
  intro _
  apply keeps_look
  apply keeps_checked
  intro found receipt
  cases found with
  | some receipt' =>
    obtain ⟨admitted, _, _, valid⟩ := admittedReceipt_some receipt
    apply keeps_refused
    intro terminal
    push Not at terminal
    obtain ⟨generation, lease, _⟩ := terminal
    have ground : AckGround inbox claim now := by
      cases leased : receipt'.lease with
      | none =>
        rw [leased] at lease
        exact absurd rfl lease
      | some stored =>
        rw [leased] at lease
        simp only [all_some, ne_eq, Bool.not_eq_true, Bool.or_eq_false_iff] at lease
        have token : stored.token = claim.lease :=
          of_decide_eq_true (by simpa [StoredLease.sameIdentity] using lease.1)
        exact .inr ⟨receipt', stored, admitted, generation, leased, token⟩
    refine keeps_mono (keeps_ackUnlocked valid ?_) (fun _ may => may) (fun _ _ _ _ => ground)
    intro transport stored held envelope leased
    rw [← envelope] at admitted
    exact (tidy.leftover held admitted).alive stored leased
  | none =>
    apply keeps_checked
    intro ⟨transport, stored⟩ checked
    have current := currentOwned_eq_ok checked
    have ground : AckGround inbox claim now := .inl ⟨transport, stored, current⟩
    refine keeps_mono (keeps_ackUnlocked ?_ ?_) (fun _ may => may) (fun _ _ _ _ => ground)
    · intro lease same
      cases same
      exact ((tidy.file current.held).leased stored current.leased).1
    · intro transport' lease held' _ leased'
      cases current.held.symm.trans held'
      cases current.leased.symm.trans leased'
      exact current.alive tidy later

theorem keeps_release (tidy : Tidy rules target clock inbox marks) (later : clock ≤ looked) :
    Keeps rules target clock renews inbox (release rules target claim looked released written)
      (fun _ _ => ∃ transport stored, Current inbox claim looked transport stored) := by
  apply keeps_look
  apply keeps_checked
  intro ⟨transport, stored⟩ checked
  have current := currentOwned_eq_ok checked
  apply keeps_refused
  intro _
  apply keeps_checked
  intro _ _
  exact keeps_step .extend trivial (extend_does tidy current later)
    ⟨transport, stored, current⟩

def fails (inbox : Inbox) (claim : SessionInboxOwnedClaim) : Deed → Prop
  | .fail generation failures => generation = claim.claim.generation ∧
      ∃ transport, inbox.transport .cur claim.claim.claimId = some transport ∧
        claim.claim.claimId.generation = generation ∧ failures = failuresOf transport.lease + 1
  | .move => True
  | _ => False

theorem keeps_fail (tidy : Tidy rules target report.now inbox marks) :
    Keeps rules target report.now (fails inbox claim) inbox
      (fail rules target claim report)
      (fun _ _ => ∃ transport stored, Current inbox claim report.now transport stored) := by
  apply keeps_checked
  intro _ reported
  have code : validErrorCode report.errorCode = true := by
    have sound := refuse_eq_ok.1 reported
    simpa using sound
  apply keeps_look
  apply keeps_checked
  intro ⟨transport, stored⟩ checked
  have current := currentOwned_eq_ok checked
  have alive := current.alive tidy le_rfl
  have same : claim.claim.claimId.generation = claim.claim.generation := by
    rw [current.named]
    rfl
  have sound := tidy.file current.held
  obtain ⟨valid, owned⟩ := sound.leased stored current.leased
  obtain ⟨version, epoch, consumer, few, reclaims, manual, codes, errors, _, _⟩ :=
    valid_iff.1 valid
  have unretried : stored.retryRequestedAt = none := sound.placed stored current.leased
  apply keeps_checked
  intro found receipt
  apply keeps_refused
  intro free
  have unadmitted := admittedReceipt_free receipt free
  rw [← current.envelope] at unadmitted
  apply keeps_refused
  intro limit
  have counted : stored.failureCount + 1 ≤ maxExplicitFailures := Nat.le_of_not_lt limit
  have counts : fails inbox claim
      (.fail claim.claim.claimId.generation (stored.failureCount + 1)) :=
    ⟨same, transport, current.held, rfl, by rw [current.leased]; rfl⟩
  have errorCodes : ∀ code', some report.errorCode = some code' → validErrorCode code' = true := by
    intro code' same
    cases same
    exact code
  split
  · rename_i third
    have deed : Does rules target report.now
        (.fail claim.claim.claimId.generation (stored.failureCount + 1)) inbox (inbox.put .cur claim.claim.claimId
        { transport with lease := some { stored with
            failureCount := stored.failureCount + 1
            lastErrorCode := some report.errorCode
            token := { stored.token with expiresAt := report.now }
            retryAfter := none
            deadLetteredAt := some report.now
            retryRequestedAt := none } }) := by
      refine .rewrite _ inbox .cur _ transport _ marks tidy.read current.held
        (.fail _ transport stored { stored with
            failureCount := stored.failureCount + 1
            lastErrorCode := some report.errorCode
            token := { stored.token with expiresAt := report.now }
            retryAfter := none
            deadLetteredAt := some report.now
            retryRequestedAt := none } unadmitted current.leased alive ?_ rfl rfl le_rfl rfl
          (fun _ => third))
      exact valid_iff.2 ⟨version, epoch, consumer, counted, reclaims, manual, errorCodes,
        .inr rfl, .inl rfl, .inl rfl⟩
    apply keeps_bind (keeps_writeOwnedTransport counts deed)
    intro _ put _ same
    subst same
    apply keeps_look
    apply keeps_refused
    intro _
    have stands := Inbox.transport_put inbox .cur .cur claim.claim.claimId claim.claim.claimId
      { transport with lease := some { stored with
          failureCount := stored.failureCount + 1
          lastErrorCode := some report.errorCode
          token := { stored.token with expiresAt := report.now }
          retryAfter := none
          deadLetteredAt := some report.now
          retryRequestedAt := none } }
    rw [if_pos ⟨rfl, rfl⟩] at stands
    refine keeps_stepped .move trivial (.rename .move _ .cur .dead _ _ _ stands rfl
      (.bury _ _ unadmitted rfl rfl)) (keeps_pure ⟨transport, stored, current⟩)
  · have deed : Does rules target report.now
        (.fail claim.claim.claimId.generation (stored.failureCount + 1)) inbox (inbox.put .cur claim.claim.claimId
        { transport with lease := some { stored with
            failureCount := stored.failureCount + 1
            lastErrorCode := some report.errorCode
            token := { stored.token with expiresAt := report.now }
            retryAfter := some (report.now + retryDelay rules claim.claim.envelope.id
              claim.claim.generation (stored.failureCount + 1)) } }) := by
      refine .rewrite _ inbox .cur _ transport _ marks tidy.read current.held
        (.fail _ transport stored { stored with
            failureCount := stored.failureCount + 1
            lastErrorCode := some report.errorCode
            token := { stored.token with expiresAt := report.now }
            retryAfter := some (report.now + retryDelay rules claim.claim.envelope.id
              claim.claim.generation (stored.failureCount + 1)) }
          unadmitted current.leased alive ?_ rfl rfl le_rfl unretried ?_)
      · exact valid_iff.2 ⟨version, epoch, consumer, counted, reclaims, manual, errorCodes,
          .inr rfl, .inr alive, .inl unretried⟩
      · intro dead
        rw [alive] at dead
        cases dead
    apply keeps_bind (keeps_writeOwnedTransport counts deed)
    intro _ put _ _
    exact keeps_pure ⟨transport, stored, current⟩

/- Administration. -/

theorem keeps_inspectDeadLetters (tidy : Tidy rules target clock inbox marks) :
    Keeps rules target clock recovers inbox (inspectDeadLetters rules target limit authorized)
      (fun _ _ => True) := by
  apply keeps_checked
  intro _ _
  apply keeps_bind (keeps_recoverDeadLetterRotations tidy)
  intro _ recovered _ _
  exact keeps_look (keeps_check (fun _ _ => trivial))

theorem selectDeadLetter_sound {id : String} :
    ∀ {names : List Name} {selected : Option DeadLetter},
    (∀ before, selected = some before →
      inbox.transport .dead before.name = some before.transport ∧
        before.transport.lease = some before.lease ∧ before.name.generation = generation ∧
        before.transport.envelope.id = id) →
    selectDeadLetter rules inbox target id generation names selected = .ok (some letter) →
    inbox.transport .dead letter.name = some letter.transport ∧
      letter.transport.lease = some letter.lease ∧ letter.name.generation = generation ∧
      letter.transport.envelope.id = id := by
  intro names
  induction names with
  | nil =>
    intro selected sound run
    cases run
    exact sound letter rfl
  | cons name rest ih =>
    intro selected sound run
    unfold selectDeadLetter at run
    split at run
    · exact ih sound run
    · rename_i same
      obtain ⟨transport, read, run⟩ := bind_eq_ok.1 run
      cases leased : transport.lease with
      | none =>
        rw [leased] at run
        cases run
      | some lease =>
        rw [leased] at run
        obtain ⟨claim, made, run⟩ := bind_eq_ok.1 run
        have envelope : claim.claim.envelope = transport.envelope := by
          rw [ownedClaim_eq_ok made]
        split at run
        · exact ih sound run
        · rename_i sameId
          obtain ⟨_, _, run⟩ := bind_eq_ok.1 run
          apply ih _ run
          intro before here
          cases here
          push Not at same sameId
          exact ⟨readOwned_eq_ok read, leased, same, by rw [← envelope]; exact sameId⟩

/-- Only the dead letter that the retry names comes back. -/
def retries (inbox : Inbox) (receipt : SessionInboxReceipt) : Deed → Prop
  | .move | .request => True
  | .revive generation => generation = receipt.generation ∧ Names inbox receipt
  | _ => False

theorem keeps_retryDeadLetter {id : String} (tidy : Tidy rules target clock inbox marks) :
    Keeps rules target clock (retries inbox { id, generation }) inbox
      (retryDeadLetter rules target id generation now authorized) (fun _ _ => True) := by
  apply keeps_refused
  intro _
  apply keeps_checked
  intro _ _
  apply keeps_bind (keeps_mono (keeps_recoverDeadLetterRotations tidy)
    (fun deed may => by cases deed <;> first | exact trivial | cases may)
    (fun _ _ _ done => done))
  intro _ recovered course tidy'
  apply keeps_look
  apply keeps_checked
  intro selected run
  cases selected with
  | none => exact keeps_check (fun _ _ => trivial)
  | some letter =>
    have none' : ∀ before : DeadLetter, none = some before →
        recovered.transport .dead before.name = some before.transport ∧
          before.transport.lease = some before.lease ∧ before.name.generation = generation ∧
          before.transport.envelope.id = id := by
      intro before impossible
      cases impossible
    obtain ⟨held, leased, here, sameId⟩ := selectDeadLetter_sound none' run
    have named : Names inbox { id, generation } :=
      names_back (fun may => may) course ⟨_, _, _, held, here, sameId⟩
    dsimp only
    apply keeps_checked
    intro found _
    apply keeps_refused
    intro _
    cases marked : letter.lease.deadLetteredAt with
    | none => exact keeps_check (fun _ _ => trivial)
    | some deadAt =>
      apply keeps_refused
      intro _
      apply keeps_bind (Q := fun _ written => ∃ transport lease,
        written.transport .dead letter.name = some transport ∧ transport.lease = some lease ∧
          lease.retryRequestedAt.isSome = true)
      · apply keeps_skipIf
        · exact fun requested => ⟨letter.transport, letter.lease, held, leased, requested⟩
        · intro _
          have dead : letter.lease.deadLetteredAt.isSome = true := by
            rw [marked]
            rfl
          have requests : Does rules target clock .request recovered _ :=
            .rewrite .request recovered .dead letter.name letter.transport _ marks tidy'.read held
              (.request letter.name letter.transport letter.lease now leased dead)
          rw [marked] at requests
          refine keeps_mono (keeps_writeOwnedTransport trivial requests) (fun _ may => may) ?_
          intro _ written _ same
          subst same
          refine ⟨_, _, (Inbox.transport_put _ _ _ _ _ _).trans (if_pos ⟨rfl, rfl⟩), rfl, rfl⟩
      · intro _ written _ ⟨transport, lease, stands, leased', requested⟩
        apply keeps_look
        apply keeps_refused
        intro _
        exact keeps_stepped (.revive letter.name.generation) ⟨here, named⟩
          (.rename _ written .dead .new letter.name letter.name transport stands rfl
            (.revive transport lease leased' requested))
          (keeps_pure trivial)

end Inboxes
