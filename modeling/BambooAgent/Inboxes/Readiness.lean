import BambooAgent.Inboxes.Exclusivity

/- What the scan for a wake-up says of each file, and of all of them together. -/
namespace Inboxes
open SortedMaps Crashes Checks Bool

variable {rules : Rules} {target : String} {clock : Time} {inbox : Inbox} {marks : Marks}

/-- The candidate that a file makes, where it makes one. -/
def candidateOf (marks : Marks) (name : Name) (transport : Transport)
    (policy : SessionActivationPolicy) : SessionInboxWakeCandidate :=
  { id := transport.envelope.id, generation := name.generation, activationPolicy := policy,
    coordinatorGeneration := marks.granted,
    coordinatorMessagePolicy := transport.coordinatorIntent.map (fun intent => intent.policy),
    leaseEpoch := transport.lease.map (fun lease => lease.token.epoch),
    readyAfter := readyAfter transport.lease }

/-- A file from which a run may be started. -/
structure Wakes (rules : Rules) (inbox : Inbox) (target : String) (marks : Marks) (queue : Queue)
    (name : Name) (transport : Transport) : Prop where
  read : readOwnedTransport rules inbox queue name = .ok transport
  valid : rules.validEnvelope transport.envelope = true
  aimed : transport.envelope.targetSessionId = target
  opened : ∃ activation, messageActivationIntent transport = .ok activation ∧
    wakeEligible name.generation marks.granted activation = true
  unadmitted : inbox.admitted.lookup transport.envelope.id = none
  placed : markersPlaced queue transport.lease = .ok ()

theorem wakeCandidate_sound
    (run : wakeCandidate rules inbox target marks.granted interrupt queue name =
      .ok (some candidate)) :
    ∃ transport policy, Wakes rules inbox target marks queue name transport ∧
      candidate = candidateOf marks name transport policy := by
  obtain ⟨transport, read, run⟩ := bind_eq_ok.1 run
  obtain ⟨intent, _, run⟩ := bind_eq_ok.1 run
  obtain ⟨activation, message, run⟩ := bind_eq_ok.1 run
  split at run
  · cases run
  · rename_i opened
    obtain ⟨_, valid, run⟩ := bind_eq_ok.1 run
    obtain ⟨_, aimed, run⟩ := bind_eq_ok.1 run
    obtain ⟨found, receipt, run⟩ := bind_eq_ok.1 run
    cases found with
    | some admitted =>
      obtain ⟨_, _, run⟩ := bind_eq_ok.1 run
      cases run
    | none =>
      obtain ⟨_, placed, run⟩ := bind_eq_ok.1 run
      -- Whichever way the policy comes about, the candidate is put together after it.
      have made : ∃ policy, candidate = candidateOf marks name transport policy := by
        unfold candidateOf
        cases leased : transport.lease with
        | some lease =>
          rw [leased] at run
          obtain ⟨policy, _, run⟩ := bind_eq_ok.1 run
          obtain ⟨coordinator, field, run⟩ := bind_eq_ok.1 run
          obtain ⟨_, rfl⟩ := intentField_eq_ok.1 field
          cases run
          exact ⟨policy, rfl⟩
        | none =>
          rw [leased] at run
          obtain ⟨policy, _, run⟩ := bind_eq_ok.1 run
          obtain ⟨coordinator, field, run⟩ := bind_eq_ok.1 run
          obtain ⟨_, rfl⟩ := intentField_eq_ok.1 field
          cases run
          exact ⟨policy, rfl⟩
      obtain ⟨policy, made⟩ := made
      refine ⟨transport, policy, ⟨read, ?_, ?_, ⟨activation, message, ?_⟩,
        admittedReceipt_none receipt, placed⟩, made⟩
      · exact eq_true_of_not_eq_false (refuse_eq_ok.1 valid)
      · exact not_not.1 (refuse_eq_ok.1 aimed)
      · exact eq_true_of_not_eq_false opened

theorem wakeReadiness_sound {granted : Nat} :
    ∀ {entries : List (Queue × Name)} {before found : SessionInboxWakeReadiness}
      {candidate : SessionInboxWakeCandidate},
    wakeReadiness rules inbox target granted interrupt now entries before = .ok found →
    found.ready = some candidate →
    before.ready = some candidate ∨ ∃ entry ∈ entries,
      wakeCandidate rules inbox target granted interrupt entry.1 entry.2 = .ok (some candidate) ∧
        candidate.readyAfter.filter (fun due => decide (now < due)) = none := by
  intro entries
  induction entries with
  | nil =>
    intro before found candidate run ready
    cases run
    exact .inl ready
  | cons entry rest ih =>
    intro before found candidate run ready
    obtain ⟨queue, name⟩ := entry
    have later : ∀ {between : SessionInboxWakeReadiness},
        wakeReadiness rules inbox target granted interrupt now rest between = .ok found →
        (between.ready = some candidate → before.ready = some candidate ∨
          ∃ entry ∈ (queue, name) :: rest, wakeCandidate rules inbox target granted interrupt
            entry.1 entry.2 = .ok (some candidate) ∧
            candidate.readyAfter.filter (fun due => decide (now < due)) = none) →
        before.ready = some candidate ∨ ∃ entry ∈ (queue, name) :: rest,
          wakeCandidate rules inbox target granted interrupt entry.1 entry.2 =
            .ok (some candidate) ∧
          candidate.readyAfter.filter (fun due => decide (now < due)) = none := by
      intro between run here
      rcases ih run ready with earlier | ⟨entry, member, wakes⟩
      · exact here earlier
      · exact .inr ⟨entry, List.mem_cons_of_mem _ member, wakes⟩
    obtain ⟨made, one, run⟩ := bind_eq_ok.1 run
    cases made with
    | none => exact later run .inl
    | some made =>
      dsimp only at run
      split at run
      · exact later run .inl
      · rename_i due
        have here : made = candidate → before.ready = some candidate ∨
            ∃ entry ∈ (queue, name) :: rest, wakeCandidate rules inbox target granted interrupt
              entry.1 entry.2 = .ok (some candidate) ∧
              candidate.readyAfter.filter (fun due => decide (now < due)) = none := by
          intro same
          rw [← same]
          exact .inr ⟨_, List.mem_cons_self, one, due⟩
        split at run
        · cases run
          exact here (Option.some.inj ready)
        · apply later run
          intro first
          cases known : before.ready with
          | some earlier =>
            rw [known] at first
            exact .inl first
          | none =>
            rw [known] at first
            have found' := here (Option.some.inj first)
            rw [known] at found'
            exact found'

theorem Wakes.mayConsume (wakes : Wakes rules inbox target marks queue name transport)
    (tidy : Tidy rules target clock inbox marks) : MayConsume inbox name.generation := by
  obtain ⟨activation, message, opened⟩ := wakes.opened
  refine ⟨marks, queue, name, transport, activation, tidy.read, readOwned_eq_ok wakes.read, rfl,
    message, ?_⟩
  exact (and_eq_true_iff.1 opened).2

end Inboxes
