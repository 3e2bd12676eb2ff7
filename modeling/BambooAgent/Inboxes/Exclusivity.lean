import BambooAgent.Inboxes.Runs

/- Who may act on a message: the holder of its last lease, for as long as that lease runs. -/
namespace Inboxes
open SortedMaps Crashes Checks

variable {α : Type}

/- Programs that are turned away. -/

/-- The program ends with an error before it has done anything. -/
def Refuses (inbox : Inbox) (m : Act α) : Prop :=
  ∀ left, ∃ error, m { inbox, left } = (.error (.failed error), { inbox, left })

theorem refuses_look {f : Inbox → Act β} (rest : Refuses inbox (f inbox)) :
    Refuses inbox (look >>= f) := fun left => rest left

theorem refuses_checked {f : α → Act β} (rest : ∀ a, result = .ok a → Refuses inbox (f a)) :
    Refuses inbox (check result >>= f) := by
  intro left
  cases result with
  | error error => exact ⟨error, rfl⟩
  | ok a => exact rest a rfl left

theorem refuses_refused [Decidable condition] {error : SessionInboxError}
    {f : Unit → Act β} (rest : ¬ condition → Refuses inbox (f ())) :
    Refuses inbox (check (refuse condition error) >>= f) :=
  refuses_checked (fun _ passed => rest (refuse_eq_ok.1 passed))

/- Accepted claims. -/

def Accepts (rules : Rules) (target : String) (inbox : Inbox) (claim : SessionInboxOwnedClaim)
    (now : Time) : Prop :=
  ∃ found, currentOwned rules inbox target claim now = .ok found

theorem Accepts.current (accepts : Accepts rules target inbox claim now) :
    ∃ transport stored, Current inbox claim now transport stored := by
  obtain ⟨⟨transport, stored⟩, run⟩ := accepts
  exact ⟨transport, stored, currentOwned_eq_ok run⟩

theorem Accepts.recorded (accepts : Accepts rules target inbox claim now) :
    ∃ lease, Recorded inbox claim.claim.envelope.id lease ∧ lease.token = claim.lease := by
  obtain ⟨transport, stored, current⟩ := accepts.current
  exact ⟨stored, .inl ⟨.cur, _, transport, current.held, congrArg _ current.envelope,
    current.leased⟩, current.token⟩

theorem Accepts.unexpired (accepts : Accepts rules target inbox claim now) :
    now < claim.lease.expiresAt := by
  obtain ⟨transport, stored, current⟩ := accepts.current
  rw [← current.token]
  exact current.unexpired

/-- The admission of the message under exactly this lease. -/
def AdmittedUnder (inbox : Inbox) (claim : SessionInboxOwnedClaim) : Prop :=
  ∃ receipt lease, inbox.admitted.lookup claim.claim.envelope.id = some receipt ∧
    receipt.generation = claim.claim.generation ∧ receipt.lease = some lease ∧
    lease.token = claim.lease

theorem accepts_one (tidy : Tidy rules target clock inbox marks)
    (one : Accepts rules target inbox first now) (other : Accepts rules target inbox second now')
    (same : first.claim.envelope.id = second.claim.envelope.id) : first.lease = second.lease := by
  obtain ⟨transport, stored, current⟩ := one.current
  obtain ⟨transport', stored', current'⟩ := other.current
  have sameId : transport.envelope.id = transport'.envelope.id := by
    rw [current.envelope, current'.envelope]
    exact same
  obtain ⟨_, here⟩ := tidy.oneId current.held current'.held sameId
  have held := current.held
  rw [here] at held
  cases held.symm.trans current'.held
  cases current.leased.symm.trans current'.leased
  exact current.token.symm.trans current'.token

/- The calls of a holder. -/

/-- What is turned away: every one of the calls that a holder makes. -/
structure TurnedAway (rules : Rules) (target : String) (inbox : Inbox)
    (claim : SessionInboxOwnedClaim) (after : Time) : Prop where
  renew : ∀ request : SessionInboxLeaseRequest, after ≤ request.now →
    Refuses inbox (renew rules target claim request)
  release : ∀ looked released written, after ≤ looked →
    Refuses inbox (release rules target claim looked released written)
  fail : ∀ report : SessionInboxFailureReport, after ≤ report.now →
    Refuses inbox (fail rules target claim report)
  ack : ¬ AdmittedUnder inbox claim → ∀ now admittedAt, after ≤ now →
    Refuses inbox (ackOwned rules target claim now admittedAt)

theorem turned_away (never : ∀ now, after ≤ now → ¬ Accepts rules target inbox claim now) :
    TurnedAway rules target inbox claim after where
  renew := by
    intro request later
    apply refuses_checked
    intro expiresAt _
    apply refuses_refused
    intro _
    apply refuses_look
    apply refuses_checked
    intro found passed
    exact absurd ⟨found, passed⟩ (never _ later)
  release := by
    intro looked released written later
    apply refuses_look
    apply refuses_checked
    intro found passed
    exact absurd ⟨found, passed⟩ (never _ later)
  fail := by
    intro report later
    apply refuses_checked
    intro _ _
    apply refuses_look
    apply refuses_checked
    intro found passed
    exact absurd ⟨found, passed⟩ (never _ later)
  ack := by
    intro unadmitted now admittedAt later
    apply refuses_refused
    intro _
    apply refuses_refused
    intro _
    apply refuses_look
    apply refuses_checked
    intro found passed
    cases found with
    | none =>
      apply refuses_checked
      intro found passed
      exact absurd ⟨found, passed⟩ (never _ later)
    | some receipt =>
      apply refuses_refused
      intro exact'
      refine absurd ?_ unadmitted
      obtain ⟨admitted, _⟩ := admittedReceipt_some passed
      push Not at exact'
      obtain ⟨generation, leased, _⟩ := exact'
      cases lease : receipt.lease with
      | none =>
        rw [lease] at leased
        exact absurd rfl leased
      | some stored =>
        rw [lease] at leased
        refine ⟨receipt, stored, admitted, generation, lease, ?_⟩
        simp [StoredLease.sameIdentity] at leased
        exact leased.1

/- Over runs. -/

theorem superseded_unrecorded {id : String} (tidy : Tidy rules target clock inbox marks)
    (superseded : ∃ later, Recorded inbox id later ∧ token.epoch < later.token.epoch)
    (recorded : Recorded inbox id lease) : lease.token ≠ token := by
  obtain ⟨later, standing, further⟩ := superseded
  intro same
  have epoch := epoch_of_lineage (recorded_one tidy recorded standing)
  rw [same] at epoch
  omega

theorem superseded_run {id : String} {token : SessionInboxLeaseToken}
    (run : Run rules target permitted world world') (sound : world.Sound rules target)
    (superseded : ∃ later, Recorded world.inbox id later ∧ token.epoch < later.token.epoch) :
    ∃ later, Recorded world'.inbox id later ∧ token.epoch < later.token.epoch := by
  obtain ⟨later, recorded, further⟩ := superseded
  obtain ⟨last, recorded', since⟩ :=
    reached_run run sound ⟨later, recorded, .inr rfl⟩
  refine ⟨last, recorded', ?_⟩
  rcases since with more | same
  · exact lt_trans further more
  · have epoch : last.token.epoch = later.token.epoch := congrArg (fun lineage => lineage.2.1) same
    rw [epoch]
    exact further

theorem handed_each (handed : Handed rules target clock allowed holds inbox given inbox') :
    Course rules target clock allowed inbox inbox' ∧ ∀ claim ∈ given, ∃ between,
      Course rules target clock allowed inbox between ∧ holds between claim := by
  induction handed with
  | start => exact ⟨.refl, fun _ impossible => nomatch impossible⟩
  | further before course ih => exact ⟨ih.1.trans course, ih.2⟩
  | given before held ih =>
    refine ⟨ih.1, ?_⟩
    intro claim member
    rcases List.mem_append.1 member with earlier | last
    · exact ih.2 claim earlier
    · cases List.mem_singleton.1 last
      exact ⟨_, ih.1, held⟩

/-- Leases are exclusive: one is accepted at a time, what it follows is dead for good, an
    expired one can at most repeat an ack, and epochs go up. -/
theorem leases_exclusive (reachable : Reachable rules target world) :
    (∀ first second now now', Accepts rules target world.inbox first now →
      Accepts rules target world.inbox second now' →
      first.claim.envelope.id = second.claim.envelope.id → first.lease = second.lease) ∧
    (∀ world', Run rules target anyCall world world' →
      ∀ id lease lease', Recorded world.inbox id lease → Recorded world'.inbox id lease' →
        lease'.lineage = lease.lineage ∨ lease.token.epoch < lease'.token.epoch) ∧
    (∀ claim lease, Recorded world.inbox claim.claim.envelope.id lease →
      claim.lease.epoch < lease.token.epoch →
      ∀ world', Run rules target anyCall world world' →
        ¬ AdmittedUnder world'.inbox claim ∧ TurnedAway rules target world'.inbox claim 0) ∧
    (∀ request left given disk, world.clock ≤ request.request.now →
      claimOwned rules target request { inbox := world.inbox, left } = (.ok given, disk) →
      ∀ claim ∈ given, ∀ lease, Recorded world.inbox claim.claim.envelope.id lease →
        lease.lineage = (claim.lease.consumer, claim.lease.epoch, claim.lease.incarnation) ∨
          lease.token.epoch < claim.lease.epoch) ∧
    (∀ claim, TurnedAway rules target world.inbox claim claim.lease.expiresAt) := by
  have sound := reachable_sound reachable
  obtain ⟨marks, tidy⟩ := sound
  refine ⟨?_, ?_, ?_, ?_, ?_⟩
  · intro first second now now' one other same
    exact accepts_one tidy one other same
  · intro world' run id lease lease' before after
    obtain ⟨marks', tidy'⟩ := run_sound run ⟨marks, tidy⟩
    obtain ⟨last, recorded, since⟩ := reached_run run ⟨marks, tidy⟩ ⟨lease, before, .inr rfl⟩
    have same := recorded_one tidy' after recorded
    rcases since with more | lineage
    · rw [epoch_of_lineage same]
      exact .inr more
    · exact .inl (same.trans lineage)
  · intro claim lease recorded further world' run
    obtain ⟨marks', tidy'⟩ := run_sound run ⟨marks, tidy⟩
    have superseded := superseded_run run ⟨marks, tidy⟩ ⟨lease, recorded, further⟩
    refine ⟨?_, turned_away ?_⟩
    · rintro ⟨receipt, stored, admitted, _, leased, token⟩
      exact superseded_unrecorded tidy' superseded (.inr ⟨receipt, admitted, leased⟩) token
    · intro now _ accepts
      obtain ⟨stored, standing, token⟩ := accepts.recorded
      exact superseded_unrecorded tidy' superseded standing token
  · intro request left given disk later run claim member lease before
    have tidy' := tidy.later later
    obtain ⟨_, handed⟩ := keeps_ran (keeps_claimOwned tidy') run
    obtain ⟨between, course, stands⟩ := (handed_each (handed given rfl)).2 claim member
    obtain ⟨marks', tidy''⟩ := course.tidy tidy'
    obtain ⟨last, recorded, since⟩ := reached_course tidy' course ⟨lease, before, .inr rfl⟩
    obtain ⟨stored, standing, token⟩ := stands.holds
    have same := recorded_one tidy'' recorded standing
    rw [← token]
    rcases since with more | lineage
    · rw [← epoch_of_lineage same]
      exact .inr more
    · exact .inl (lineage.symm.trans same)
  · intro claim
    apply turned_away
    intro now expired accepts
    exact absurd accepts.unexpired (Nat.not_lt.mpr expired)

/- A message that is delivered, granted and claimed; its holder is stopped between the receipt of
   the ack and the removal of the file. -/

def plainRules : Rules :=
  { limits := .default, validEnvelope := fun _ => true, payloadBytes := fun _ => 0,
    transportBytes := fun _ => 0, digest := fun content => content.1.body,
    retryDigest := fun _ _ _ => 0 }

def hello : SessionMessageEnvelope :=
  { id := "m", source := .user, targetSessionId := "s", kind := .userInput, instruction := none,
    body := "hello", presentation := "", createdAt := 0, threadId := none, inReplyTo := none,
    attempt := none, correlationId := none }

def firstRequest : ClaimRequest :=
  { limit := 1, run := none, request := { consumer := "c", now := 0, duration := 10 },
    receipt := none, scopedOnly := false, incarnations := fun _ => 7 }

def firstClaim : SessionInboxOwnedClaim :=
  { claim := { envelope := hello, generation := 1, activationPolicy := .respectSpecificWait,
               claimId := { generation := 1, label := .owned 1 7 } }
    lease := { consumer := "c", epoch := 1, expiresAt := 10, incarnation := 7 } }

def granted : World :=
  (World.start.after plainRules "s" (.deliver hello none none) 9).after plainRules "s"
    (.markActivation 1 .respectSpecificWait) 9

def claimed : World := granted.after plainRules "s" (.claimOwned firstRequest) 9

def halfAcked : World := claimed.after plainRules "s" (.ackOwned firstClaim 0 0) 1

theorem granted_reachable : Reachable plainRules "s" granted := by
  have first : Reachable plainRules "s"
      (World.start.after plainRules "s" (.deliver hello none none) 9) := by
    refine Relation.ReflTransGen.refl.tail ⟨_, 9, ⟨by decide, by decide, ?_⟩, rfl, trivial⟩
    intro envelope gate intent same
    cases same
    rfl
  exact first.tail ⟨.markActivation 1 .respectSpecificWait, 9,
    ⟨by decide +kernel, by decide +kernel, fun _ _ _ same => nomatch same⟩, rfl, trivial⟩

theorem claimed_reachable : Reachable plainRules "s" claimed :=
  granted_reachable.tail ⟨.claimOwned firstRequest, 9,
    ⟨by decide +kernel, by decide +kernel, fun _ _ _ same => nomatch same⟩, rfl, trivial⟩

theorem halfAcked_reachable : Reachable plainRules "s" halfAcked :=
  claimed_reachable.tail ⟨.ackOwned firstClaim 0 0, 1,
    ⟨by decide +kernel, by decide +kernel, fun _ _ _ same => nomatch same⟩, rfl, trivial⟩

/-- While the lease runs its holder is accepted, and afterwards it is turned away. -/
theorem claimed_turned_away :
    (currentOwned plainRules claimed.inbox "s" firstClaim 9).toOption.isSome = true ∧
      TurnedAway plainRules "s" claimed.inbox firstClaim 10 :=
  ⟨by decide +kernel, (leases_exclusive claimed_reachable).2.2.2.2 firstClaim⟩

/-- An expired lease still acks where its receipt is already there. -/
theorem expired_lease_acks : ¬ ∀ (rules : Rules) (target : String) (world : World)
    (claim : SessionInboxOwnedClaim) (now admittedAt : Time) (left : Nat),
    Reachable rules target world → world.clock ≤ now → claim.lease.expiresAt ≤ now →
    (ackOwned rules target claim now admittedAt { inbox := world.inbox, left }).1 ≠ .ok () := by
  intro always
  apply always plainRules "s" halfAcked firstClaim 20 20 9 halfAcked_reachable
    (by decide +kernel) (by decide)
  exact of_toOption (by decide +kernel)

end Inboxes
