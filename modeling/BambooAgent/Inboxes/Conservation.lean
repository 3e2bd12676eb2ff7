import BambooAgent.Inboxes.Grants

/- Where a message is after its delivery, and what another delivery of it comes to. -/
namespace Inboxes
open SortedMaps Crashes Checks

variable {rules : Rules} {target : String} {clock : Time} {allowed : Deed → Prop}
  {inbox inbox' : Inbox} {marks : Marks} {deed : Deed} {world world' : World}

/- Places. -/

inductive Place where
  | pending
  | dead
  | cancelled
  | corrupt
  | admitted

def Queue.place : Queue → Place
  | .new | .cur => .pending
  | .dead => .dead
  | .cancelled => .cancelled
  | .corrupt => .corrupt

/-- Where the message with this id is. A receipt counts before the file that an interrupted ack
    has left under it. -/
inductive Lies (inbox : Inbox) (id : String) : Place → Prop
  | admitted {receipt} (received : inbox.admitted.lookup id = some receipt) :
      Lies inbox id .admitted
  | file {queue name transport place} (unadmitted : inbox.admitted.lookup id = none)
      (held : inbox.transport queue name = some transport) (same : transport.envelope.id = id)
      (here : queue.place = place) : Lies inbox id place

theorem lies_admitted {id : String} :
    Lies inbox id .admitted ↔ ∃ receipt, inbox.admitted.lookup id = some receipt := by
  constructor
  · intro admitted
    cases admitted with
    | admitted received => exact ⟨_, received⟩
    | @file queue _ _ _ _ _ _ here => cases queue <;> cases here
  · rintro ⟨receipt, received⟩
    exact .admitted received

theorem lies_one (tidy : Tidy rules target clock inbox marks) {id : String}
    (one : Lies inbox id place) (other : Lies inbox id place') : place = place' := by
  cases one with
  | admitted received =>
    cases other with
    | admitted _ => rfl
    | file unadmitted _ _ _ => cases received.symm.trans unadmitted
  | file unadmitted held same here =>
    cases other with
    | admitted received => cases unadmitted.symm.trans received
    | file _ held' same' here' =>
      rw [← here, ← here', (tidy.oneId held held' (same.trans same'.symm)).1]

theorem Known.lies (known : Known inbox receipt) : ∃ place, Lies inbox receipt.id place := by
  cases found : inbox.admitted.lookup receipt.id with
  | some admitted => exact ⟨_, .admitted found⟩
  | none =>
    rcases known with ⟨queue, name, transport, held, _, id⟩ | ⟨admitted, received, _⟩
    · exact ⟨_, .file found held id rfl⟩
    · cases found.symm.trans received

theorem dead_failures (tidy : Tidy rules target clock inbox marks)
    (held : inbox.transport .dead name = some transport) :
    failuresOf transport.lease = maxExplicitFailures := by
  have sound := tidy.file held
  obtain ⟨lease, leased, dead⟩ := sound.placed
  rw [leased]
  exact (sound.dead lease leased dead).1

/- Another delivery. -/

theorem Kept.admitted (kept : Kept rules inbox envelope intent receipt)
    (tidy : Tidy rules target clock inbox marks) {admitted : AdmittedReceipt}
    (received : inbox.admitted.lookup receipt.id = some admitted) :
    admitted.generation = receipt.generation ∧
      admitted.semanticDigest = deliveryDigest rules envelope intent ∧ admitted.intent = intent := by
  rcases kept with ⟨queue, name, transport, held, generation, id, digest, own⟩ |
    ⟨stored, found, generation, digest, own⟩
  · rw [← id] at received
    have leftover := tidy.leftover held received
    refine ⟨?_, ?_, ?_⟩
    · rw [← generation]
      exact ((tidy.generations held received).1 rfl).symm
    · rw [leftover.digest, digest]
    · rw [leftover.intent, own]
  · cases found.symm.trans received
    exact ⟨generation, digest, own⟩

theorem receiptOfFiles_kept (tidy : Tidy rules target clock inbox marks)
    (held : inbox.transport queue name = some transport)
    (same : transport.envelope.id = requested.id) :
    receiptOfFiles rules inbox requested intent (inbox.entries [.new, .cur, .cancelled, .dead]) =
      receiptOfFile rules inbox requested intent queue name := by
  have listed : (queue, name) ∈ inbox.entries [.new, .cur, .cancelled, .dead] := by
    refine mem_entries.2 ⟨?_, transport, held⟩
    have placed := (tidy.file held).placed
    cases queue with
    | corrupt => exact placed.elim
    | _ => simp
  apply receiptOfFiles_eq listed
  · intro other member differs
    obtain ⟨_, transport', held'⟩ := mem_entries.1 member
    rw [receiptOfFile_eq tidy held', if_pos]
    intro again
    obtain ⟨rfl, rfl⟩ := tidy.oneId held' held (again.trans same.symm)
    exact differs rfl
  · rw [receiptOfFile_eq tidy held, if_neg (not_not.2 same)]
    split
    · exact fun impossible => nomatch impossible
    · intro impossible
      cases impossible

theorem admittedReceipt_eq (tidy : Tidy rules target clock inbox marks)
    (received : inbox.admitted.lookup requested.id = some admitted) :
    admittedReceipt rules inbox requested =
      if admitted.semanticDigest ≠ deliveryDigest rules requested admitted.intent then
        .error (invalid ("message id " ++ requested.id ++
          " was reused with different delivery semantics"))
      else .ok (some admitted) := by
  have sound := tidy.receipt received
  have field := intentField_eq_ok.2 ⟨sound.intent, rfl⟩
  have valid : ¬ admitted.lease.any (fun lease => !lease.valid) = true := by
    cases leased : admitted.lease with
    | none => exact Bool.false_ne_true
    | some lease =>
      rw [Option.any_some, sound.leased lease leased]
      exact Bool.false_ne_true
  unfold admittedReceipt
  rw [received]
  dsimp only
  rw [refuse_neg (not_not.2 sound.id), ok_bind, field, ok_bind]
  by_cases same : admitted.semanticDigest ≠ deliveryDigest rules requested admitted.intent
  · rw [if_pos same, refuse_pos same, error_bind]
  · rw [if_neg same, refuse_neg same, refuse_neg valid]
    rfl

theorem deliveryDigest_congr (same : requested.idempotencySemantics = envelope.idempotencySemantics)
    (intent : Option SessionInboxActivationIntent) :
    deliveryDigest rules requested intent = deliveryDigest rules envelope intent := by
  unfold deliveryDigest
  rw [same]

theorem lookupReceipt_again (tidy : Tidy rules target clock inbox marks)
    (kept : Kept rules inbox envelope intent receipt) (id : requested.id = receipt.id)
    (same : requested.idempotencySemantics = envelope.idempotencySemantics) :
    ∃ pending, lookupReceipt rules inbox requested intent =
      .ok (some { delivery := receipt, pending }) := by
  unfold lookupReceipt
  cases received : inbox.admitted.lookup requested.id with
  | some admitted =>
    obtain ⟨generation, digest, own⟩ := kept.admitted tidy (by rw [← id]; exact received)
    have unchanged : ¬ admitted.semanticDigest ≠ deliveryDigest rules requested admitted.intent := by
      rw [own, digest, deliveryDigest_congr same]
      exact not_not.2 rfl
    refine ⟨false, ?_⟩
    rw [admittedReceipt_eq tidy received, if_neg unchanged, ok_bind]
    dsimp only
    rw [refuse_neg (not_not.2 own), generation, id]
    rfl
  | none =>
    rcases kept with ⟨queue, name, transport, held, generation, sameId, digest, own⟩ |
      ⟨stored, found, _⟩
    · refine ⟨decide (queue = .new) || decide (queue = .cur), ?_⟩
      have unadmitted : admittedReceipt rules inbox requested = .ok none := by
        unfold admittedReceipt
        rw [received]
      have unchanged : ¬ (deliveryDigest rules transport.envelope transport.intent ≠
          deliveryDigest rules requested transport.intent ∨ transport.intent ≠ intent) := by
        rw [digest, own, deliveryDigest_congr same]
        exact not_or.2 ⟨not_not.2 rfl, not_not.2 rfl⟩
      rw [unadmitted, ok_bind]
      rw [receiptOfFiles_kept tidy held (sameId.trans id.symm), receiptOfFile_eq tidy held,
        if_neg (not_not.2 (sameId.trans id.symm)), if_neg unchanged, generation, id]
    · rw [id] at received
      cases found.symm.trans received

theorem lookupReceipt_other (tidy : Tidy rules target clock inbox marks)
    (kept : Kept rules inbox envelope intent receipt) (id : requested.id = receipt.id)
    (differs : requested.idempotencySemantics ≠ envelope.idempotencySemantics ∨ intent' ≠ intent)
    (apart : deliveryDigest rules requested intent = deliveryDigest rules envelope intent →
      requested.idempotencySemantics = envelope.idempotencySemantics) :
    ∀ found, lookupReceipt rules inbox requested intent' ≠ .ok found := by
  intro found run
  have content : deliveryDigest rules requested intent = deliveryDigest rules envelope intent →
      intent' ≠ intent :=
    fun digest => differs.resolve_left (not_not.2 (apart digest))
  unfold lookupReceipt at run
  cases received : inbox.admitted.lookup requested.id with
  | some admitted =>
    obtain ⟨_, digest, own⟩ := kept.admitted tidy (by rw [← id]; exact received)
    rw [admittedReceipt_eq tidy received, own, digest] at run
    split at run
    · cases run
    · rename_i same
      rw [ok_bind] at run
      obtain ⟨_, passed, _⟩ := bind_eq_ok.1 run
      rw [own] at passed
      exact content (not_not.1 same).symm (not_not.1 (refuse_eq_ok.1 passed)).symm
  | none =>
    rcases kept with ⟨queue, name, transport, held, generation, sameId, digest, own⟩ |
      ⟨stored, found', _⟩
    · have unadmitted : admittedReceipt rules inbox requested = .ok none := by
        unfold admittedReceipt
        rw [received]
      rw [unadmitted, ok_bind] at run
      dsimp only at run
      rw [receiptOfFiles_kept tidy held (sameId.trans id.symm), receiptOfFile_eq tidy held,
        if_neg (not_not.2 (sameId.trans id.symm)), digest, own] at run
      split at run
      · cases run
      · rename_i same
        push Not at same
        exact content same.1.symm same.2.symm
    · rw [id] at received
      cases found'.symm.trans received

/- Another delivery as a call. -/

theorem checked_run {f : α → Act β} (passed : result = .ok a) (disk : Disk) :
    (check result >>= f) disk = f a disk := by
  rw [passed]
  rfl

theorem looked_run (disk : Disk) : (look >>= f) disk = f disk.inbox disk := rfl

theorem deliver_again (tidy : Tidy rules target clock inbox marks)
    (kept : Kept rules inbox envelope intent receipt) (fenced : Fenced inbox intent)
    (id : requested.id = receipt.id)
    (same : requested.idempotencySemantics = envelope.idempotencySemantics)
    (allowed : deliverable rules requested intent = .ok ()) :
    ∃ pending, ∀ left, deliver rules requested gate intent { inbox, left } =
      (.ok { delivery := receipt, pending }, { inbox, left }) := by
  obtain ⟨pending, found⟩ := lookupReceipt_again tidy kept id same
  refine ⟨pending, fun left => ?_⟩
  unfold deliver
  rw [checked_run allowed, looked_run, checked_run found]
  dsimp only
  by_cases permitted : intent.isSome = true
  · obtain ⟨marks', read, versioned⟩ := fenced permitted
    obtain ⟨readGranted, _, _⟩ := marks_eq_ok.1 read
    rw [if_pos permitted, checked_run readGranted]
    rw [versioned]
    rfl
  · rw [if_neg permitted]
    rfl

theorem deliver_other (tidy : Tidy rules target clock inbox marks)
    (kept : Kept rules inbox envelope intent receipt) (id : requested.id = receipt.id)
    (differs : requested.idempotencySemantics ≠ envelope.idempotencySemantics ∨ intent' ≠ intent)
    (apart : deliveryDigest rules requested intent = deliveryDigest rules envelope intent →
      requested.idempotencySemantics = envelope.idempotencySemantics) :
    Refuses inbox (deliver rules requested gate intent') := by
  apply refuses_checked
  intro _ _
  apply refuses_look
  apply refuses_checked
  intro found run
  exact absurd run (lookupReceipt_other tidy kept id differs apart found)

/- Dead letters and failures. -/

def Dead (inbox : Inbox) (id : String) : Prop :=
  ∃ name transport, inbox.transport .dead name = some transport ∧ transport.envelope.id = id

theorem dead_does (tidy : Tidy rules target clock inbox marks)
    (does : Does rules target clock deed inbox inbox') (known : Known inbox receipt)
    (other : deed ≠ .revive receipt.generation) (dead : Dead inbox receipt.id) :
    Dead inbox' receipt.id := by
  obtain ⟨name, transport, held, id⟩ := dead
  have mine := (known.owns tidy held).2 id
  rcases does_forward tidy does held with
    ⟨queue', name', transport', held', same, evolves⟩ | ⟨admitted, found, _⟩
  · rcases evolves.dead rfl with rfl | revived
    · exact ⟨name', transport', held', by rw [evolves.envelope]; exact id⟩
    · rw [mine] at revived
      exact absurd revived other
  · cases (tidy.leftover held found).queue

theorem call_revives {call : Call} (tidy : Tidy rules target clock inbox marks)
    (known : Known inbox receipt)
    (other : ∀ now authorized, call ≠ .retryDeadLetter receipt.id receipt.generation now authorized)
    (may : call.deeds inbox deed) : deed ≠ .revive receipt.generation := by
  rintro rfl
  cases call with
  | retryDeadLetter id generation now authorized =>
    obtain ⟨rfl, queue, name, transport, held, same, named⟩ := may
    have owned := (known.owns tidy held).1 same
    rw [named] at owned
    dsimp only at owned
    exact other now authorized (by rw [owned])
  | _ => cases may

theorem dead_stays (fits : call.Fits target world.clock) (sound : world.Sound rules target)
    (known : Known world.inbox receipt)
    (other : ∀ now authorized, call ≠ .retryDeadLetter receipt.id receipt.generation now authorized)
    (dead : Dead world.inbox receipt.id) :
    Dead (world.after rules target call left).inbox receipt.id := by
  obtain ⟨marks, tidy⟩ := sound
  have both := course_induct (F := fun inbox => Known inbox receipt ∧ Dead inbox receipt.id)
    (fun deed _ _ _ may tidy does held => ⟨known_does tidy does held.1,
      dead_does tidy does held.1 (call_revives ‹Tidy _ _ _ world.inbox _› known other may) held.2⟩)
    (tidy.later (le_trans fits.begins fits.ends)) (call_course left fits tidy)
    ⟨known, dead⟩
  exact both.2

/-- The failures that stand against a message. -/
def Failures (inbox : Inbox) (id : String) (failures : Nat) : Prop :=
  ∃ queue name transport, inbox.transport queue name = some transport ∧
    transport.envelope.id = id ∧ failuresOf transport.lease = failures

theorem failures_counted (fits : call.Fits target world.clock) (sound : world.Sound rules target)
    (known : Known world.inbox receipt) (start : Failures world.inbox receipt.id before)
    (last : Failures (world.after rules target call left).inbox receipt.id after) :
    after ≤ before ∨ after = before + 1 ∧ ∃ claim report,
      call = .fail claim report ∧ claim.claim.generation = receipt.generation := by
  obtain ⟨marks, tidy⟩ := sound
  obtain ⟨queue, name, transport, held, id, rfl⟩ := start
  have mine := (known.owns tidy held).2 id
  let counts (failures : Nat) : Prop := failures ≤ failuresOf transport.lease ∨
    failures = failuresOf transport.lease + 1 ∧ ∃ claim report,
      call = .fail claim report ∧ claim.claim.generation = receipt.generation
  -- A report of a failure is of the count that the call has found.
  have reported : ∀ failures, call.deeds world.inbox (.fail receipt.generation failures) →
      counts failures := by
    intro failures may
    cases call with
    | fail claim report =>
      obtain ⟨generation, transport', held', same, count⟩ := may
      obtain ⟨rfl, rfl⟩ := tidy.oneGeneration held held' (mine.trans same.symm)
      cases held.symm.trans held'
      exact .inr ⟨count, claim, report, rfl, generation.symm⟩
    | _ => cases may
  have every := course_induct
    (F := fun inbox => Known inbox receipt ∧
      ∀ failures, Failures inbox receipt.id failures → counts failures)
    (by
      intro deed inbox inbox' marks' may tidy' does ⟨known', counted⟩
      refine ⟨known_does tidy' does known', ?_⟩
      rintro failures ⟨queue', name', transport', held', id', rfl⟩
      rcases does_backward does held' with
        ⟨queue₀, name₀, transport₀, held₀, same, evolves⟩ | ⟨_, _, unleased, _⟩
      · have id₀ : transport₀.envelope.id = receipt.id := by
          rw [← evolves.envelope]
          exact id'
        rcases evolves.failures with fewer | ⟨failed, _⟩
        · rcases counted _ ⟨queue₀, name₀, transport₀, held₀, id₀, rfl⟩ with few | ⟨one, call⟩
          · exact .inl (le_trans fewer few)
          · rw [one] at fewer
            rcases Nat.lt_or_eq_of_le fewer with less | exactly
            · exact .inl (Nat.le_of_lt_succ less)
            · exact .inr ⟨exactly, call⟩
        · rw [failed, (known'.owns tidy' held₀).2 id₀] at may
          exact reported _ may
      · rw [unleased]
        exact .inl (Nat.zero_le _))
    (tidy.later (le_trans fits.begins fits.ends)) (call_course left fits tidy)
    ⟨known, by
      rintro failures ⟨queue', name', transport', held', id', rfl⟩
      obtain ⟨rfl, rfl⟩ := tidy.oneId held held' (id.trans id'.symm)
      cases held.symm.trans held'
      exact .inl le_rfl⟩
  exact every.2 after last

/- Over runs. -/

theorem fenced_does (tidy : Tidy rules target clock inbox marks)
    (does : Does rules target clock deed inbox inbox') (fenced : Fenced inbox intent) :
    Fenced inbox' intent := by
  intro permitted
  obtain ⟨marks₀, read, versioned⟩ := fenced permitted
  rw [tidy.same_marks read] at versioned
  rcases does_marks tidy does with same | ⟨marks', reads, moved⟩
  · exact ⟨marks, by rw [same]; exact tidy.read, versioned⟩
  · refine ⟨marks', reads, ?_⟩
    cases moved with
    | upgrade _ _ _ further => exact further versioned
    | grant => exact versioned
    | interrupt => exact versioned

theorem fenced_run (run : Run rules target permitted world world')
    (sound : world.Sound rules target) (fenced : Fenced world.inbox intent) :
    Fenced world'.inbox intent :=
  run_induct (F := fun inbox => Fenced inbox intent)
    (fun _ _ _ _ _ _ tidy course held => course_induct (F := fun inbox => Fenced inbox intent)
      (fun _ _ _ _ _ tidy does held => fenced_does tidy does held) tidy course held)
    run sound fenced

theorem admitted_course {id : String} (tidy : Tidy rules target clock inbox marks)
    (course : Course rules target clock allowed inbox inbox')
    (admitted : Lies inbox id .admitted) : Lies inbox' id .admitted := by
  apply course_induct (F := fun inbox => Lies inbox id .admitted) _ tidy course admitted
  intro deed inbox inbox' marks' _ tidy' does here
  obtain ⟨receipt, found⟩ := lies_admitted.1 here
  obtain ⟨receipt', found', _⟩ := does_admitted tidy' does found
  exact .admitted found'

theorem admitted_run {id : String} (run : Run rules target permitted world world')
    (sound : world.Sound rules target) (admitted : Lies world.inbox id .admitted) :
    Lies world'.inbox id .admitted :=
  run_induct (F := fun inbox => Lies inbox id .admitted)
    (fun _ _ _ _ _ _ tidy course here => admitted_course tidy course here) run sound admitted

theorem admitted_kept_back {id : String} (sound : world.Sound rules target)
    (admitted : Lies world.inbox id .admitted) :
    (∀ request left given disk, world.clock ≤ request.request.now →
      claimOwned rules target request { inbox := world.inbox, left } = (.ok given, disk) →
      ∀ claim ∈ given, claim.claim.envelope.id ≠ id) ∧
    (∀ limit run scopedOnly left given disk,
      claimForTurn rules target limit run scopedOnly { inbox := world.inbox, left } =
        (.ok given, disk) →
      ∀ claim ∈ given, claim.envelope.id = id → ∃ name transport,
        world.inbox.transport .cur name = some transport ∧ transport.envelope.id = id) := by
  obtain ⟨marks, tidy⟩ := sound
  constructor
  · intro request left given disk later run claim member same
    obtain ⟨_, handed⟩ := keeps_ran (keeps_claimOwned tidy) run
    obtain ⟨between, course, stands⟩ := (handed_each (handed given rfl)).2 claim member
    obtain ⟨receipt, received⟩ := lies_admitted.1 (admitted_course tidy course admitted)
    have unadmitted := stands.unadmitted
    rw [same, received] at unadmitted
    cases unadmitted
  · intro limit run scopedOnly left given disk ran claim member same
    obtain ⟨_, turned⟩ := keeps_ran (keeps_claimForTurn tidy) ran
    obtain ⟨_, between, course, _, transport, held, envelope, named⟩ :=
      turned given rfl claim member
    have before : Names world.inbox { id, generation := claim.generation } :=
      names_back (fun may => may) course ⟨_, _, _, held, named, by rw [envelope]; exact same⟩
    obtain ⟨queue, name, transport', held', _, rfl⟩ := before
    obtain ⟨receipt, received⟩ := lies_admitted.1 admitted
    have here := (tidy.leftover held' received).queue
    rw [here] at held'
    exact ⟨name, transport', held', rfl⟩

def turnClaim : SessionInboxClaim :=
  { envelope := hello, generation := 1, activationPolicy := .respectSpecificWait,
    claimId := { generation := 1, label := .delivered "m" } }

def turned : World := granted.after plainRules "s" (.claimForTurn 1 none false) 9

def halfAckedTurn : World := turned.after plainRules "s" (.ack turnClaim 0) 1

theorem halfAckedTurn_reachable : Reachable plainRules "s" halfAckedTurn := by
  have first : Reachable plainRules "s" turned :=
    granted_reachable.tail ⟨.claimForTurn 1 none false, 9,
      ⟨le_rfl, le_rfl, fun _ _ _ same => nomatch same⟩, rfl, trivial⟩
  exact first.tail ⟨.ack turnClaim 0, 1,
    ⟨le_rfl, le_rfl, fun _ _ _ same => nomatch same⟩, rfl, trivial⟩

end Inboxes
