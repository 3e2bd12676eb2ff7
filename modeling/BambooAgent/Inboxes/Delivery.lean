import BambooAgent.Inboxes.Directory

/- How a message comes in and is admitted or withdrawn, the consumer that needs no lease, and
   the marks by which a coordinator grants what was delivered. -/
namespace Inboxes
open SortedMaps Crashes Checks

def Inbox.entries (inbox : Inbox) (queues : List Queue) : List (Queue × Name) :=
  queues.flatMap (fun queue => (inbox.names queue).map (fun name => (queue, name)))

def sortEntries (entries : List (Queue × Name)) : List (Queue × Name) :=
  entries.mergeSort (fun left right => decide (left.2 ≤ right.2))

def leaseKnown (inbox : Inbox) (lease : Option StoredLease) : Except SessionInboxError Unit :=
  if lease.isSome then do
    let enabled ← inbox.ownedEnabled
    refuse (enabled = false) (invalid "owned lease requires v3 watermarks")
  else .ok ()

/- Delivery. -/

structure SessionInboxDeliveryReceipt where
  delivery : SessionInboxReceipt
  pending : Bool

def receiptOfFile (rules : Rules) (inbox : Inbox) (requested : SessionMessageEnvelope)
    (requestedIntent : Option SessionInboxActivationIntent) (queue : Queue) (name : Name) :
    Except SessionInboxError (Option SessionInboxDeliveryReceipt) :=
  match inbox.transport queue name with
  | none => .ok none
  | some transport =>
    if transport.lease.any (fun lease => !lease.valid) then .ok none
    else do
      leaseKnown inbox transport.lease
      let intent ← activationIntentField transport.intent
      if transport.envelope.id ≠ requested.id then return none
      else
        refuse (deliveryDigest rules transport.envelope intent ≠
            deliveryDigest rules requested intent ∨ intent ≠ requestedIntent)
          (invalid ("message id " ++ requested.id ++
            " was reused with different delivery semantics"))
        return some
          { delivery := { id := requested.id, generation := name.generation },
            pending := decide (queue = .new) || decide (queue = .cur) }

def receiptOfFiles (rules : Rules) (inbox : Inbox) (requested : SessionMessageEnvelope)
    (requestedIntent : Option SessionInboxActivationIntent) :
    List (Queue × Name) → Except SessionInboxError (Option SessionInboxDeliveryReceipt)
  | [] => .ok none
  | (queue, name) :: rest => do
    match ← receiptOfFile rules inbox requested requestedIntent queue name with
    | some receipt => return some receipt
    | none => receiptOfFiles rules inbox requested requestedIntent rest

def lookupReceipt (rules : Rules) (inbox : Inbox) (requested : SessionMessageEnvelope)
    (requestedIntent : Option SessionInboxActivationIntent) :
    Except SessionInboxError (Option SessionInboxDeliveryReceipt) := do
  match ← admittedReceipt rules inbox requested with
  | some receipt =>
    refuse (receipt.intent ≠ requestedIntent)
      (invalid "message id was reused with different activation intent")
    return some
      { delivery := { id := requested.id, generation := receipt.generation }, pending := false }
  | none =>
    receiptOfFiles rules inbox requested requestedIntent
      (inbox.entries [.new, .cur, .cancelled, .dead])

inductive GateState where
  | waiting
  | cancelled
  | committed

/-- The producer's gate, as it stands when it is looked at and when the file is renamed. -/
structure AdmissionGate where
  atCheck : GateState
  atCommit : GateState

def GateState.passed (state : GateState) : Except SessionInboxError Unit :=
  match state with
  | .waiting => .ok ()
  | .cancelled => .error .admissionCancelled
  | .committed =>
    .error (.storage "committed inbox admission has no matching durable receipt")

def isRootOutcomeNotice (envelope : SessionMessageEnvelope) : Bool :=
  decide (envelope.source = .runtime "supervised_root_outcome") ||
    envelope.instruction.any (fun instruction =>
      decide (instruction = "supervised_root_outcome_v1") ||
        decide (instruction = "managed_root_blocker_v1"))

def isObserverNotice (envelope : SessionMessageEnvelope) : Bool :=
  decide (envelope.source = .runtime "supervisor_observation") ||
    envelope.instruction.any (fun instruction =>
      decide (instruction = "observer_view_available_v1") ||
        decide (instruction = "observer_subscription_fault_v1"))

/-- What an ordinary producer may send, before the directory is looked at. -/
def deliverable (rules : Rules) (envelope : SessionMessageEnvelope)
    (intent : Option SessionInboxActivationIntent) : Except SessionInboxError Unit := do
  let intent ← activationIntentField intent
  refuse (intent.any (fun intent => intent.supervisedRootOrigin.isSome))
    (invalid "Supervisor input origin requires its guarded writer")
  refuse (isRootOutcomeNotice envelope)
    (invalid "Root outcome notice requires its guarded source and receipt")
  refuse (isObserverNotice envelope)
    (invalid "Observer notice requires canonical integrated admission")
  refuse envelope.isScopedLoopControl
    (invalid "typed Loop control requires its dedicated admission port")
  refuse (intent.any (fun intent => intent.expectedRunId.isSome))
    (invalid "run intent and publication guard identity differ")
  refuse (rules.validEnvelope envelope = false) (.storage "invalid session message envelope")
  refuse (rules.limits.maxPayloadBytes < rules.payloadBytes envelope)
    (.payloadTooLarge (rules.payloadBytes envelope) rules.limits.maxPayloadBytes)

/-- An intent is published only under a versioned watermark. -/
def fenceIntent (rules : Rules) (transport : Transport) : Act Unit :=
  if transport.intent.isSome then do
    check (refuse (rules.limits.maxTransportBytes < rules.transportBytes transport)
      (.payloadTooLarge (rules.transportBytes transport) rules.limits.maxTransportBytes))
    let inbox ← look
    let (granted, versioned) ← check inbox.readActivationWatermark
    skipIf (versioned = true) (writeActivationWatermark granted true)
  else pure ()

def deliver (rules : Rules) (envelope : SessionMessageEnvelope) (gate : Option AdmissionGate)
    (intent : Option SessionInboxActivationIntent) : Act SessionInboxDeliveryReceipt := do
  check (deliverable rules envelope intent)
  let inbox ← look
  match ← check (lookupReceipt rules inbox envelope intent) with
  | some receipt => do
    if intent.isSome then
      let (_, versioned) ← check inbox.readActivationWatermark
      check (refuse (versioned = false) (invalid "activation intent requires its v2 watermark"))
      pure receipt
    else pure receipt
  | none => do
    check (match gate with | none => .ok () | some gate => gate.atCheck.passed)
    let current := (inbox.names .new).length + (inbox.names .cur).length
    check (refuse (rules.limits.maxBacklog ≤ current)
      (.backlogFull current rules.limits.maxBacklog))
    step (fun inbox => { inbox with generation := inbox.generation + 1 })
    let transport : Transport := { envelope, intent, coordinatorIntent := none, lease := none }
    fenceIntent rules transport
    check (match gate with | none => .ok () | some gate => gate.atCommit.passed)
    step (fun changed =>
      changed.put .new { generation := inbox.generation + 1, label := .delivered envelope.id }
        transport)
    return { delivery := { id := envelope.id, generation := inbox.generation + 1 },
             pending := true }

/- Admission. -/

/-- The receipt comes first: once it is there, removing the file is only left over. -/
def ackUnlocked (rules : Rules) (target : String) (claim : SessionInboxClaim)
    (expectedLease : Option StoredLease) (admittedAt : Time) : Act Unit := do
  let inbox ← look
  match inbox.transport .cur claim.claimId with
  | none => do
    match ← check (admittedReceipt rules inbox claim.envelope) with
    | some receipt =>
      check (refuse (receipt.generation ≠ claim.generation ∨
          StoredLease.sameOptionalIdentity receipt.lease expectedLease = false)
        (invalid "canonical claim no longer exists"))
    | none => check (.error (invalid "canonical claim no longer exists"))
  | some transport => do
    check (refuse (transport.lease.any (fun lease => !lease.valid))
      (invalid "invalid Inbox lease"))
    check (refuse (StoredLease.sameOptionalIdentity transport.lease expectedLease = false)
      (invalid "Inbox lease identity mismatch"))
    let intent ← check (activationIntentField transport.intent)
    let coordinatorIntent ← check (activationIntentField transport.coordinatorIntent)
    check (refuse (claim.claimId.generation = 0)
      (invalid "claim filename has no ordered generation"))
    check (refuse (claim.claimId.generation ≠ claim.generation ∨
        transport.envelope.targetSessionId ≠ target ∨ transport.envelope ≠ claim.envelope)
      (invalid "canonical claim mismatch"))
    let existing ← check (admittedReceipt rules inbox claim.envelope)
    check (refuse (existing.any (fun existing =>
        decide (existing.generation ≠ claim.generation) || decide (existing.intent ≠ intent) ||
          !StoredLease.sameOptionalIdentity existing.lease expectedLease))
      (invalid "admitted receipt generation mismatch"))
    step (fun inbox => inbox.record
      { id := claim.envelope.id, generation := claim.generation,
        semanticDigest := deliveryDigest rules claim.envelope intent, admittedAt, intent,
        coordinatorIntent, lease := expectedLease })
    step (fun inbox => inbox.remove .cur claim.claimId)

/-- `ack`, for a claim without a lease. -/
def ack (rules : Rules) (target : String) (claim : SessionInboxClaim) (admittedAt : Time) :
    Act Unit := do
  check (refuse claim.envelope.isScopedLoopControl
    (invalid "Loop controls require checkpoint-before-ACK"))
  check (refuse (claim.envelope.targetSessionId ≠ target) (invalid "claim target mismatch"))
  let inbox ← look
  let enabled ← check inbox.ownedEnabled
  check (refuse (enabled = true) (invalid "owned Inbox ACK API required"))
  ackUnlocked rules target claim none admittedAt

/- The consumer without leases. -/

/-- `queue_intent`: the permission of a file, and whether it is already acknowledged where the
    target is given. -/
def queueIntent (rules : Rules) (inbox : Inbox) (versioned : Bool) (terminal : Option String)
    (queue : Queue) (name : Name) :
    Except SessionInboxError (Option SessionInboxActivationIntent × Bool) :=
  match inbox.transport queue name with
  | none => .error (.storage "read inbox activation intent")
  | some transport => do
    refuse (rules.limits.maxTransportBytes < rules.transportBytes transport)
      (invalid "inbox activation scan exceeds byte limit")
    if transport.lease.any (fun lease => !lease.valid) then return (none, false)
    else
      leaseKnown inbox transport.lease
      let intent ← messageActivationIntent transport
      refuse (intent.isSome ∧ versioned = false)
        (invalid "activation intent requires its v2 watermark")
      match terminal with
      | none => return (intent, false)
      | some target =>
        match ← admittedReceipt rules inbox transport.envelope with
        | none => return (intent, false)
        | some receipt =>
          let own ← activationIntentField transport.intent
          refuse (transport.envelope.targetSessionId ≠ target ∨
              receipt.generation ≠ name.generation ∨ receipt.intent ≠ own ∨
              StoredLease.sameOptionalIdentity receipt.lease transport.lease = false)
            (invalid "Inbox terminal lease mismatch")
          return (intent, true)

structure TurnEntry where
  name : Name
  claimed : Bool
  policy : SessionActivationPolicy

/-- What the turn of a run may take, and under which policy. -/
def turnEntry (rules : Rules) (inbox : Inbox) (granted interrupt : Nat) (versioned : Bool)
    (run : Option String) (scopedOnly : Bool) (queue : Queue) (name : Name) :
    Except SessionInboxError (Option TurnEntry) := do
  let (intent, _) ← queueIntent rules inbox versioned none queue name
  if intent.any (fun intent => !intent.admitsRun run) || !eligible name.generation granted intent
      || (inbox.transport queue name).any (fun transport =>
        decide (transport.envelope.isScopedLoopControl ≠ scopedOnly) ||
          run.any (fun run => transport.envelope.waitsForSuccessorOfRun run)) then
    return none
  else
    let policy ← effectiveActivationPolicy name.generation granted interrupt intent
    return some { name, claimed := decide (queue = .cur), policy }

def turnEntries (rules : Rules) (inbox : Inbox) (granted interrupt : Nat) (versioned : Bool)
    (run : Option String) (scopedOnly : Bool) :
    List (Queue × Name) → Except SessionInboxError (List TurnEntry)
  | [] => .ok []
  | (queue, name) :: rest => do
    let entry ← turnEntry rules inbox granted interrupt versioned run scopedOnly queue name
    let others ← turnEntries rules inbox granted interrupt versioned run scopedOnly rest
    return entry.toList ++ others

/-- Moves one file to `cur` and reads it there; what cannot be read is set aside. -/
def claimTurnEntry (rules : Rules) (target : String) (entry : TurnEntry)
    (claims : List SessionInboxClaim) : Act (List SessionInboxClaim) := do
  let inbox ← look
  if entry.claimed = false ∧ inbox.transport .new entry.name = none then pure claims
  else
    skipIf (entry.claimed = true)
      (step (fun inbox => inbox.rename .new .cur entry.name entry.name))
    let inbox ← look
    match inbox.transport .cur entry.name with
    | none => check (.error (.storage "quarantine malformed claim"))
    | some transport =>
      if transport.lease.isSome ∨ rules.validEnvelope transport.envelope = false ∨
          transport.envelope.targetSessionId ≠ target then
        step (fun inbox => inbox.rename .cur .corrupt entry.name entry.name)
        pure claims
      else
        pure (claims ++ [{ envelope := transport.envelope, generation := entry.name.generation,
                           activationPolicy := entry.policy, claimId := entry.name }])

def claimTurnEntries (rules : Rules) (target : String) (limit : Nat) :
    List TurnEntry → List SessionInboxClaim → Act (List SessionInboxClaim)
  | [], claims => pure claims
  | entry :: rest, claims =>
    if limit ≤ claims.length then pure claims
    else do
      let claims ← claimTurnEntry rules target entry claims
      claimTurnEntries rules target limit rest claims

def claimForTurn (rules : Rules) (target : String) (limit : Nat) (run : Option String)
    (scopedOnly : Bool) : Act (List SessionInboxClaim) := do
  let inbox ← look
  let enabled ← check inbox.ownedEnabled
  check (refuse (enabled = true) (invalid "owned Inbox claim API required"))
  let (granted, versioned) ← check inbox.readActivationWatermark
  let limit := min limit rules.limits.maxClaimBatch
  if limit = 0 then pure []
  else
    let interrupt ← check inbox.readInterruptGeneration
    let entries ← check (turnEntries rules inbox granted interrupt versioned run scopedOnly
      (inbox.entries [.cur, .new]))
    claimTurnEntries rules target limit
      (entries.mergeSort (fun left right => decide (left.name ≤ right.name))) []

/- Withdrawal. -/

def cancelGuidanceIn (target : String) (id : String) : List Name → Act Bool
  | [] => pure false
  | name :: rest => do
    let inbox ← look
    match inbox.transport .new name with
    | none => check (.error (.storage "No such file or directory"))
    | some transport => do
      check (refuse (transport.lease.isSome = true) (.storage "unknown transport kind"))
      if transport.envelope.id = id ∧ transport.envelope.isGuidance ∧
          transport.envelope.targetSessionId = target then
        step (fun inbox => inbox.rename .new .cancelled name name)
        pure true
      else cancelGuidanceIn target id rest

/-- `cancel_guidance`: the file stays, as the tombstone of its id. -/
def cancelGuidance (target : String) (id : String) : Act Bool := do
  let inbox ← look
  cancelGuidanceIn target id (inbox.names .new)

/- Marks. -/

/-- The interrupt watermark is written before the prefix that it belongs to. -/
def markActivationEligible (generation : Nat) (policy : SessionActivationPolicy) : Act Unit := do
  let inbox ← look
  check (refuse (generation = 0 ∨ inbox.generation < generation)
    (invalid "activation generation is outside delivered range"))
  skipIf (policy ≠ .interruptSpecificWait) (do
    let current ← check inbox.readInterruptGeneration
    skipIf (generation ≤ current) (writeInterruptWatermark generation))
  let inbox ← look
  let (current, versioned) ← check inbox.readActivationWatermark
  skipIf (generation ≤ current) (writeActivationWatermark generation versioned)

def validateExplicitMessagePromotion (intent : Option SessionInboxActivationIntent)
    (policy : SessionActivationPolicy) : Except SessionInboxError Unit :=
  refuse (intent.any (fun intent => intent.delivery.isSome &&
      (intent.isQueueOnly || decide (policy = .interruptSpecificWait))))
    (invalid "explicit peer delivery intent cannot be promoted")

/-- Writes the coordinator's permission into one pending file, unless it has as much. -/
def promote (rules : Rules) (policy : SessionActivationPolicy) (queue : Queue) (name : Name)
    (transport : Transport) : Act Unit := do
  let inbox ← look
  let current ← check (messageActivationIntent transport)
  let (granted, versioned) ← check inbox.readActivationWatermark
  check (refuse (current.isSome ∧ versioned = false)
    (invalid "activation intent requires its v2 watermark"))
  if current.any (fun intent => intent.delivery.isSome) then
    check (validateExplicitMessagePromotion current policy)
  else if current.any (fun intent =>
      decide (intent.policy = policy) || decide (intent.policy = .interruptSpecificWait)) then
    pure ()
  else
    let promoted :=
      { transport with coordinatorIntent := some (SessionInboxActivationIntent.new policy) }
    skipIf (versioned = true) (writeActivationWatermark granted true)
    check (refuse (rules.limits.maxTransportBytes < rules.transportBytes promoted)
      (invalid (if transport.lease.isSome then "Inbox lease transport exceeds byte limit"
        else "Inbox activation transport exceeds byte limit")))
    step (fun inbox => inbox.put queue name promoted)

def markMessageIn (rules : Rules) (target : String) (receipt : SessionInboxReceipt)
    (policy : SessionActivationPolicy) : List (Queue × Name) → Act Unit
  | [] => check (.error (invalid "message activation receipt is not pending or admitted"))
  | (queue, name) :: rest =>
    if name.generation ≠ receipt.generation then markMessageIn rules target receipt policy rest
    else do
      let inbox ← look
      let transport ← check (readOwnedTransport rules inbox queue name)
      check (leaseKnown inbox transport.lease)
      check (refuse (rules.validEnvelope transport.envelope = false)
        (invalid "invalid Inbox activation envelope"))
      if transport.envelope.id ≠ receipt.id ∨ transport.envelope.targetSessionId ≠ target then
        markMessageIn rules target receipt policy rest
      else promote rules policy queue name transport

/-- A permanent receipt wins, even where an interrupted ack has left the file. -/
def markMessageActivationEligible (rules : Rules) (target : String)
    (receipt : SessionInboxReceipt) (policy : SessionActivationPolicy) : Act Unit := do
  check (refuse (receipt.generation = 0)
    (invalid "message activation requires a delivered generation"))
  let inbox ← look
  match inbox.admitted.lookup receipt.id with
  | some terminal => do
    check (refuse (terminal.id ≠ receipt.id ∨ terminal.generation ≠ receipt.generation)
      (invalid "message activation receipt identity mismatch"))
    let intent ← check (activationIntentField terminal.intent)
    check (validateExplicitMessagePromotion intent policy)
  | none => markMessageIn rules target receipt policy (inbox.entries [.new, .cur])

end Inboxes
