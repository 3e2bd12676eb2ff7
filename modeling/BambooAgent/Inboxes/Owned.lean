import BambooAgent.Inboxes.Delivery

/- Consumption under leases: claims, renewals and what ends a lease; dead letters and their
   retries. -/
namespace Inboxes
open SortedMaps Crashes Checks

def ownedName (generation : Nat) (token : SessionInboxLeaseToken) : Name :=
  { generation, label := .owned token.epoch token.incarnation }

/-- A counter of 64 bits that refuses to wrap. -/
def checkedNext (count : Nat) (message : String) : Except SessionInboxError Nat :=
  if count + 1 < 2 ^ 64 then .ok (count + 1) else .error (invalid message)

def ownedClaim (rules : Rules) (target : String) (transport : Transport) (generation : Nat)
    (claimId : Name) (lease : StoredLease) : Except SessionInboxError SessionInboxOwnedClaim := do
  refuse (rules.validEnvelope transport.envelope = false) (invalid "invalid Inbox envelope")
  refuse (transport.envelope.targetSessionId ≠ target) (invalid "Inbox target mismatch")
  return { claim := { envelope := transport.envelope, generation,
                      activationPolicy := lease.policy, claimId },
           lease := lease.token }

def writeOwnedTransport (rules : Rules) (queue : Queue) (name : Name) (transport : Transport) :
    Act Unit := do
  check (refuse (rules.limits.maxTransportBytes < rules.transportBytes transport)
    (invalid "Inbox lease transport exceeds byte limit"))
  step (fun inbox => inbox.put queue name transport)

/- The format. -/

def noLeases (rules : Rules) (inbox : Inbox) :
    List (Queue × Name) → Except SessionInboxError Unit
  | [] => .ok ()
  | (queue, name) :: rest => do
    let transport ← readOwnedTransport rules inbox queue name
    refuse (transport.lease.isSome = true) (invalid "owned lease requires v3 watermarks")
    noLeases rules inbox rest

/-- Both authorities are committed in the activation file first. -/
def ensureOwnedFormat (rules : Rules) : Act Unit := do
  let inbox ← look
  let enabled ← check inbox.ownedEnabled
  let interruptVersion ← check inbox.interruptVersion
  if enabled = true ∧ interruptVersion = 3 then pure ()
  else
    skipIf (enabled = true) (check (noLeases rules inbox (inbox.entries [.cur, .new])))
    let (granted, _) ← check inbox.readActivationWatermark
    let interrupt ← check inbox.readInterruptGeneration
    step (fun inbox => { inbox with activation := some (.versioned 3 granted (some interrupt)) })
    step (fun inbox => { inbox with interrupt := some (.versioned 3 interrupt none) })

/- Dead letters that a crash has left in `cur`. -/

def recoverRotation (rules : Rules) (target : String) (name : Name) : Act Unit := do
  let inbox ← look
  let transport ← check (readOwnedTransport rules inbox .cur name)
  match transport.lease with
  | none => pure ()
  | some stored =>
    if stored.deadLetteredAt = none ∨ stored.retryRequestedAt.isSome then pure ()
    else do
      let claim ← check (ownedClaim rules target transport name.generation name stored)
      let receipt ← check (admittedReceipt rules inbox claim.claim.envelope)
      check (refuse (receipt.isSome = true)
        (invalid "dead-letter marker conflicts with terminal receipt"))
      check (refuse ((inbox.transport .dead name).isSome = true)
        (invalid "Inbox dead-letter incarnation already exists"))
      step (fun inbox => inbox.rename .cur .dead name name)

def recoverRotations (rules : Rules) (target : String) : List Name → Act Unit
  | [] => pure ()
  | name :: rest => do
    recoverRotation rules target name
    recoverRotations rules target rest

def recoverDeadLetterRotations (rules : Rules) (target : String) : Act Unit := do
  let inbox ← look
  recoverRotations rules target (inbox.names .cur)

/- Claims. -/

/-- What a claim is made with. The incarnations are drawn one for each claim. -/
structure ClaimRequest where
  limit : Nat
  run : Option String
  request : SessionInboxLeaseRequest
  receipt : Option SessionInboxReceipt
  scopedOnly : Bool
  incarnations : Nat → Nat

def nextEpoch : Option StoredLease → Except SessionInboxError Nat
  | none => .ok 1
  | some lease => checkedNext lease.token.epoch "Inbox lease epoch exhausted"

/-- A lease that has just run out is reclaimed; one that failed or was retried is not. -/
def nextReclaimCount : Option StoredLease → Except SessionInboxError Nat
  | none => .ok 0
  | some lease =>
    if lease.retryRequestedAt = none ∧ lease.retryAfter = none then
      checkedNext lease.reclaims "Inbox reclaim counter exhausted"
    else .ok lease.reclaims

def nextManualRetryCount : Option StoredLease → Except SessionInboxError Nat
  | none => .ok 0
  | some lease =>
    if lease.retryRequestedAt.isSome then
      checkedNext lease.manualRetryCount "Inbox manual retry counter exhausted"
    else .ok lease.manualRetryCount

/-- The lease that follows the one before it on the same message. -/
def successorLease (request : SessionInboxLeaseRequest) (expiresAt : Time) (incarnation : Nat)
    (policy : SessionActivationPolicy) (previous : Option StoredLease) :
    Except SessionInboxError StoredLease := do
  let epoch ← nextEpoch previous
  let reclaimCount ← nextReclaimCount previous
  let manualRetryCount ← nextManualRetryCount previous
  -- A manual retry starts the count of failures anew.
  let unretried := previous.filter (fun lease => lease.retryRequestedAt.isNone)
  return { version := 1
           token := { consumer := request.consumer, epoch, expiresAt, incarnation }
           policy
           failureCount := (unretried.map (fun lease => lease.failureCount)).getD 0
           reclaimCount := some reclaimCount
           manualRetryCount
           lastErrorCode := unretried.bind (fun lease => lease.lastErrorCode)
           retryAfter := none
           deadLetteredAt := none
           retryRequestedAt := none }

/-- The lease under which an eligible file is handed out, or none where it is not. -/
def leaseFor (request : ClaimRequest) (expiresAt : Time) (drawn : Nat) (granted interrupt : Nat)
    (generation : Nat) (activation : Option SessionInboxActivationIntent)
    (stored : Option StoredLease) : Except SessionInboxError (Option StoredLease) :=
  match stored with
  | none => do
    let policy ← effectiveActivationPolicy generation granted interrupt activation
    let lease ← successorLease request.request expiresAt (request.incarnations drawn) policy none
    return some lease
  | some lease =>
    if lease.retryRequestedAt = none ∧ request.request.now < lease.token.expiresAt then
      if lease.token.consumer ≠ request.request.consumer then .ok none else .ok (some lease)
    else do
      let next ← successorLease request.request expiresAt (request.incarnations drawn)
        lease.policy (some lease)
      return some next

def markersPlaced (queue : Queue) (stored : Option StoredLease) : Except SessionInboxError Unit :=
  match stored with
  | none => .ok ()
  | some lease => do
    refuse (lease.deadLetteredAt.isSome = true ∧ lease.retryRequestedAt = none)
      (invalid "dead-letter marker outside claimed queue")
    refuse (lease.retryRequestedAt.isSome = true ∧ queue ≠ .new)
      (invalid "Inbox manual retry outside pending queue")

/-- The new lease is written where the file stands; the rename puts it under its own name. -/
def handOut (rules : Rules) (target : String) (queue : Queue) (name : Name)
    (transport : Transport) (lease : StoredLease) : Act SessionInboxOwnedClaim := do
  let canonical := ownedName name.generation lease.token
  writeOwnedTransport rules queue name { transport with lease := some lease }
  skipIf (queue = .cur ∧ name = canonical) (do
    let inbox ← look
    check (refuse ((inbox.transport .cur canonical).isSome = true)
      (invalid "Inbox lease incarnation already exists"))
    step (fun inbox => inbox.rename queue .cur name canonical))
  check (ownedClaim rules target transport name.generation canonical lease)

def admittedMatches (receipt : AdmittedReceipt) (generation : Nat)
    (intent : Option SessionInboxActivationIntent) (stored : Option StoredLease) :
    Except SessionInboxError Unit :=
  refuse (receipt.generation ≠ generation ∨ receipt.intent ≠ intent ∨
      StoredLease.sameOptionalIdentity receipt.lease stored = false)
    (invalid "Inbox terminal lease mismatch")

/-- One file of the scan. -/
def claimEntry (rules : Rules) (target : String) (request : ClaimRequest) (expiresAt : Time)
    (granted interrupt : Nat) (queue : Queue) (name : Name)
    (claims : List SessionInboxOwnedClaim) : Act (List SessionInboxOwnedClaim) := do
  if request.receipt.any (fun receipt => decide (receipt.generation ≠ name.generation)) then
    pure claims
  else
    let inbox ← look
    let transport ← check (readOwnedTransport rules inbox queue name)
    let intent ← check (activationIntentField transport.intent)
    let activation ← check (messageActivationIntent transport)
    if intent.any (fun intent => !intent.admitsRun request.run) then pure claims
    else if eligible name.generation granted activation = false then pure claims
    else
      check (refuse (rules.validEnvelope transport.envelope = false)
        (invalid "invalid Inbox envelope"))
      check (refuse (transport.envelope.targetSessionId ≠ target)
        (invalid "Inbox target mismatch"))
      if request.receipt.any (fun receipt => decide (receipt.id ≠ transport.envelope.id)) then
        pure claims
      else if transport.envelope.isScopedLoopControl ≠ request.scopedOnly then pure claims
      else
        match ← check (admittedReceipt rules inbox transport.envelope) with
        | some receipt => do
          -- The admission stands; what is left of the message is cleared away.
          check (admittedMatches receipt name.generation intent transport.lease)
          step (fun inbox => inbox.remove queue name)
          pure claims
        | none => do
          check (markersPlaced queue transport.lease)
          if transport.lease.any (fun lease =>
              lease.retryAfter.any (fun deadline => decide (request.request.now < deadline))) then
            pure claims
          else if request.run.any (fun run => transport.envelope.waitsForSuccessorOfRun run) then
            pure claims
          else
            match ← check (leaseFor request expiresAt claims.length granted interrupt
                name.generation activation transport.lease) with
            | none => pure claims
            | some lease => do
              let claim ← handOut rules target queue name transport lease
              pure (claims ++ [claim])

def claimEntries (rules : Rules) (target : String) (request : ClaimRequest) (expiresAt : Time)
    (granted interrupt : Nat) :
    List (Queue × Name) → List SessionInboxOwnedClaim → Act (List SessionInboxOwnedClaim)
  | [], claims => pure claims
  | (queue, name) :: rest, claims =>
    if min request.limit rules.limits.maxClaimBatch ≤ claims.length then pure claims
    else do
      let claims ← claimEntry rules target request expiresAt granted interrupt queue name claims
      claimEntries rules target request expiresAt granted interrupt rest claims

def claimOwned (rules : Rules) (target : String) (request : ClaimRequest) :
    Act (List SessionInboxOwnedClaim) := do
  check (refuse (request.receipt.any (fun receipt => decide (receipt.generation = 0)))
    (invalid "Inbox receipt generation must be nonzero"))
  let expiresAt ← check request.request.expiresAt
  ensureOwnedFormat rules
  recoverDeadLetterRotations rules target
  let inbox ← look
  let (granted, _) ← check inbox.readActivationWatermark
  let interrupt ← check inbox.readInterruptGeneration
  claimEntries rules target request expiresAt granted interrupt
    (sortEntries (inbox.entries [.cur, .new])) []

/- The holder of a lease. -/

/-- `current_owned`: the file under the claim's own name still bears exactly its lease. -/
def currentOwned (rules : Rules) (inbox : Inbox) (target : String)
    (claim : SessionInboxOwnedClaim) (now : Time) :
    Except SessionInboxError (Transport × StoredLease) := do
  refuse (claim.claim.envelope.targetSessionId ≠ target) (invalid "Inbox target mismatch")
  let enabled ← inbox.ownedEnabled
  refuse (enabled = false) (invalid "owned lease requires v3 watermarks")
  let transport ← readOwnedTransport rules inbox .cur claim.claim.claimId
  match transport.lease with
  | none => .error (invalid "Inbox lease missing")
  | some stored =>
    refuse (stored.sameIdentity claim.lease = false ∨
        stored.policy ≠ claim.claim.activationPolicy ∨ stored.token.expiresAt ≤ now ∨
        ownedName claim.claim.generation stored.token ≠ claim.claim.claimId)
      (invalid "Inbox lease lost or expired")
    let current ← ownedClaim rules target transport claim.claim.generation claim.claim.claimId
      stored
    refuse (current.claim ≠ claim.claim) (invalid "Inbox claim mismatch")
    return (transport, stored)

def renew (rules : Rules) (target : String) (claim : SessionInboxOwnedClaim)
    (request : SessionInboxLeaseRequest) : Act SessionInboxOwnedClaim := do
  let expiresAt ← check request.expiresAt
  check (refuse (request.consumer ≠ claim.lease.consumer)
    (invalid "Inbox lease consumer mismatch"))
  let inbox ← look
  let (transport, stored) ← check (currentOwned rules inbox target claim request.now)
  let renewed := { stored with
    token := { stored.token with expiresAt := max stored.token.expiresAt expiresAt } }
  writeOwnedTransport rules .cur claim.claim.claimId { transport with lease := some renewed }
  check (ownedClaim rules target transport claim.claim.generation claim.claim.claimId renewed)

/-- `ack_owned`: an exact retry is answered by the receipt, also after the lease has expired. -/
def ackOwned (rules : Rules) (target : String) (claim : SessionInboxOwnedClaim) (now : Time)
    (admittedAt : Time) : Act Unit := do
  check (refuse claim.claim.envelope.isScopedLoopControl
    (invalid "Loop controls require checkpoint-before-ACK"))
  check (refuse (claim.claim.envelope.targetSessionId ≠ target)
    (invalid "Inbox target mismatch"))
  let inbox ← look
  match ← check (admittedReceipt rules inbox claim.claim.envelope) with
  | some receipt => do
    check (refuse (receipt.generation ≠ claim.claim.generation ∨
        receipt.lease.all (fun lease => !lease.sameIdentity claim.lease ||
          decide (lease.policy ≠ claim.claim.activationPolicy)) ∨
        ownedName claim.claim.generation claim.lease ≠ claim.claim.claimId)
      (invalid "Inbox terminal lease mismatch"))
    ackUnlocked rules target claim.claim receipt.lease admittedAt
  | none => do
    let (_, stored) ← check (currentOwned rules inbox target claim now)
    ackUnlocked rules target claim.claim (some stored) admittedAt

/-- The check of `exact_claim_filesystem`, made again right before the write. -/
def lockedOwnedClaim (rules : Rules) (inbox : Inbox) (target : String)
    (claim : SessionInboxOwnedClaim) (now : Time) : Except SessionInboxError Unit := do
  let granted ← match inbox.activation with
    | some (.versioned 3 granted (some _)) => .ok granted
    | _ => .error (invalid "owned input requires v3 watermarks")
  match inbox.interrupt with
    | some (.versioned 3 _ _) => .ok ()
    | _ => .error (invalid "owned input requires v3 watermarks")
  let transport ← readOwnedTransport rules inbox .cur claim.claim.claimId
  match transport.lease with
  | none => .error (invalid "Inbox lease missing")
  | some stored =>
    let _ ← activationIntentField transport.intent
    let activation ← messageActivationIntent transport
    refuse (stored.sameIdentity claim.lease = false ∨
        stored.policy ≠ claim.claim.activationPolicy ∨ stored.token.expiresAt ≤ now ∨
        ownedName claim.claim.generation stored.token ≠ claim.claim.claimId ∨
        eligible claim.claim.generation granted activation = false)
      (invalid "Inbox claim lost, expired or ineligible")
    let current ← ownedClaim rules target transport claim.claim.generation claim.claim.claimId
      stored
    refuse (current.claim ≠ claim.claim) (invalid "Inbox claim mismatch")
    refuse ((inbox.admitted.lookup current.claim.envelope.id).isSome = true)
      (invalid "Inbox claim is already terminal")

/-- `release_owned`; its three readings of the clock come one after the other. -/
def release (rules : Rules) (target : String) (claim : SessionInboxOwnedClaim)
    (looked released written : Time) : Act Unit := do
  let inbox ← look
  let (transport, stored) ← check (currentOwned rules inbox target claim looked)
  let ended := { stored with token := { stored.token with expiresAt := released } }
  check (refuse (rules.limits.maxTransportBytes <
      rules.transportBytes { transport with lease := some ended })
    (invalid "Inbox lease transport exceeds byte limit"))
  check (asStorage (lockedOwnedClaim rules inbox target claim written))
  step (fun inbox => inbox.put .cur claim.claim.claimId { transport with lease := some ended })

def retryBaseMillis : Nat := 30000

def retryMaxMillis : Nat := 300000

/-- `retry_delay`, in nanoseconds; the jitter comes from the first bytes of a digest. -/
def retryDelay (rules : Rules) (id : String) (generation failureCount : Nat) : Nat :=
  let power := min (failureCount - 1) 16
  let exponential := min (retryBaseMillis * 2 ^ power) retryMaxMillis
  let jitterLimit := min (exponential / 4) (retryMaxMillis - exponential)
  let jitter := rules.retryDigest id generation failureCount % (jitterLimit + 1)
  (exponential + jitter) * 10 ^ 6

/-- `fail_owned`: the changed token is what fences the holder; the third failure is final. -/
def fail (rules : Rules) (target : String) (claim : SessionInboxOwnedClaim)
    (report : SessionInboxFailureReport) : Act SessionInboxFailureOutcome := do
  check report.validate
  let inbox ← look
  let (transport, stored) ← check (currentOwned rules inbox target claim report.now)
  let receipt ← check (admittedReceipt rules inbox claim.claim.envelope)
  check (refuse (receipt.isSome = true) (invalid "Inbox claim is already terminal"))
  check (refuse (maxExplicitFailures < stored.failureCount + 1)
    (invalid "Inbox failure limit exhausted"))
  let failed := { stored with
    failureCount := stored.failureCount + 1
    lastErrorCode := some report.errorCode
    token := { stored.token with expiresAt := report.now } }
  if stored.failureCount + 1 = maxExplicitFailures then
    let dead := { failed with
      retryAfter := none, deadLetteredAt := some report.now, retryRequestedAt := none }
    writeOwnedTransport rules .cur claim.claim.claimId { transport with lease := some dead }
    let inbox ← look
    check (refuse ((inbox.transport .dead claim.claim.claimId).isSome = true)
      (invalid "Inbox dead-letter incarnation already exists"))
    step (fun inbox => inbox.rename .cur .dead claim.claim.claimId claim.claim.claimId)
    pure (.deadLettered (stored.failureCount + 1))
  else
    let retryAfter := report.now +
      retryDelay rules claim.claim.envelope.id claim.claim.generation (stored.failureCount + 1)
    let waiting := { failed with retryAfter := some retryAfter }
    writeOwnedTransport rules .cur claim.claim.claimId { transport with lease := some waiting }
    pure (.retryScheduled (stored.failureCount + 1) retryAfter)

/- Administration. -/

def inspectDeadLetterEntries (rules : Rules) (inbox : Inbox) (target : String) (limit : Nat) :
    List Name → Except SessionInboxError (List SessionInboxDeadLetterInspection)
  | [] => .ok []
  | name :: rest =>
    if limit = 0 then .ok []
    else do
      let transport ← readOwnedTransport rules inbox .dead name
      match transport.lease with
      | none => .error (invalid "dead letter has no owned lease")
      | some stored =>
        let claim ← ownedClaim rules target transport name.generation name stored
        match stored.deadLetteredAt, stored.lastErrorCode with
        | none, _ => .error (invalid "dead letter has no terminal marker")
        | _, none => .error (invalid "dead letter has no error code")
        | some deadLetteredAt, some lastErrorCode =>
          let others ← inspectDeadLetterEntries rules inbox target (limit - 1) rest
          return { id := claim.claim.envelope.id, generation := name.generation,
                   failureCount := stored.failureCount, lastErrorCode, deadLetteredAt } :: others

/-- The administration of a session is the business of its principal: `authorized` is what the
    session store says of it. -/
def inspectDeadLetters (rules : Rules) (target : String) (limit : Nat)
    (authorized : Except SessionInboxError Unit) : Act (List SessionInboxDeadLetterInspection) := do
  check authorized
  recoverDeadLetterRotations rules target
  let inbox ← look
  check (inspectDeadLetterEntries rules inbox target (min limit rules.limits.maxClaimBatch)
    (inbox.names .dead))

structure DeadLetter where
  name : Name
  transport : Transport
  lease : StoredLease

def selectDeadLetter (rules : Rules) (inbox : Inbox) (target : String) (id : String)
    (generation : Nat) :
    List Name → Option DeadLetter → Except SessionInboxError (Option DeadLetter)
  | [], selected => .ok selected
  | name :: rest, selected =>
    if name.generation ≠ generation then
      selectDeadLetter rules inbox target id generation rest selected
    else do
      let transport ← readOwnedTransport rules inbox .dead name
      match transport.lease with
      | none => .error (invalid "dead letter has no owned lease")
      | some lease =>
        let claim ← ownedClaim rules target transport generation name lease
        if claim.claim.envelope.id ≠ id then
          selectDeadLetter rules inbox target id generation rest selected
        else
          refuse (selected.isSome = true) (invalid "duplicate dead-letter message id")
          selectDeadLetter rules inbox target id generation rest (some { name, transport, lease })

/-- `retry_dead_letter`: the request is written before the file is moved. -/
def retryDeadLetter (rules : Rules) (target : String) (id : String) (generation : Nat)
    (now : Time) (authorized : Except SessionInboxError Unit) : Act SessionInboxReceipt := do
  check (refuse (generation = 0) (invalid "invalid dead-letter generation"))
  check authorized
  recoverDeadLetterRotations rules target
  let inbox ← look
  match ← check (selectDeadLetter rules inbox target id generation (inbox.names .dead) none) with
  | none => check (.error (invalid "dead letter not found"))
  | some letter => do
    let receipt ← check (admittedReceipt rules inbox letter.transport.envelope)
    check (refuse (receipt.isSome = true) (invalid "dead letter is already terminal"))
    match letter.lease.deadLetteredAt with
    | none => check (.error (invalid "dead letter has no terminal marker"))
    | some deadAt => do
      check (refuse (now < deadAt ∨ letter.lease.failureCount ≠ maxExplicitFailures)
        (invalid "dead letter retry has invalid history"))
      skipIf (letter.lease.retryRequestedAt.isSome = true)
        (writeOwnedTransport rules .dead letter.name { letter.transport with
          lease := some { letter.lease with retryRequestedAt := some now } })
      let inbox ← look
      check (refuse ((inbox.transport .new letter.name).isSome = true)
        (invalid "Inbox retry incarnation already exists"))
      step (fun inbox => inbox.rename .dead .new letter.name letter.name)
      pure { id, generation }

/- The scan that looks at an inbox for what could be claimed now, without taking anything. -/

/-- When a stored lease lets the message go. -/
def readyAfter (stored : Option StoredLease) : Option Time :=
  stored.map (fun lease =>
    match lease.retryRequestedAt with
    | some requested => requested
    | none =>
      match lease.retryAfter with
      | some retry => max retry lease.token.expiresAt
      | none => lease.token.expiresAt)

/-- The candidate that one file makes, or none where it may start nothing. -/
def wakeCandidate (rules : Rules) (inbox : Inbox) (target : String) (granted interrupt : Nat)
    (queue : Queue) (name : Name) :
    Except SessionInboxError (Option SessionInboxWakeCandidate) := do
  let transport ← readOwnedTransport rules inbox queue name
  let intent ← activationIntentField transport.intent
  let activation ← messageActivationIntent transport
  if wakeEligible name.generation granted activation = false then return none
  else
    refuse (rules.validEnvelope transport.envelope = false) (invalid "invalid Inbox envelope")
    refuse (transport.envelope.targetSessionId ≠ target) (invalid "Inbox target mismatch")
    match ← admittedReceipt rules inbox transport.envelope with
    | some receipt =>
      admittedMatches receipt name.generation intent transport.lease
      return none
    | none =>
      markersPlaced queue transport.lease
      let policy ← match transport.lease with
        | some lease => .ok lease.policy
        | none => effectiveActivationPolicy name.generation granted interrupt activation
      let coordinator ← activationIntentField transport.coordinatorIntent
      return some
        { id := transport.envelope.id, generation := name.generation, activationPolicy := policy,
          coordinatorGeneration := granted,
          coordinatorMessagePolicy := coordinator.map (fun intent => intent.policy),
          leaseEpoch := transport.lease.map (fun lease => lease.token.epoch),
          readyAfter := readyAfter transport.lease }

def soonest (due : Time) (known : Option Time) : Time := min ((known).getD due) due

/-- The scan itself: an exact interrupt of the coordinator ends it. -/
def wakeReadiness (rules : Rules) (inbox : Inbox) (target : String) (granted interrupt : Nat)
    (now : Time) :
    List (Queue × Name) → SessionInboxWakeReadiness →
      Except SessionInboxError SessionInboxWakeReadiness
  | [], found => .ok found
  | (queue, name) :: rest, found => do
    match ← wakeCandidate rules inbox target granted interrupt queue name with
    | none => wakeReadiness rules inbox target granted interrupt now rest found
    | some candidate =>
      match candidate.readyAfter.filter (fun due => decide (now < due)) with
      | some due =>
        wakeReadiness rules inbox target granted interrupt now rest
          { found with nextDueAt := some (soonest due found.nextDueAt) }
      | none =>
        if candidate.coordinatorMessagePolicy = some .interruptSpecificWait then
          return { found with ready := some candidate }
        else
          wakeReadiness rules inbox target granted interrupt now rest
            { found with ready := found.ready.or (some candidate) }

def inspectWakeReadiness (rules : Rules) (target : String) (now : Time) :
    Act SessionInboxWakeReadiness := do
  recoverDeadLetterRotations rules target
  let inbox ← look
  let (granted, _) ← check inbox.readActivationWatermark
  let interrupt ← check inbox.readInterruptGeneration
  check (wakeReadiness rules inbox target granted interrupt now
    (sortEntries (inbox.entries [.cur, .new])) { ready := none, nextDueAt := none })

end Inboxes
