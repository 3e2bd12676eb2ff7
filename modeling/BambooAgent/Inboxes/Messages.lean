import Mathlib.Algebra.Order.Ring.Int
import Mathlib.Order.Basic
import BambooAgent.Library.Checks

/- What travels through a session's inbox: envelopes, the permissions published with them, the
   leases under which they are consumed, and the requests of the consumers. Times are
   nanoseconds, a UUID is its number, and a value that is only copied is its JSON text. -/
namespace Inboxes
open Checks

abbrev Time := Nat

inductive SessionInboxError where
  | admissionCancelled
  | targetNotFound (session : String)
  | payloadTooLarge (actual limit : Nat)
  | backlogFull (current limit : Nat)
  | invalidClaim (message : String)
  | storage (message : String)

def invalid (message : String) : SessionInboxError := .invalidClaim message

/-- The error's own text, as a failed filesystem job passes it on. -/
def SessionInboxError.text : SessionInboxError → String
  | .admissionCancelled => "session message admission was cancelled before the durable commit"
  | .targetNotFound session => "session inbox target not found: " ++ session
  | .payloadTooLarge actual limit =>
    "session inbox payload is " ++ toString actual ++ " bytes, limit is " ++ toString limit
  | .backlogFull current limit =>
    "session inbox backlog is full (" ++ toString current ++ "/" ++ toString limit ++ ")"
  | .invalidClaim message => "session inbox claim is invalid: " ++ message
  | .storage message => "session inbox storage failure: " ++ message

def asStorage {α : Type} (result : Except SessionInboxError α) : Except SessionInboxError α :=
  match result with
  | .ok a => .ok a
  | .error error => .error (.storage error.text)

/- Envelopes. -/

inductive SessionMessageSource where
  | user
  | session (sessionId : String)
  | runtime (subsystem : String)
  deriving DecidableEq

inductive SessionMessageKind where
  | userInput
  | peerMessage
  | childOutcome
  | runtimeInstruction
  deriving DecidableEq

/-- `body` is the part of the body that identifies the message, `presentation` the part that
    the provider is shown; `instruction` names the body of a runtime instruction. -/
structure SessionMessageEnvelope where
  id : String
  source : SessionMessageSource
  targetSessionId : String
  kind : SessionMessageKind
  instruction : Option String
  body : String
  presentation : String
  createdAt : Time
  threadId : Option String
  inReplyTo : Option String
  attempt : Option Nat
  correlationId : Option String
  deriving DecidableEq

def startsWith (start text : String) : Bool := start.toList.isPrefixOf text.toList

namespace SessionMessageEnvelope

def isGuidance (envelope : SessionMessageEnvelope) : Bool :=
  decide (envelope.source = .user) && decide (envelope.kind = .userInput) &&
    envelope.correlationId.any (fun value =>
      decide (value = "session-guidance") || decide (value = "session-guidance-after-run") ||
        startsWith "session-guidance-after-run:" value)

def guidanceWaitsForRun (envelope : SessionMessageEnvelope) (runId : String) : Bool :=
  envelope.isGuidance &&
    decide (envelope.correlationId = some ("session-guidance-after-run:" ++ runId))

def childOutcomeWaitsForRun (envelope : SessionMessageEnvelope) (runId : String) : Bool :=
  decide (envelope.kind = .childOutcome) &&
    decide (envelope.source = .runtime "child_completion_coordinator") &&
    decide (envelope.correlationId = some ("child_completion_after_run:" ++ runId))

def waitsForSuccessorOfRun (envelope : SessionMessageEnvelope) (runId : String) : Bool :=
  envelope.guidanceWaitsForRun runId || envelope.childOutcomeWaitsForRun runId

def isScopedLoopControl (envelope : SessionMessageEnvelope) : Bool :=
  decide (envelope.instruction = some "supervisor_loop_control_v1")

/-- The first admitted envelope owns the run that a retry may name anew. -/
def semanticCorrelationId (envelope : SessionMessageEnvelope) : Option String :=
  if envelope.kind = .childOutcome ∧ envelope.source = .runtime "child_completion_coordinator" ∧
      envelope.correlationId.any (fun value =>
        startsWith "child_completion_after_run:" value || startsWith "child_completion:" value) then
    some "child_completion"
  else if envelope.isGuidance ∧
      envelope.correlationId.any (startsWith "session-guidance-after-run:") then
    some "session-guidance-after-run"
  else envelope.correlationId

end SessionMessageEnvelope

/-- The fields that make two deliveries of one id the same delivery. -/
structure IdempotencySemantics where
  source : SessionMessageSource
  targetSessionId : String
  kind : SessionMessageKind
  instruction : Option String
  body : String
  threadId : Option String
  inReplyTo : Option String
  correlationId : Option String

def SessionMessageEnvelope.idempotencySemantics (envelope : SessionMessageEnvelope) :
    IdempotencySemantics :=
  { source := envelope.source, targetSessionId := envelope.targetSessionId, kind := envelope.kind,
    instruction := envelope.instruction, body := envelope.body, threadId := envelope.threadId,
    inReplyTo := envelope.inReplyTo, correlationId := envelope.semanticCorrelationId }

/- Permissions. -/

inductive SessionActivationPolicy where
  | respectSpecificWait
  | interruptSpecificWait
  deriving DecidableEq

inductive SessionMessageDeliveryIntent where
  | queueOnly
  | triggerTurn
  deriving DecidableEq

structure SessionInboxActivationIntent where
  version : Nat
  policy : SessionActivationPolicy
  delivery : Option SessionMessageDeliveryIntent
  expectedRunId : Option String
  supervisedRootOrigin : Option String
  deriving DecidableEq

def validSessionRunId (value : String) : Bool :=
  decide (value ≠ "") && decide (value.utf8ByteSize ≤ 128) &&
    value.toList.all (fun c => decide ('!' ≤ c) && decide (c ≤ '~'))

namespace SessionInboxActivationIntent

def new (policy : SessionActivationPolicy) : SessionInboxActivationIntent :=
  { version := 1, policy, delivery := none, expectedRunId := none, supervisedRootOrigin := none }

/-- Whether the run may take the message; no run is a run of its own here. -/
def admitsRun (intent : SessionInboxActivationIntent) (activeRunId : Option String) : Bool :=
  intent.expectedRunId.isNone || decide (intent.expectedRunId = activeRunId)

def isQueueOnly (intent : SessionInboxActivationIntent) : Bool :=
  decide (intent.delivery = some .queueOnly)

def supported (intent : SessionInboxActivationIntent) : Bool :=
  match intent.version, intent.delivery, intent.policy, intent.expectedRunId,
    intent.supervisedRootOrigin with
  | 1, none, _, none, none => true
  | 2, some _, .respectSpecificWait, none, none => true
  | 3, some .queueOnly, .respectSpecificWait, some runId, none => validSessionRunId runId
  | 4, _, .respectSpecificWait, none, some _ => true
  | _, _, _, _, _ => false

/-- `policy()`: a version that this reader knows, and its policy. -/
def checkedPolicy (intent : SessionInboxActivationIntent) :
    Except SessionInboxError SessionActivationPolicy :=
  if intent.supported then .ok intent.policy
  else .error (invalid "unsupported SessionInbox activation intent version")

end SessionInboxActivationIntent

/- Leases. -/

structure SessionInboxLeaseToken where
  consumer : String
  epoch : Nat
  expiresAt : Time
  incarnation : Nat
  deriving DecidableEq

def maxExplicitFailures : Nat := 3

structure StoredLease where
  version : Nat
  token : SessionInboxLeaseToken
  policy : SessionActivationPolicy
  failureCount : Nat
  reclaimCount : Option Nat
  manualRetryCount : Nat
  lastErrorCode : Option String
  retryAfter : Option Time
  deadLetteredAt : Option Time
  retryRequestedAt : Option Time

def validErrorCode (code : String) : Bool :=
  decide (code ≠ "") && decide (code.utf8ByteSize ≤ 64) &&
    code.toList.all (fun c => (decide ('a' ≤ c) && decide (c ≤ 'z')) ||
      (decide ('0' ≤ c) && decide (c ≤ '9')) || decide (c = '_') || decide (c = '-') ||
      decide (c = '.'))

def validConsumer (consumer : String) : Bool :=
  decide (consumer ≠ "") && decide (consumer.utf8ByteSize ≤ 128)

namespace StoredLease

/-- `reclaim_count()`; a lease from before the counter counts its expirations by its epoch. -/
def reclaims (lease : StoredLease) : Nat := lease.reclaimCount.getD (lease.token.epoch - 1)

def valid (lease : StoredLease) : Bool :=
  decide (lease.version = 1) && decide (lease.token.epoch ≠ 0) &&
    validConsumer lease.token.consumer && decide (lease.failureCount ≤ maxExplicitFailures) &&
    lease.reclaimCount.all (fun count => decide (count < lease.token.epoch)) &&
    decide (lease.manualRetryCount < lease.token.epoch) &&
    lease.lastErrorCode.all validErrorCode &&
    (decide (lease.failureCount = 0) || lease.lastErrorCode.isSome) &&
    (lease.retryAfter.isNone || lease.deadLetteredAt.isNone) &&
    (lease.retryRequestedAt.isNone || lease.deadLetteredAt.isSome)

def sameIdentity (lease : StoredLease) (token : SessionInboxLeaseToken) : Bool :=
  decide (lease.token = token)

def sameOptionalIdentity : Option StoredLease → Option StoredLease → Bool
  | none, none => true
  | some left, some right => left.sameIdentity right.token && decide (left.policy = right.policy)
  | _, _ => false

end StoredLease

/- Claims and requests. -/

/-- What stands behind the generation in the name of a transport file. -/
inductive Label where
  | delivered (messageId : String)
  | owned (epoch incarnation : Nat)
  deriving DecidableEq

structure Name where
  generation : Nat
  label : Label
  deriving DecidableEq

structure SessionInboxReceipt where
  id : String
  generation : Nat

structure SessionInboxClaim where
  envelope : SessionMessageEnvelope
  generation : Nat
  activationPolicy : SessionActivationPolicy
  claimId : Name
  deriving DecidableEq

structure SessionInboxOwnedClaim where
  claim : SessionInboxClaim
  lease : SessionInboxLeaseToken

structure SessionInboxLeaseRequest where
  consumer : String
  now : Time
  duration : Nat

def oneHour : Nat := 3600 * 10 ^ 9

def SessionInboxLeaseRequest.expiresAt (request : SessionInboxLeaseRequest) :
    Except SessionInboxError Time :=
  if ¬ validConsumer request.consumer ∨ request.duration = 0 ∨ oneHour < request.duration then
    .error (invalid "invalid Inbox lease request")
  else .ok (request.now + request.duration)

structure SessionInboxFailureReport where
  now : Time
  errorCode : String

def SessionInboxFailureReport.validate (report : SessionInboxFailureReport) :
    Except SessionInboxError Unit :=
  refuse (¬ validErrorCode report.errorCode)
    (invalid "Inbox failure requires a bounded diagnostic code")

inductive SessionInboxFailureOutcome where
  | retryScheduled (failureCount : Nat) (retryAfter : Time)
  | deadLettered (failureCount : Nat)

structure SessionInboxDeadLetterInspection where
  id : String
  generation : Nat
  failureCount : Nat
  lastErrorCode : String
  deadLetteredAt : Time

structure SessionInboxWakeCandidate where
  id : String
  generation : Nat
  activationPolicy : SessionActivationPolicy
  coordinatorGeneration : Nat
  coordinatorMessagePolicy : Option SessionActivationPolicy
  leaseEpoch : Option Nat
  readyAfter : Option Time

structure SessionInboxWakeReadiness where
  ready : Option SessionInboxWakeCandidate
  nextDueAt : Option Time

structure SessionInboxLimits where
  maxPayloadBytes : Nat
  maxBacklog : Nat
  maxClaimBatch : Nat

def SessionInboxLimits.default : SessionInboxLimits :=
  { maxPayloadBytes := 256 * 1024, maxBacklog := 1024, maxClaimBatch := 128 }

def SessionInboxLimits.maxTransportBytes (limits : SessionInboxLimits) : Nat :=
  min (limits.maxPayloadBytes * 8 + 4096) (32 * 1024 * 1024)

end Inboxes
