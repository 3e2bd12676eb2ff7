import Mathlib.Data.List.Basic
import Mathlib.Data.Option.Basic

/- The messages of a mailbox, and the fence of a Run: to which connection it may go and when a newer
   connection has made it stale. -/
namespace Brokers

inductive InboxKind where
  | task | ask | handoff | reply | mcpRequest | mcpReply | run | leasedRun | fencedRun | event
  | sessionMessageAdmitted | outcome | steer | approvalRequest | approvalReply | ownedTreeRequest
  | ownedTreeReply | subAgentRequest | subAgentReply | sessionEnvelope
  deriving DecidableEq, Repr

structure EnvironmentLease where
  actorId : String
  activationRunId : String
  executionEpoch : Nat
  deriving DecidableEq

structure PermissionPolicyContext where
  workspacePath : Option String
  environmentLease : Option EnvironmentLease
  deriving DecidableEq

/-- `creation` is the birth of a child session, here its time. -/
structure LogicalSessionIdentity where
  sessionId : String
  creation : Option Nat
  deriving DecidableEq

structure RunSpec where
  logicalSession : Option LogicalSessionIdentity
  permissionPolicy : Option PermissionPolicyContext
  activationRunId : Option String
  executionEpoch : Nat
  deriving DecidableEq

structure FencedRunEnvelope where
  version : Nat
  recipientHostRef : String
  recipientMailbox : String
  recipientConnectionGeneration : String
  recipientRole : String
  run : RunSpec
  deriving DecidableEq

/-- What the JSON of a body decodes to; no body decodes both ways. -/
inductive Body where
  | fenced (envelope : FencedRunEnvelope)
  | spec (run : RunSpec)
  | other (text : String)
  deriving DecidableEq

/-- `createdAt` is in nanoseconds, absent where they do not fit. -/
structure InboxMessage where
  id : String
  kind : InboxKind
  body : Body
  createdAt : Option Int
  deriving DecidableEq

structure WorkerHostObservation where
  hostRef : String
  mailbox : String
  role : Option String
  credentialExpiresAt : Nat
  connectionGeneration : String
  environmentLeaseV1 : Bool
  deriving DecidableEq

namespace Body

def envelope : Body → Option FencedRunEnvelope
  | fenced envelope => some envelope
  | _ => none

def runSpec : Body → Option RunSpec
  | spec run => some run
  | _ => none

end Body

namespace FencedRunEnvelope

def currentVersion : Nat := 1

def runId (envelope : FencedRunEnvelope) : String := envelope.run.activationRunId.getD ""

def actorId (envelope : FencedRunEnvelope) : String :=
  ((envelope.run.logicalSession.filter (·.creation.isSome)).map (·.sessionId)).getD ""

def leaseMatches (envelope : FencedRunEnvelope) : Bool :=
  envelope.run.permissionPolicy.any (fun policy =>
    policy.workspacePath.isNone && policy.environmentLease.any (fun lease =>
      lease.actorId = envelope.actorId && lease.activationRunId = envelope.runId
        && lease.executionEpoch = envelope.run.executionEpoch))

def matchesObservation (envelope : FencedRunEnvelope) (target : String) (now : Nat)
    (observation : WorkerHostObservation) : Bool :=
  envelope.version = currentVersion
    && envelope.recipientHostRef ≠ ""
    && envelope.recipientMailbox ≠ ""
    && envelope.recipientConnectionGeneration ≠ ""
    && envelope.recipientRole ≠ ""
    && envelope.runId ≠ ""
    && envelope.actorId ≠ ""
    && envelope.run.executionEpoch ≠ 0
    && envelope.leaseMatches
    && observation.mailbox = target
    && observation.mailbox = envelope.recipientMailbox
    && observation.hostRef = envelope.recipientHostRef
    && observation.connectionGeneration = envelope.recipientConnectionGeneration
    && observation.role = some envelope.recipientRole
    && observation.environmentLeaseV1
    && now < observation.credentialExpiresAt

theorem matchesObservation_generation {envelope : FencedRunEnvelope}
    (fits : envelope.matchesObservation target now observation = true) :
    envelope.recipientConnectionGeneration = observation.connectionGeneration := by
  simp only [matchesObservation, Bool.and_eq_true, decide_eq_true_eq] at fits
  obtain ⟨⟨⟨⟨_, generation⟩, _⟩, _⟩, _⟩ := fits
  exact generation.symm

theorem matchesObservation_earlier {envelope : FencedRunEnvelope} (before : earlier ≤ now)
    (fits : envelope.matchesObservation target now observation = true) :
    envelope.matchesObservation target earlier observation = true := by
  unfold matchesObservation at fits ⊢
  rw [Bool.and_eq_true, decide_eq_true_eq] at fits ⊢
  exact ⟨fits.1, Nat.lt_of_le_of_lt before fits.2⟩

end FencedRunEnvelope

namespace InboxMessage

def isOrderedActorMessage (message : InboxMessage) : Bool :=
  message.kind = .event || message.kind = .outcome

/-- Neither a leased nor a fenced Run. -/
def plain (message : InboxMessage) : Bool :=
  message.kind ≠ .leasedRun && message.kind ≠ .fencedRun

def nanos (message : InboxMessage) : Nat := (message.createdAt.getD 0).toNat

/-- The number in at least twenty digits. -/
def padded (number : Nat) : String :=
  let digits := Nat.toDigits 10 number
  String.ofList (List.replicate (20 - digits.length) '0' ++ digits)

def fileName (message : InboxMessage) : String :=
  padded message.nanos ++ "-" ++ message.id ++ ".json"

end InboxMessage

/-- What the scan of `ack` looks for at the end of a file name. -/
def endsInId (id name : String) : Bool :=
  ("-" ++ id ++ ".json").toList.isSuffixOf name.toList

def fencedRunForObservation (message : InboxMessage) (target : String) (now : Nat)
    (observation : Option WorkerHostObservation) : Bool :=
  if message.kind ≠ .fencedRun then true
  else
    match message.body.envelope, observation with
    | some envelope, some observation => envelope.matchesObservation target now observation
    | _, _ => false

/-- The old destination, trusted for nothing but the form of its envelope. -/
def oldTarget (envelope : FencedRunEnvelope) (target : String) (current : WorkerHostObservation) :
    WorkerHostObservation where
  hostRef := envelope.recipientHostRef
  mailbox := target
  role := some envelope.recipientRole
  credentialExpiresAt := current.credentialExpiresAt
  connectionGeneration := envelope.recipientConnectionGeneration
  environmentLeaseV1 := true

def confirmedStaleFencedRunGeneration (message : InboxMessage) (target : String) (now : Nat)
    (current : WorkerHostObservation) : Option String :=
  if message.kind ≠ .fencedRun || current.mailbox ≠ target || current.connectionGeneration = "" then none
  else
    match message.body.envelope with
    | none => none
    | some envelope =>
      if envelope.recipientConnectionGeneration = current.connectionGeneration then none
      else if envelope.matchesObservation target now (oldTarget envelope target current) then
        some envelope.recipientConnectionGeneration
      else none

section Fences
variable {message : InboxMessage} {target : String} {now : Nat}

theorem fencedRunForObservation_fenced (fenced : message.kind = .fencedRun)
    (fits : fencedRunForObservation message target now observation = true) :
    ∃ envelope current, message.body.envelope = some envelope ∧ observation = some current ∧
      envelope.matchesObservation target now current = true := by
  unfold fencedRunForObservation at fits
  rw [if_neg (by simpa using fenced)] at fits
  split at fits
  · rename_i envelope current decoded
    exact ⟨envelope, current, decoded, rfl, fits⟩
  · cases fits

theorem confirmedStale_spec
    (stale : confirmedStaleFencedRunGeneration message target now current = some generation) :
    ∃ envelope, message.kind = .fencedRun ∧ message.body.envelope = some envelope ∧
      envelope.recipientConnectionGeneration ≠ current.connectionGeneration ∧
      envelope.matchesObservation target now (oldTarget envelope target current) = true := by
  unfold confirmedStaleFencedRunGeneration at stale
  split at stale
  · cases stale
  · rename_i guarded
    simp only [ne_eq, Bool.or_eq_true, decide_eq_true_eq, not_or, Decidable.not_not] at guarded
    split at stale
    · cases stale
    · rename_i envelope decoded
      split at stale
      · cases stale
      · rename_i other
        split at stale
        · rename_i fits
          exact ⟨envelope, guarded.1.1, decoded, other, fits⟩
        · cases stale

end Fences

end Brokers
