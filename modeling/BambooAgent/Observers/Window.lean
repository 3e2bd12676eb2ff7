import Mathlib.Data.Finset.Basic
import BambooAgent.Library.Checks
import BambooAgent.Library.SortedMap

/- The window of a Supervisor's change subscription: one pending change, a bounded history of
   enqueued ones, and what was last enqueued of each target. -/
namespace Observers
open SortedMaps Checks

def observerSubscriptionVersion : Nat := 1
def maxObserverChangeHistory : Nat := 16
def maxObserverWindowTargets : Nat := 8
def maxObserverChangeBytes : Nat := 1024
def maxObserverWindowBytes : Nat := 24 * 1024
def maxSupervisorSessionIdBytes : Nat := 256
def u64Max : Nat := 2 ^ 64 - 1

inductive ObserverChangeKind where
  | status | needsInput | tasks
  deriving DecidableEq

structure ObserverRootOutcomeCursor where
  rootCreatedAt : Int
  sequence : Nat

structure ObserverViewChange where
  scopeEpoch : Nat
  sequence : Nat
  targetSessionId : String
  viewRevision : String
  sourceFingerprint : String
  observedKinds : Finset ObserverChangeKind
  observedAt : Int
  eventId : String
  rootOutcome : Option ObserverRootOutcomeCursor

structure ObserverSubscriptionOwner where
  supervisorIncarnation : Nat
  supervisorCreatedAt : Int
  observerSessionId : String
  observerCreatedAt : Int

structure ObserverSubscriptionWindow where
  version : Nat
  scopeEpoch : Nat
  enqueuedSequence : Nat
  enqueuedFingerprints : SortedMap String String
  rootOutcomeCursors : SortedMap String ObserverRootOutcomeCursor
  pending : Option ObserverViewChange
  history : List ObserverViewChange

inductive ObserverStageOutcome where
  | unchanged
  | existingPending (change : ObserverViewChange)
  | staged (change : ObserverViewChange)

structure ObserverChangePage where
  scopeEpoch : Nat
  afterSequence : Nat
  enqueuedSequence : Nat
  gap : Bool
  changes : List ObserverViewChange

structure SessionInboxReceipt where
  id : String
  generation : Nat

/-- The serializer and the digest: lengths of encoded values, a window read back from its
    encoding, and the digest of a change's identity under its owner. -/
structure Encoding where
  changeBytes : ObserverViewChange → Nat
  windowBytes : ObserverSubscriptionWindow → Nat
  reload : ObserverSubscriptionWindow → ObserverSubscriptionWindow
  identityDigest : ObserverSubscriptionOwner → ObserverViewChange → String
  reload_same : ∀ window, reload window = window

def isControl (c : Char) : Bool := c.toNat < 0x20 || (0x7f ≤ c.toNat && c.toNat ≤ 0x9f)

def validateSupervisorTargetId (id : String) : Except String Unit :=
  refuse (id = "" ∨ maxSupervisorSessionIdBytes < id.utf8ByteSize ∨ id = "." ∨
      '/' ∈ id.toList ∨ '\\' ∈ id.toList ∨ ['.', '.'] <:+: id.toList ∨
      id.toList.any isControl = true)
    "invalid or oversized Supervisor target Session ID"

def digestShape (value : String) : Bool :=
  value.utf8ByteSize = 64 &&
    value.toList.all (fun c => c.isDigit || ('a'.toNat ≤ c.toNat && c.toNat ≤ 'f'.toNat))

section
variable (encoding : Encoding)

def ObserverViewChange.validate (change : ObserverViewChange) : Except String Unit := do
  validateSupervisorTargetId change.targetSessionId
  refuse (change.scopeEpoch = 0 ∨ change.sequence = 0 ∨ change.observedKinds = ∅ ∨
      (∃ position ∈ change.rootOutcome, position.sequence = 0) ∨
      digestShape change.viewRevision = false ∨ digestShape change.sourceFingerprint = false ∨
      maxObserverChangeBytes < encoding.changeBytes change)
    "invalid or oversized Observer change"

/-- Every field but the event id itself goes into the digest. -/
def ObserverViewChange.expectedEventId (change : ObserverViewChange)
    (owner : ObserverSubscriptionOwner) : String :=
  "stable-" ++ encoding.identityDigest owner { change with eventId := "" }

namespace ObserverSubscriptionWindow

/-- The last check of a window. -/
def validatePending (window : ObserverSubscriptionWindow) (pending : ObserverViewChange) :
    Except String Unit := do
  pending.validate encoding
  refuse (∃ outcome ∈ pending.rootOutcome, outcome.sequence = 0 ∨
      ∃ current ∈ window.rootOutcomeCursors.lookup pending.targetSessionId,
        current.rootCreatedAt ≠ outcome.rootCreatedAt ∨ outcome.sequence ≤ current.sequence)
    "invalid pending Observer Root outcome position"
  refuse (pending.scopeEpoch ≠ window.scopeEpoch ∨ u64Max < window.enqueuedSequence + 1 ∨
      pending.sequence ≠ window.enqueuedSequence + 1 ∨
      (window.enqueuedFingerprints.contains pending.targetSessionId = false ∧
        maxObserverWindowTargets ≤ window.enqueuedFingerprints.size))
    "invalid Observer pending sequence or epoch"

def validate (window : ObserverSubscriptionWindow) : Except String Unit := do
  refuse (window.version ≠ observerSubscriptionVersion ∨ window.scopeEpoch = 0 ∨
      maxObserverWindowTargets < window.enqueuedFingerprints.size ∨
      maxObserverWindowTargets < window.rootOutcomeCursors.size ∨
      maxObserverChangeHistory < window.history.length ∨
      maxObserverWindowBytes < encoding.windowBytes window)
    "invalid or oversized Observer subscription window"
  window.enqueuedFingerprints.entries.forM fun entry => do
    validateSupervisorTargetId entry.1
    refuse (digestShape entry.2 = false) "invalid Observer source fingerprint"
  window.rootOutcomeCursors.keys.forM validateSupervisorTargetId
  refuse (window.enqueuedSequence < window.history.length) "invalid Observer history length"
  window.history.zipIdx.forM fun entry => do
    entry.1.validate encoding
    refuse (entry.1.scopeEpoch ≠ window.scopeEpoch ∨
        entry.1.sequence ≠ window.enqueuedSequence - window.history.length + entry.2 + 1)
      "noncontiguous Observer history"
  refuse (decide (window.enqueuedSequence = 0) ≠ window.history.isEmpty)
    "missing Observer enqueue history"
  window.pending.forM (window.validatePending encoding)

def new (scopeEpoch : Nat) : Except String ObserverSubscriptionWindow := do
  let window : ObserverSubscriptionWindow :=
    { version := observerSubscriptionVersion, scopeEpoch, enqueuedSequence := 0,
      enqueuedFingerprints := SortedMap.empty, rootOutcomeCursors := SortedMap.empty,
      pending := none, history := [] }
  window.validate encoding
  return window

def validateForOwner (window : ObserverSubscriptionWindow) (owner : ObserverSubscriptionOwner) :
    Except String Unit := do
  window.validate encoding
  validateSupervisorTargetId owner.observerSessionId
  refuse (owner.supervisorIncarnation = 0) "invalid Observer owner incarnation"
  refuse (∃ change ∈ window.history ++ window.pending.toList,
      change.eventId ≠ change.expectedEventId encoding owner) "Observer event identity changed"

/-- The arguments of a stage call. -/
structure View where
  target : String
  viewRevision : String
  sourceFingerprint : String
  observedKinds : Finset ObserverChangeKind
  observedAt : Int

/-- What a stage call would stage. -/
def changeOf (window : ObserverSubscriptionWindow) (owner : ObserverSubscriptionOwner) (view : View)
    (rootOutcome : Option ObserverRootOutcomeCursor) : ObserverViewChange :=
  let change : ObserverViewChange :=
    { scopeEpoch := window.scopeEpoch, sequence := window.enqueuedSequence + 1,
      targetSessionId := view.target, viewRevision := view.viewRevision,
      sourceFingerprint := view.sourceFingerprint, observedKinds := view.observedKinds,
      observedAt := view.observedAt, eventId := "", rootOutcome }
  { change with eventId := change.expectedEventId encoding owner }

/-- The result, and the window as the call leaves it. -/
def stageWithRootOutcome (window : ObserverSubscriptionWindow) (owner : ObserverSubscriptionOwner)
    (view : View) (rootOutcome : Option ObserverRootOutcomeCursor) :
    Except String ObserverStageOutcome × ObserverSubscriptionWindow :=
  match window.validateForOwner encoding owner with
  | .error error => (.error error, window)
  | .ok () =>
    match window.pending with
    | some pending => (.ok (.existingPending pending), window)
    | none =>
      if rootOutcome = none ∧
          window.enqueuedFingerprints.lookup view.target = some view.sourceFingerprint then
        (.ok .unchanged, window)
      else if window.enqueuedFingerprints.contains view.target = false ∧
          maxObserverWindowTargets ≤ window.enqueuedFingerprints.size then
        (.error "Observer target capacity exceeded", window)
      else if u64Max < window.enqueuedSequence + 1 then
        (.error "Observer sequence exhausted", window)
      else
        let change := window.changeOf encoding owner view rootOutcome
        let candidate := { window with pending := some change }
        match change.validate encoding, candidate.validateForOwner encoding owner with
        | .error error, _ => (.error error, window)
        | .ok (), .error error => (.error error, window)
        | .ok (), .ok () => (.ok (.staged change), candidate)

def stage (window : ObserverSubscriptionWindow) (owner : ObserverSubscriptionOwner) (view : View) :
    Except String ObserverStageOutcome × ObserverSubscriptionWindow :=
  window.stageWithRootOutcome encoding owner view none

def enqueued (window : ObserverSubscriptionWindow) (pending : ObserverViewChange) :
    ObserverSubscriptionWindow :=
  let history := window.history ++ [pending]
  { window with
    pending := none
    enqueuedSequence := pending.sequence
    rootOutcomeCursors :=
      match pending.rootOutcome with
      | some position => window.rootOutcomeCursors.insert pending.targetSessionId position
      | none => window.rootOutcomeCursors
    enqueuedFingerprints :=
      window.enqueuedFingerprints.insert pending.targetSessionId pending.sourceFingerprint
    history := if maxObserverChangeHistory < history.length then history.tail else history }

def commitEnqueued (window : ObserverSubscriptionWindow) (owner : ObserverSubscriptionOwner)
    (receipt : SessionInboxReceipt) : Except String Bool × ObserverSubscriptionWindow :=
  match window.validateForOwner encoding owner with
  | .error error => (.error error, window)
  | .ok () =>
    if receipt.generation = 0 then
      (.error "Observer receipt lacks a delivery generation", window)
    else
      match window.pending with
      | none =>
        if window.history.getLast?.map ObserverViewChange.eventId = some receipt.id then
          (.ok false, window)
        else
          (.error "Observer receipt has no matching pending source", window)
      | some pending =>
        if pending.eventId ≠ receipt.id then
          (.error "Observer receipt belongs to another event", window)
        else
          match (window.enqueued pending).validateForOwner encoding owner with
          | .error error => (.error error, window)
          | .ok () => (.ok true, window.enqueued pending)

def changesAfter (window : ObserverSubscriptionWindow) (scopeEpoch sequence : Nat) :
    Except String ObserverChangePage := do
  window.validate encoding
  refuse (scopeEpoch ≠ window.scopeEpoch) "Observer cursor belongs to another registration epoch"
  refuse (window.enqueuedSequence < sequence) "Observer cursor is ahead of the enqueue sequence"
  let oldest := (window.history.head?.map ObserverViewChange.sequence).getD 1
  return { scopeEpoch := window.scopeEpoch, afterSequence := sequence,
           enqueuedSequence := window.enqueuedSequence,
           gap := decide (min (sequence + 1) u64Max < oldest),
           changes := window.history.filter (fun change => decide (sequence < change.sequence)) }

end ObserverSubscriptionWindow
end

end Observers
