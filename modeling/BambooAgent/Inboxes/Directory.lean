import Mathlib.Data.Prod.Lex
import BambooAgent.Inboxes.Messages
import BambooAgent.Library.Crashes
import BambooAgent.Library.SortedMap

/- The directory of one inbox and the steps by which it changes. A rename of a finished
   temporary file is one step; a program may be stopped before any of its steps. -/
namespace Inboxes
open SortedMaps Crashes Checks

/- A directory lists its names in order: by generation first, as their digits are padded. Two
   names of one generation never meet in a directory that these programs have written. -/

def Name.key (name : Name) : Nat ×ₗ Nat ×ₗ Nat ×ₗ Nat ×ₗ String :=
  match name.label with
  | .owned epoch incarnation =>
    toLex (name.generation, toLex (0, toLex (epoch, toLex (incarnation, ""))))
  | .delivered messageId => toLex (name.generation, toLex (1, toLex (0, toLex (0, messageId))))

theorem Name.key_injective : Function.Injective Name.key := by
  rintro ⟨generation, label⟩ ⟨generation', label'⟩ same
  cases label <;> cases label' <;> simp [Name.key] at same ⊢ <;> exact same

instance : LinearOrder Name := LinearOrder.lift' Name.key Name.key_injective

inductive Queue where
  | new
  | cur
  | dead
  | cancelled
  | corrupt
  deriving DecidableEq

/-- A transport file: the message with its permissions, and the lease of an owned one. -/
structure Transport where
  envelope : SessionMessageEnvelope
  intent : Option SessionInboxActivationIntent
  coordinatorIntent : Option SessionInboxActivationIntent
  lease : Option StoredLease

structure AdmittedReceipt where
  id : String
  generation : Nat
  semanticDigest : String
  admittedAt : Time
  intent : Option SessionInboxActivationIntent
  coordinatorIntent : Option SessionInboxActivationIntent
  lease : Option StoredLease

/-- A watermark file: a bare number, or a versioned record. -/
inductive Watermark where
  | plain (generation : Nat)
  | versioned (version generation : Nat) (interruptSnapshot : Option Nat)

structure Inbox where
  generation : Nat
  activation : Option Watermark
  interrupt : Option Watermark
  queues : Queue → SortedMap Name Transport
  admitted : SortedMap String AdmittedReceipt

def Inbox.empty : Inbox :=
  { generation := 0, activation := none, interrupt := none,
    queues := fun _ => SortedMap.empty, admitted := SortedMap.empty }

namespace Inbox

def transport (inbox : Inbox) (queue : Queue) (name : Name) : Option Transport :=
  (inbox.queues queue).lookup name

def put (inbox : Inbox) (queue : Queue) (name : Name) (transport : Transport) : Inbox :=
  { inbox with
    queues := fun other =>
      if other = queue then (inbox.queues queue).insert name transport else inbox.queues other }

def remove (inbox : Inbox) (queue : Queue) (name : Name) : Inbox :=
  { inbox with
    queues := fun other =>
      if other = queue then (inbox.queues queue).erase name else inbox.queues other }

/-- A rename takes the place of what stands there. -/
def rename (inbox : Inbox) (fromQueue toQueue : Queue) (name newName : Name) : Inbox :=
  match inbox.transport fromQueue name with
  | none => inbox
  | some transport => (inbox.remove fromQueue name).put toQueue newName transport

def record (inbox : Inbox) (receipt : AdmittedReceipt) : Inbox :=
  { inbox with admitted := inbox.admitted.insert receipt.id receipt }

def names (inbox : Inbox) (queue : Queue) : List Name := (inbox.queues queue).keys

theorem transport_put (inbox : Inbox) (queue other : Queue) (name key : Name)
    (transport : Transport) :
    (inbox.put queue name transport).transport other key =
      if other = queue ∧ key = name then some transport else inbox.transport other key := by
  unfold Inbox.transport put
  by_cases here : other = queue
  · simp [here]
  · simp [here]

theorem transport_remove (inbox : Inbox) (queue other : Queue) (name key : Name) :
    (inbox.remove queue name).transport other key =
      if other = queue ∧ key = name then none else inbox.transport other key := by
  unfold Inbox.transport remove
  by_cases here : other = queue
  · simp [here]
  · simp [here]

theorem transport_rename {inbox : Inbox}
    {transport : Transport} (held : inbox.transport fromQueue name = some transport)
    (other : Queue) (key : Name) :
    (inbox.rename fromQueue toQueue name newName).transport other key =
      if other = toQueue ∧ key = newName then some transport
      else if other = fromQueue ∧ key = name then none
      else inbox.transport other key := by
  rw [rename, held]
  rw [transport_put, transport_remove]

theorem mem_names {inbox : Inbox} :
    name ∈ inbox.names queue ↔ ∃ transport, inbox.transport queue name = some transport := by
  exact SortedMap.mem_keys

end Inbox

/- Programs. -/

/-- The directory, and how many steps are left before the process dies. -/
structure Disk where
  inbox : Inbox
  left : Nat

abbrev Act (α : Type) : Type := Program Disk SessionInboxError α

def look : Act Inbox := fun disk => (.ok disk.inbox, disk)

def check {α : Type} (result : Except SessionInboxError α) : Act α := fun disk =>
  match result with
  | .ok a => (.ok a, disk)
  | .error error => (.error (.failed error), disk)

def step (change : Inbox → Inbox) : Act Unit := fun disk =>
  match disk.left with
  | 0 => (.error .died, disk)
  | left + 1 => (.ok (), { inbox := change disk.inbox, left })

def skipIf (condition : Prop) [Decidable condition] (m : Act Unit) : Act Unit :=
  if condition then pure () else m

/-- What the code reads of the world beside the directory: the limits of the adapter, the
    checks and sizes of the JSON texts, and the two digests. -/
structure Rules where
  limits : SessionInboxLimits
  validEnvelope : SessionMessageEnvelope → Bool
  payloadBytes : SessionMessageEnvelope → Nat
  transportBytes : Transport → Nat
  digest : IdempotencySemantics × Option SessionInboxActivationIntent → String
  retryDigest : String → Nat → Nat → Nat

/- Watermarks. -/

namespace Inbox

/-- `watermark_version` of the activation file: a bare number has version 0. -/
def activationVersion (inbox : Inbox) : Except SessionInboxError Nat :=
  match inbox.activation with
  | none | some (.plain _) => .ok 0
  | some (.versioned version _ snapshot) =>
    if version ≠ 2 ∧ version ≠ 3 then .error (invalid "unsupported Inbox watermark version")
    else if version = 3 ∧ snapshot = none then
      .error (invalid "owned watermark lacks interrupt snapshot")
    else .ok version

def interruptVersion (inbox : Inbox) : Except SessionInboxError Nat :=
  match inbox.interrupt with
  | none | some (.plain _) => .ok 0
  | some (.versioned version _ _) =>
    if version ≠ 2 ∧ version ≠ 3 then .error (invalid "unsupported Inbox watermark version")
    else .ok version

def ownedEnabled (inbox : Inbox) : Except SessionInboxError Bool := do
  let activation ← inbox.activationVersion
  let interrupt ← inbox.interruptVersion
  refuse (interrupt = 3 ∧ activation ≠ 3) (invalid "owned activation watermark downgraded")
  return decide (activation = 3)

def activationInterruptSnapshot (inbox : Inbox) : Except SessionInboxError (Option Nat) := do
  let version ← inbox.activationVersion
  match inbox.activation with
  | some (.versioned _ _ snapshot) => if version = 3 then return snapshot else return none
  | _ => return none

/-- The prefix that the coordinator has granted, and whether its file is versioned. -/
def readActivationWatermark (inbox : Inbox) : Except SessionInboxError (Nat × Bool) :=
  match inbox.activation with
  | none => .ok (0, false)
  | some (.plain generation) => .ok (generation, false)
  | some (.versioned version generation snapshot) =>
    if version ≠ 2 ∧ version ≠ 3 then
      .error (.storage "unsupported inbox activation watermark version")
    else if version = 3 ∧ snapshot = none then
      .error (.storage "owned watermark lacks interrupt snapshot")
    else .ok (generation, true)

def readInterruptGeneration (inbox : Inbox) : Except SessionInboxError Nat :=
  match inbox.interrupt with
  | none => do
    let snapshot ← inbox.activationInterruptSnapshot
    return snapshot.getD 0
  | some (.plain generation) => do
    let snapshot ← inbox.activationInterruptSnapshot
    return snapshot.getD generation
  | some (.versioned version generation _) =>
    if version ≠ 3 then .error (.storage "unsupported inbox interrupt watermark version")
    else .ok generation

end Inbox

def writeActivationWatermark (generation : Nat) (versioned : Bool) : Act Unit := do
  let inbox ← look
  let owned ← check inbox.ownedEnabled
  if versioned then
    let snapshot ← if owned then do
        let interrupt ← check inbox.readInterruptGeneration
        pure (some interrupt)
      else pure none
    let watermark := Watermark.versioned (if owned then 3 else 2) generation snapshot
    step (fun inbox => { inbox with activation := some watermark })
  else step (fun inbox => { inbox with activation := some (.plain generation) })

def writeInterruptWatermark (generation : Nat) : Act Unit := do
  let inbox ← look
  let owned ← check inbox.ownedEnabled
  let watermark :=
    if owned then Watermark.versioned 3 generation none else Watermark.plain generation
  step (fun inbox => { inbox with interrupt := some watermark })

/- Reading a transport. -/

def readOwnedTransport (rules : Rules) (inbox : Inbox) (queue : Queue) (name : Name) :
    Except SessionInboxError Transport :=
  match inbox.transport queue name with
  | none => .error (.storage "No such file or directory")
  | some transport => do
    refuse (rules.limits.maxTransportBytes < rules.transportBytes transport)
      (invalid "Inbox lease transport exceeds byte limit")
    refuse (transport.lease.any (fun lease => !lease.valid)) (invalid "invalid Inbox lease")
    return transport

def activationIntentField (intent : Option SessionInboxActivationIntent) :
    Except SessionInboxError (Option SessionInboxActivationIntent) :=
  match intent with
  | none => .ok none
  | some intent => do
    let _ ← intent.checkedPolicy
    return some intent

/-- The permission of one message: its own, or the coordinator's; an explicit peer delivery
    keeps its own. -/
def messageActivationIntent (transport : Transport) :
    Except SessionInboxError (Option SessionInboxActivationIntent) := do
  let original ← activationIntentField transport.intent
  let coordinator ← activationIntentField transport.coordinatorIntent
  if original.any (fun intent => intent.delivery.isSome) then return original
  else if (original.toList ++ coordinator.toList).any (fun intent =>
      decide (intent.policy = .interruptSpecificWait)) then
    return some (SessionInboxActivationIntent.new .interruptSpecificWait)
  else return original.or coordinator

/-- A grant of its own applies to one message, never to an earlier sibling. -/
def eligible (generation granted : Nat) (intent : Option SessionInboxActivationIntent) : Bool :=
  decide (0 < generation) && (decide (generation ≤ granted) || intent.isSome)

/-- Who may be claimed and who may start a run are different questions. -/
def wakeEligible (generation granted : Nat) (intent : Option SessionInboxActivationIntent) :
    Bool :=
  !intent.any (fun intent => intent.isQueueOnly) && eligible generation granted intent

def effectiveActivationPolicy (generation granted interruptPrefix : Nat)
    (intent : Option SessionInboxActivationIntent) :
    Except SessionInboxError SessionActivationPolicy := do
  if intent.any (fun intent => intent.delivery.isSome) then return .respectSpecificWait
  else
    let own ← activationIntentField intent
    let ownInterrupt := own.any (fun intent => decide (intent.policy = .interruptSpecificWait))
    if ownInterrupt || (decide (generation ≤ granted) && decide (generation ≤ interruptPrefix)) then
      return .interruptSpecificWait
    else return .respectSpecificWait

/- Permanent receipts. -/

/-- Delivery and origin are bound into the digest; other permissions are not. -/
def deliveryDigest (rules : Rules) (envelope : SessionMessageEnvelope)
    (intent : Option SessionInboxActivationIntent) : String :=
  rules.digest (envelope.idempotencySemantics,
    intent.filter (fun intent => intent.delivery.isSome || intent.supervisedRootOrigin.isSome))

def admittedReceipt (rules : Rules) (inbox : Inbox) (requested : SessionMessageEnvelope) :
    Except SessionInboxError (Option AdmittedReceipt) :=
  match inbox.admitted.lookup requested.id with
  | none => .ok none
  | some receipt => do
    refuse (receipt.id ≠ requested.id)
      (invalid ("admitted receipt digest collision: requested " ++ requested.id ++ ", stored " ++
        receipt.id))
    let intent ← activationIntentField receipt.intent
    refuse (receipt.semanticDigest ≠ deliveryDigest rules requested intent)
      (invalid ("message id " ++ requested.id ++
        " was reused with different delivery semantics"))
    refuse (receipt.lease.any (fun lease => !lease.valid)) (invalid "invalid Inbox lease")
    return some receipt

end Inboxes
