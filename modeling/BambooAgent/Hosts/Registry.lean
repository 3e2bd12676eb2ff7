import BambooAgent.Actors.Directory
import BambooAgent.Library.Checks

/- The registry of worker hosts: what a host registers, the slots it lends to runs, and the
   transactions over the one file that holds all of it. -/
namespace Hosts
open SortedMaps
open Actors (ActorPlacementClass ActorPlacementRef u64Max)

def hostRegistrySchemaVersion : Nat := 1
def maxWorkerHostSlots : Nat := 64
def maxRegisteredHosts : Nat := 256

inductive HostRegistryError where
  | invalid
  | corrupt
  | staleGeneration
  | staleLease
  | busy
  | pinnedUnavailable
  | noEligibleHost

abbrev Result (α : Type) := Except HostRegistryError α

/-- An instant, or a span, in nanoseconds. -/
abbrev Time := Int

def minutes (count : Int) : Time := count * 60000000000

def identifier (value : String) : Bool :=
  !value.isEmpty && decide (value.utf8ByteSize ≤ 128) &&
    value.toList.all (fun c => c.isAlphanum || c == '-' || c == '_' || c == '.')

def identifiers (values : SortedSet String) : Bool :=
  decide (values.items.length ≤ 256) && values.items.all identifier

structure WorkerHostCapabilities where
  placementClass : ActorPlacementClass
  projectIds : SortedSet String
  allowUnscopedProject : Bool
  trustZone : String
  workspaceLabels : SortedSet String
  executors : SortedSet String
  tools : SortedSet String
  networkZones : SortedSet String
  networkIsolation : Bool
  deriving DecidableEq

def WorkerHostCapabilities.validate (capabilities : WorkerHostCapabilities) : Result Unit :=
  if 256 < capabilities.projectIds.items.length ∨ ¬ identifier capabilities.trustZone ∨
      ¬ identifiers capabilities.workspaceLabels ∨ ¬ identifiers capabilities.executors ∨
      ¬ identifiers capabilities.tools ∨ ¬ identifiers capabilities.networkZones ∨
      capabilities.executors.isEmpty then .error .invalid
  else .ok ()

structure WorkerHostRegistration where
  hostRef : String
  mailbox : String
  role : Option String
  connectionGeneration : String
  credentialExpiresAt : Time
  observedAt : Time
  leaseExpiresAt : Time
  expectedConnectionGeneration : Option String
  maxSlots : Nat
  capabilities : WorkerHostCapabilities

def WorkerHostRegistration.validate (request : WorkerHostRegistration) : Result Unit := do
  request.capabilities.validate
  if ¬ identifier request.hostRef ∨ ¬ identifier request.mailbox ∨
      ¬ request.role.all identifier ∨ ¬ identifier request.connectionGeneration ∨
      ¬ request.expectedConnectionGeneration.all identifier ∨ request.maxSlots = 0 ∨
      maxWorkerHostSlots < request.maxSlots ∨ request.leaseExpiresAt ≤ request.observedAt ∨
      minutes 2 < request.leaseExpiresAt - request.observedAt ∨
      request.credentialExpiresAt < request.leaseExpiresAt then .error .invalid
  else .ok ()

structure WorkerSlotLease where
  leaseId : String
  hostRef : String
  connectionGeneration : String
  slot : Nat
  epoch : Nat
  actorId : String
  runId : String
  expiresAt : Time
  deriving DecidableEq

structure RegisteredWorkerHost where
  hostRef : String
  mailbox : String
  role : Option String
  connectionGeneration : String
  credentialExpiresAt : Time
  observedAt : Time
  leaseExpiresAt : Time
  maxSlots : Nat
  capabilities : WorkerHostCapabilities
  nextSlotEpoch : Nat
  slots : SortedMap Nat WorkerSlotLease

namespace RegisteredWorkerHost

def isLive (host : RegisteredWorkerHost) (now : Time) : Bool :=
  decide (now < host.leaseExpiresAt) && decide (now < host.credentialExpiresAt)

def activeSlots (host : RegisteredWorkerHost) (now : Time) : Nat :=
  host.slots.values.countP (fun lease => decide (now < lease.expiresAt))

def firstFreeSlot (host : RegisteredWorkerHost) (now : Time) : Option Nat :=
  (List.range host.maxSlots).find? (fun slot =>
    (host.slots.lookup slot).all (fun lease => decide (lease.expiresAt ≤ now)))

/-- What a slot may hold. -/
@[mk_iff]
structure Lends (host : RegisteredWorkerHost) (slot : Nat) (lease : WorkerSlotLease) : Prop where
  within : slot < host.maxSlots
  slot : lease.slot = slot
  hostRef : lease.hostRef = host.hostRef
  generation : lease.connectionGeneration = host.connectionGeneration
  issued : 0 < lease.epoch
  epoch : lease.epoch ≤ host.nextSlotEpoch
  leaseId : identifier lease.leaseId = true
  actorId : identifier lease.actorId = true
  runId : identifier lease.runId = true

instance (host : RegisteredWorkerHost) (slot : Nat) (lease : WorkerSlotLease) :
    Decidable (host.Lends slot lease) :=
  decidable_of_iff _ (lends_iff host slot lease).symm

def validate (host : RegisteredWorkerHost) : Result Unit := do
  host.capabilities.validate
  if ¬ identifier host.hostRef ∨ ¬ identifier host.mailbox ∨ ¬ host.role.all identifier ∨
      ¬ identifier host.connectionGeneration ∨ host.maxSlots = 0 ∨
      maxWorkerHostSlots < host.maxSlots ∨ host.credentialExpiresAt < host.leaseExpiresAt ∨
      ¬ (∀ entry ∈ host.slots.entries, host.Lends entry.1 entry.2) then .error .corrupt
  else .ok ()

end RegisteredWorkerHost

/- Placement. -/

inductive HostPlacementIntent where
  | auto
  | «local» (hostRef : String)
  | pool (poolId : String)
  | pinnedHost (hostRef : String)

structure HostPlacementRequest where
  intent : HostPlacementIntent
  actorId : String
  runId : String
  projectId : Option String
  trustZone : String
  workspaceLabel : Option String
  executor : String
  requiredTools : SortedSet String
  networkZone : Option String
  requireNetworkIsolation : Bool
  preferredHostRef : Option String
  now : Time
  leaseExpiresAt : Time

def HostPlacementIntent.valid : HostPlacementIntent → Bool
  | .auto => true
  | .local hostRef | .pinnedHost hostRef => identifier hostRef
  | .pool poolId => identifier poolId

def HostPlacementRequest.validate (request : HostPlacementRequest) : Result Unit :=
  if ¬ request.intent.valid ∨ ¬ identifier request.actorId ∨ ¬ identifier request.runId ∨
      ¬ identifier request.trustZone ∨ ¬ identifier request.executor ∨
      ¬ request.workspaceLabel.all identifier ∨ ¬ request.networkZone.all identifier ∨
      ¬ request.preferredHostRef.all identifier ∨ ¬ identifiers request.requiredTools ∨
      request.leaseExpiresAt ≤ request.now ∨
      minutes 5 < request.leaseExpiresAt - request.now then .error .invalid
  else .ok ()

def HostPlacementIntent.admits (intent : HostPlacementIntent) (host : RegisteredWorkerHost) :
    Bool :=
  match intent with
  | .auto => true
  | .local hostRef => host.hostRef == hostRef && host.capabilities.placementClass == .local
  | .pinnedHost hostRef => host.hostRef == hostRef
  | .pool poolId => host.role == some poolId

def HostPlacementRequest.eligible (request : HostPlacementRequest)
    (host : RegisteredWorkerHost) : Bool :=
  host.isLive request.now && (host.firstFreeSlot request.now).isSome &&
    host.capabilities.trustZone == request.trustZone &&
    host.capabilities.executors.contains request.executor &&
    request.requiredTools.items.all host.capabilities.tools.contains &&
    (match request.projectId with
      | none => host.capabilities.allowUnscopedProject
      | some id => host.capabilities.projectIds.contains id) &&
    request.workspaceLabel.all host.capabilities.workspaceLabels.contains &&
    request.networkZone.all host.capabilities.networkZones.contains &&
    (!request.requireNetworkIsolation || host.capabilities.networkIsolation) &&
    request.intent.admits host

/-- The lighter load first, then the preferred host, then the name. -/
def rank (request : HostPlacementRequest) (a b : RegisteredWorkerHost) : Ordering :=
  let preferred (host : RegisteredWorkerHost) := decide (request.preferredHostRef = some host.hostRef)
  (compare (a.activeSlots request.now * b.maxSlots) (b.activeSlots request.now * a.maxSlots)).then
    ((compare (preferred b) (preferred a)).then (compare a.hostRef b.hostRef))

def minBy (order : α → α → Ordering) : List α → Option α
  | [] => none
  | first :: rest =>
    some (rest.foldl (fun best next => if order best next = .gt then next else best) first)

def selectWorkerHost (hosts : SortedMap String RegisteredWorkerHost)
    (request : HostPlacementRequest) : Result RegisteredWorkerHost := do
  request.validate
  match minBy (rank request) (hosts.values.filter request.eligible) with
  | some host => .ok host
  | none =>
    match request.intent with
    | .local _ | .pinnedHost _ => .error .pinnedUnavailable
    | .auto | .pool _ => .error .noEligibleHost

/- The file. -/

structure RegistryState where
  schemaVersion : Nat
  revision : Nat
  hosts : SortedMap String RegisteredWorkerHost

def RegistryState.new : RegistryState :=
  { schemaVersion := hostRegistrySchemaVersion, revision := 0, hosts := .empty }

def isOk (result : Result α) : Bool :=
  match result with
  | .ok _ => true
  | .error _ => false

def RegistryState.validate (state : RegistryState) : Result Unit :=
  if state.schemaVersion ≠ hostRegistrySchemaVersion ∨ state.revision = 0 ∨
      maxRegisteredHosts < state.hosts.size ∨
      ¬ (∀ entry ∈ state.hosts.entries, entry.1 = entry.2.hostRef ∧ isOk entry.2.validate) then
    .error .corrupt
  else .ok ()

def markerBytes : String := "worker-host-registry-v1\n"

/-- The record and the witness that there has been one. -/
structure Home where
  marker : Option String
  record : Option RegistryState

def readState (home : Home) : Result RegistryState :=
  match home.marker, home.record with
  | none, none => .ok .new
  | some marker, some state =>
    if marker ≠ markerBytes then .error .corrupt
    else do
      state.validate
      .ok state
  | _, _ => .error .corrupt

def publishState (home : Home) (state : RegistryState) : Home :=
  { marker := some (home.marker.getD markerBytes), record := some state }

/-- What an operation answers, and the state that it leaves when it has changed it. -/
structure Outcome (α : Type) where
  value : α
  changed : Option RegistryState

def checkedAdd (value : Nat) : Result Nat :=
  if value < u64Max then .ok (value + 1) else .error .corrupt

def transact (home : Home) (operation : RegistryState → Result (Outcome α)) :
    Result (α × Home) := do
  let state ← readState home
  let outcome ← operation state
  match outcome.changed with
  | none => .ok (outcome.value, home)
  | some changed =>
    let revision ← checkedAdd changed.revision
    RegistryState.validate { changed with revision }
    .ok (outcome.value, publishState home { changed with revision })

def RegistryState.withHost (state : RegistryState) (host : RegisteredWorkerHost) :
    RegistryState :=
  { state with hosts := state.hosts.insert host.hostRef host }

/- Observing a host. -/

/-- The slots that a new observation carries over: those of the same connection that have not run
    out. -/
def carriedSlots (request : WorkerHostRegistration) (old : RegisteredWorkerHost) :
    Result (SortedMap Nat WorkerSlotLease) :=
  if old.connectionGeneration ≠ request.connectionGeneration then .ok .empty
  else if request.observedAt < old.observedAt ∨ old.mailbox ≠ request.mailbox ∨
      old.role ≠ request.role then .error .staleGeneration
  else
    let slots := old.slots.retain (fun lease => decide (request.observedAt < lease.expiresAt))
    if ¬ slots.isEmpty ∧ (old.capabilities ≠ request.capabilities ∨
        (∃ slot ∈ slots.keys, request.maxSlots ≤ slot) ∨
        (∃ lease ∈ slots.values, request.leaseExpiresAt < lease.expiresAt)) then .error .busy
    else .ok slots

def observedHost (request : WorkerHostRegistration) (nextSlotEpoch : Nat)
    (slots : SortedMap Nat WorkerSlotLease) : RegisteredWorkerHost :=
  { hostRef := request.hostRef, mailbox := request.mailbox, role := request.role,
    connectionGeneration := request.connectionGeneration,
    credentialExpiresAt := request.credentialExpiresAt, observedAt := request.observedAt,
    leaseExpiresAt := request.leaseExpiresAt, maxSlots := request.maxSlots,
    capabilities := request.capabilities, nextSlotEpoch, slots }

def observeState (request : WorkerHostRegistration) (state : RegistryState) :
    Result (Outcome RegisteredWorkerHost) :=
  let existing := state.hosts.lookup request.hostRef
  if existing.map RegisteredWorkerHost.connectionGeneration ≠
      request.expectedConnectionGeneration then .error .staleGeneration
  else if existing.isNone ∧ maxRegisteredHosts ≤ state.hosts.size then .error .busy
  else
    match existing with
    | none =>
      let host := observedHost request 0 .empty
      .ok ⟨host, some (state.withHost host)⟩
    | some old => do
      let slots ← carriedSlots request old
      let host := observedHost request old.nextSlotEpoch slots
      .ok ⟨host, some (state.withHost host)⟩

def observeHost (home : Home) (request : WorkerHostRegistration) :
    Result (RegisteredWorkerHost × Home) := do
  request.validate
  transact home (observeState request)

/- Reserving a slot. -/

/-- The text of a fresh lease id. -/
structure LeaseUuid where
  text : String
  valid : identifier text = true

/-- The actor has a slot of a live host already. -/
def occupied (state : RegistryState) (actorId : String) (now : Time) : Bool :=
  state.hosts.values.any (fun host => host.isLive now &&
    host.slots.values.any (fun lease => lease.actorId == actorId && decide (now < lease.expiresAt)))

def newLease (request : HostPlacementRequest) (uuid : LeaseUuid) (hostRef : String)
    (host : RegisteredWorkerHost) (slot epoch : Nat) (expiresAt : Time) : WorkerSlotLease :=
  { leaseId := uuid.text, hostRef, connectionGeneration := host.connectionGeneration, slot, epoch,
    actorId := request.actorId, runId := request.runId, expiresAt }

def RegisteredWorkerHost.lend (host : RegisteredWorkerHost) (slot epoch : Nat)
    (lease : WorkerSlotLease) : RegisteredWorkerHost :=
  { host with nextSlotEpoch := epoch, slots := host.slots.insert slot lease }

def reserveState (request : HostPlacementRequest) (uuid : LeaseUuid) (state : RegistryState) :
    Result (Outcome WorkerSlotLease) :=
  if occupied state request.actorId request.now then .error .busy
  else do
    let selected ← selectWorkerHost state.hosts request
    match selected.firstFreeSlot request.now with
    | none => .error .noEligibleHost
    | some slot =>
      match state.hosts.lookup selected.hostRef with
      | none => .error .corrupt
      | some host => do
        let epoch ← checkedAdd host.nextSlotEpoch
        let expiresAt :=
          min (min request.leaseExpiresAt host.leaseExpiresAt) host.credentialExpiresAt
        if expiresAt ≤ request.now then .error .noEligibleHost
        else
          let lease := newLease request uuid selected.hostRef host slot epoch expiresAt
          .ok ⟨lease, some { state with
            hosts := state.hosts.insert selected.hostRef (host.lend slot epoch lease) }⟩

def reserveSlot (home : Home) (request : HostPlacementRequest) (uuid : LeaseUuid) :
    Result (WorkerSlotLease × Home) := do
  request.validate
  transact home (reserveState request uuid)

/- Using a slot. -/

def current (host : RegisteredWorkerHost) (lease : WorkerSlotLease) (now : Time) : Bool :=
  host.isLive now && host.connectionGeneration == lease.connectionGeneration &&
    host.slots.lookup lease.slot == some lease && decide (now < lease.expiresAt)

def validateState (lease : WorkerSlotLease) (now : Time) (state : RegistryState) :
    Result (Outcome Unit) :=
  match state.hosts.lookup lease.hostRef with
  | none => .error .staleLease
  | some host => if ¬ current host lease now then .error .staleLease else .ok ⟨(), none⟩

def validateSlot (home : Home) (lease : WorkerSlotLease) (now : Time) : Result (Unit × Home) :=
  transact home (validateState lease now)

def renewState (lease : WorkerSlotLease) (now newExpiresAt : Time) (state : RegistryState) :
    Result (Outcome WorkerSlotLease) :=
  match state.hosts.lookup lease.hostRef with
  | none => .error .staleLease
  | some host =>
    if ¬ current host lease now then .error .staleLease
    else if newExpiresAt ≤ lease.expiresAt ∨ minutes 5 < newExpiresAt - now ∨
        host.leaseExpiresAt < newExpiresAt ∨ host.credentialExpiresAt < newExpiresAt then
      .error .invalid
    else
      let renewed := { lease with expiresAt := newExpiresAt }
      .ok ⟨renewed, some { state with
        hosts := state.hosts.insert lease.hostRef
          { host with slots := host.slots.insert renewed.slot renewed } }⟩

def renewSlot (home : Home) (lease : WorkerSlotLease) (now newExpiresAt : Time) :
    Result (WorkerSlotLease × Home) :=
  transact home (renewState lease now newExpiresAt)

def releaseState (lease : WorkerSlotLease) (state : RegistryState) : Result (Outcome Unit) :=
  match state.hosts.lookup lease.hostRef with
  | none => .error .staleLease
  | some host =>
    if host.connectionGeneration ≠ lease.connectionGeneration ∨
        host.slots.lookup lease.slot ≠ some lease then .error .staleLease
    else
      .ok ⟨(), some { state with
        hosts := state.hosts.insert lease.hostRef
          { host with slots := host.slots.erase lease.slot } }⟩

def releaseSlot (home : Home) (lease : WorkerSlotLease) : Result (Unit × Home) :=
  transact home (releaseState lease)

def revokeState (hostRef connectionGeneration : String) (now : Time) (state : RegistryState) :
    Result (Outcome Unit) :=
  match state.hosts.lookup hostRef with
  | none => .error .staleGeneration
  | some host =>
    if host.connectionGeneration ≠ connectionGeneration then .error .staleGeneration
    else
      .ok ⟨(), some { state with
        hosts := state.hosts.insert hostRef
          { host with leaseExpiresAt := min now host.credentialExpiresAt, slots := .empty } }⟩

def revokeHost (home : Home) (hostRef connectionGeneration : String) (now : Time) :
    Result (Unit × Home) :=
  transact home (revokeState hostRef connectionGeneration now)

end Hosts
