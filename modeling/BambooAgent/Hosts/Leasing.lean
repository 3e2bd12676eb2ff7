import BambooAgent.Hosts.Registry
import BambooAgent.Library.Interleavings

/- Runs of registry transactions, and what the registry has answered along them: a slot and an
   actor have one lease at a time, and a lease that is over stays over. -/
namespace Hosts
open SortedMaps Checks Interleavings SortedMap
open Actors (u64Max)

/- Runs. -/

inductive Act where
  | observe (request : WorkerHostRegistration)
  | reserve (request : HostPlacementRequest) (uuid : LeaseUuid)
  | validate (lease : WorkerSlotLease) (now : Time)
  | renew (lease : WorkerSlotLease) (now newExpiresAt : Time)
  | release (lease : WorkerSlotLease)
  | revoke (hostRef connectionGeneration : String) (now : Time)

def Act.now : Act → Option Time
  | .observe _ | .release _ => none
  | .reserve request _ => some request.now
  | .validate _ now | .renew _ now _ | .revoke _ _ now => some now

def Act.leaseId : Act → Option String
  | .reserve _ uuid => some uuid.text
  | _ => none

/-- The files, the times of all acts, the leases answered by reservations and by reservations and
    renewals together, and the leases that an accepted act has ended. -/
structure Chronicle where
  home : Home
  nows : List Time
  reserved : List WorkerSlotLease
  answered : List WorkerSlotLease
  ended : List WorkerSlotLease

def Chronicle.start : Chronicle :=
  { home := { marker := none, record := none }, nows := [], reserved := [], answered := [],
    ended := [] }

def Chronicle.ending (c : Chronicle) (home : Home) (closed : List WorkerSlotLease) : Chronicle :=
  { c with home, ended := c.ended ++ closed }

def superseded (hostRef connectionGeneration : String) (lease : WorkerSlotLease) : Bool :=
  lease.hostRef == hostRef && lease.connectionGeneration != connectionGeneration

def ofConnection (hostRef connectionGeneration : String) (lease : WorkerSlotLease) : Bool :=
  lease.hostRef == hostRef && lease.connectionGeneration == connectionGeneration

def perform (c : Chronicle) : Act → Chronicle
  | .observe request =>
    match observeHost c.home request with
    | .error _ => c
    | .ok (host, home) =>
      c.ending home (c.answered.filter (superseded host.hostRef host.connectionGeneration))
  | .reserve request uuid =>
    match reserveSlot c.home request uuid with
    | .error _ => c
    | .ok (lease, home) =>
      { c with home, reserved := c.reserved ++ [lease], answered := c.answered ++ [lease] }
  | .validate _ _ => c
  | .renew lease now newExpiresAt =>
    match renewSlot c.home lease now newExpiresAt with
    | .error _ => c
    | .ok (renewed, home) => { c with home, answered := c.answered ++ [renewed] }
  | .release lease =>
    match releaseSlot c.home lease with
    | .error _ => c
    | .ok (_, home) => c.ending home [lease]
  | .revoke hostRef connectionGeneration now =>
    match revokeHost c.home hostRef connectionGeneration now with
    | .error _ => c
    | .ok (_, home) => c.ending home (c.answered.filter (ofConnection hostRef connectionGeneration))

def step (c : Chronicle) (act : Act) : Chronicle :=
  { perform c act with nows := c.nows ++ act.now.toList }

/-- The act does not go back in time, and makes up a new lease id. -/
@[mk_iff]
structure Timely (c : Chronicle) (act : Act) : Prop where
  later : ∀ now ∈ act.now, ∀ past ∈ c.nows, past ≤ now
  fresh : ∀ id ∈ act.leaseId, ∀ lease ∈ c.reserved, lease.leaseId ≠ id

instance (c : Chronicle) (act : Act) : Decidable (Timely c act) :=
  decidable_of_iff _ (timely_iff c act).symm

def Accepted (home : Home) (lease : WorkerSlotLease) (now : Time) : Prop :=
  isOk (validateSlot home lease now) = true

/-- What holds of a registry and its answers. -/
structure Leasing (c : Chronicle) : Prop where
  readable : isOk (readState c.home) = true
  valid : ∀ state ∈ c.home.record, state.validate = .ok ()
  exclusive : ∀ now, (∀ past ∈ c.nows, past ≤ now) → ∀ a b, Accepted c.home a now →
    Accepted c.home b now → a ≠ b → a.actorId ≠ b.actorId ∧ (a.hostRef, a.slot) ≠ (b.hostRef, b.slot)
  capacity : ∀ state ∈ c.home.record, ∀ hostRef, ∀ host ∈ state.hosts.lookup hostRef, ∀ now,
    ∀ leases : List WorkerSlotLease, leases.Nodup → (∀ lease ∈ leases, Accepted c.home lease now ∧ lease.hostRef = hostRef) →
    leases.length ≤ host.maxSlots
  epochs : ∀ hostRef, ((c.reserved.filter (fun lease => lease.hostRef = hostRef)).map
    WorkerSlotLease.epoch).Pairwise (· < ·)
  ended : ∀ lease ∈ c.ended, ∀ other now, other.leaseId = lease.leaseId →
    ¬ Accepted c.home other now

/- The file. -/

abbrev HostMap := SortedMap String RegisteredWorkerHost

structure HostFits (hostRef : String) (host : RegisteredWorkerHost) : Prop where
  named : hostRef = host.hostRef
  credential : host.leaseExpiresAt ≤ host.credentialExpiresAt
  lends : ∀ slot lease, host.slots.lookup slot = some lease → host.Lends slot lease

variable {host : RegisteredWorkerHost}

theorem host_validates (valid : isOk host.validate = true) :
    host.leaseExpiresAt ≤ host.credentialExpiresAt ∧
      ∀ slot lease, host.slots.lookup slot = some lease → host.Lends slot lease := by
  cases ran : host.validate with
  | error refused =>
    rw [ran] at valid
    cases valid
  | ok _ =>
    obtain ⟨_, _, ran⟩ := bind_eq_ok.1 ran
    obtain ⟨fits, _⟩ := unless_eq_ok.1 ran
    simp only [not_or, not_not] at fits
    obtain ⟨_, _, _, _, _, _, credential, lends⟩ := fits
    exact ⟨not_lt.1 credential, fun slot lease held =>
      lends (slot, lease) (mem_entries.2 held)⟩

variable {state : RegistryState}

theorem state_validates (valid : state.validate = .ok ())
    (held : state.hosts.lookup hostRef = some host) : HostFits hostRef host := by
  obtain ⟨fits, _⟩ := unless_eq_ok.1 valid
  simp only [not_or, not_not] at fits
  obtain ⟨named, fine⟩ := fits.2.2.2 (hostRef, host) (mem_entries.2 held)
  obtain ⟨credential, lends⟩ := host_validates fine
  exact ⟨named, credential, lends⟩

theorem readState_eq_ok (read : readState home = .ok state) :
    (home.record = none ∧ state = .new ∧ home.marker = none) ∨
      (home.record = some state ∧ state.validate = .ok () ∧ home.marker = some markerBytes) := by
  unfold readState at read
  cases marked : home.marker with
  | none =>
    cases held : home.record with
    | none =>
      rw [marked, held] at read
      cases read
      exact .inl ⟨rfl, rfl, rfl⟩
    | some record =>
      rw [marked, held] at read
      cases read
  | some marker =>
    cases held : home.record with
    | none =>
      rw [marked, held] at read
      cases read
    | some record =>
      rw [marked, held] at read
      obtain ⟨same, read⟩ := unless_eq_ok.1 read
      obtain ⟨_, valid, read⟩ := bind_eq_ok.1 read
      cases read
      rw [not_not.1 same]
      exact .inr ⟨rfl, valid, rfl⟩

theorem read_fits (read : readState home = .ok state)
    (held : state.hosts.lookup hostRef = some host) : HostFits hostRef host := by
  rcases readState_eq_ok read with ⟨_, rfl, _⟩ | ⟨_, valid, _⟩
  · cases held
  · exact state_validates valid held

theorem read_published (read : readState home = .ok old) (valid : state.validate = .ok ()) :
    readState (publishState home state) = .ok state := by
  have marked : home.marker.getD markerBytes = markerBytes := by
    rcases readState_eq_ok read with ⟨_, _, marker⟩ | ⟨_, _, marker⟩
    · rw [marker]
      rfl
    · rw [marker]
      rfl
  unfold readState publishState
  dsimp only
  rw [if_neg (not_not.2 marked), valid]
  rfl

theorem transact_eq_ok {value : α} (accepted : transact home operation = .ok (value, home')) :
    ∃ state outcome, readState home = .ok state ∧ operation state = .ok outcome ∧
      value = outcome.value ∧
      ((outcome.changed = none ∧ home' = home) ∨
        ∃ changed state', outcome.changed = some changed ∧ readState home' = .ok state' ∧
          state'.hosts = changed.hosts) := by
  obtain ⟨state, read, accepted⟩ := bind_eq_ok.1 accepted
  obtain ⟨outcome, ran, accepted⟩ := bind_eq_ok.1 accepted
  cases made : outcome.changed with
  | none =>
    rw [made] at accepted
    cases accepted
    exact ⟨state, outcome, read, ran, rfl, .inl ⟨made, rfl⟩⟩
  | some changed =>
    rw [made] at accepted
    obtain ⟨revision, _, accepted⟩ := bind_eq_ok.1 accepted
    obtain ⟨_, valid, accepted⟩ := bind_eq_ok.1 accepted
    cases accepted
    exact ⟨state, outcome, read, ran, rfl,
      .inr ⟨changed, { changed with revision }, made, read_published read valid, rfl⟩⟩

/- The operations. -/

structure Puts (hosts hosts' : HostMap) (hostRef : String) (host : RegisteredWorkerHost) : Prop where
  same : hosts' = hosts.insert hostRef host
  epochs : ∀ old, hosts.lookup hostRef = some old → old.nextSlotEpoch ≤ host.nextSlotEpoch

/-- The host keeps some of its leases, none beyond its own lease. -/
structure Keeps (hosts : HostMap) (hostRef : String) (host : RegisteredWorkerHost) : Prop where
  slots : ∀ slot lease, host.slots.lookup slot = some lease →
    ∃ old, hosts.lookup hostRef = some old ∧ old.slots.lookup slot = some lease ∧
      (lease.expiresAt ≤ old.leaseExpiresAt → lease.expiresAt ≤ host.leaseExpiresAt)

theorem carriedSlots_eq_ok (carried : carriedSlots request old = .ok slots)
    (held : slots.lookup slot = some lease) :
    old.slots.lookup slot = some lease ∧ lease.expiresAt ≤ request.leaseExpiresAt := by
  unfold carriedSlots at carried
  split at carried
  · cases carried
    cases held
  · obtain ⟨_, carried⟩ := unless_eq_ok.1 carried
    obtain ⟨free, carried⟩ := unless_eq_ok.1 carried
    cases carried
    obtain ⟨there, _⟩ := lookup_retain.1 held
    refine ⟨there, not_lt.1 (fun beyond => free ⟨?_, ?_⟩)⟩
    · intro empty
      have member := mem_entries.2 held
      rw [List.isEmpty_iff.1 empty] at member
      cases member
    · exact .inr (.inr ⟨lease, mem_values.2 ⟨slot, held⟩, beyond⟩)

theorem observeHost_eq_ok (accepted : observeHost home request = .ok (host, home')) :
    ∃ state state', readState home = .ok state ∧ readState home' = .ok state' ∧
      Puts state.hosts state'.hosts host.hostRef host ∧ Keeps state.hosts host.hostRef host := by
  obtain ⟨_, _, accepted⟩ := bind_eq_ok.1 accepted
  obtain ⟨state, outcome, read, ran, same, moved⟩ := transact_eq_ok accepted
  obtain ⟨_, ran⟩ := unless_eq_ok.1 ran
  obtain ⟨_, ran⟩ := unless_eq_ok.1 ran
  cases there : state.hosts.lookup request.hostRef with
  | none =>
    rw [there] at ran
    cases ran
    rcases moved with ⟨impossible, _⟩ | ⟨changed, state', made, read', hosts⟩
    · cases impossible
    · cases made
      subst same
      refine ⟨state, state', read, read', ⟨hosts, ?_⟩, ⟨?_⟩⟩
      · intro old before
        cases there.symm.trans before
      · intro slot lease held
        cases held
  | some old =>
    rw [there] at ran
    obtain ⟨slots, carried, ran⟩ := bind_eq_ok.1 ran
    cases ran
    rcases moved with ⟨impossible, _⟩ | ⟨changed, state', made, read', hosts⟩
    · cases impossible
    · cases made
      subst same
      refine ⟨state, state', read, read', ⟨hosts, ?_⟩, ⟨?_⟩⟩
      · intro before held
        cases there.symm.trans held
        exact le_rfl
      · intro slot lease held
        obtain ⟨before, within⟩ := carriedSlots_eq_ok carried held
        exact ⟨old, there, before, fun _ => within⟩

theorem releaseSlot_eq_ok (accepted : releaseSlot home lease = .ok (answer, home')) :
    ∃ state state' old host, readState home = .ok state ∧ readState home' = .ok state' ∧
      state.hosts.lookup lease.hostRef = some old ∧ old.slots.lookup lease.slot = some lease ∧
      host.slots.lookup lease.slot = none ∧
      Puts state.hosts state'.hosts lease.hostRef host ∧ Keeps state.hosts lease.hostRef host := by
  obtain ⟨state, outcome, read, ran, _, moved⟩ := transact_eq_ok accepted
  unfold releaseState at ran
  cases there : state.hosts.lookup lease.hostRef with
  | none =>
    rw [there] at ran
    cases ran
  | some old =>
    rw [there] at ran
    obtain ⟨fits, ran⟩ := unless_eq_ok.1 ran
    obtain ⟨_, held⟩ := not_or.1 fits
    cases ran
    rcases moved with ⟨impossible, _⟩ | ⟨changed, state', made, read', hosts⟩
    · cases impossible
    · cases made
      refine ⟨state, state', old, _, read, read', there, not_not.1 held, ?_, ⟨hosts, ?_⟩, ⟨?_⟩⟩
      · rw [lookup_erase, if_pos rfl]
      · intro before same
        cases there.symm.trans same
        exact le_rfl
      · intro slot other left
        rw [lookup_erase] at left
        split at left
        · cases left
        · exact ⟨old, there, left, fun within => within⟩

theorem revokeHost_eq_ok
    (accepted : revokeHost home hostRef connectionGeneration now = .ok (answer, home')) :
    ∃ state state' host, readState home = .ok state ∧ readState home' = .ok state' ∧
      host.slots = .empty ∧ Puts state.hosts state'.hosts hostRef host ∧
      Keeps state.hosts hostRef host := by
  obtain ⟨state, outcome, read, ran, _, moved⟩ := transact_eq_ok accepted
  unfold revokeState at ran
  cases there : state.hosts.lookup hostRef with
  | none =>
    rw [there] at ran
    cases ran
  | some old =>
    rw [there] at ran
    obtain ⟨_, ran⟩ := unless_eq_ok.1 ran
    cases ran
    rcases moved with ⟨impossible, _⟩ | ⟨changed, state', made, read', hosts⟩
    · cases impossible
    · cases made
      refine ⟨state, state', _, read, read', ?_, ⟨hosts, ?_⟩, ⟨?_⟩⟩
      · rfl
      · intro before same
        cases there.symm.trans same
        exact le_rfl
      · intro slot other left
        cases left

theorem current_iff :
    current host lease now = true ↔ now < host.leaseExpiresAt ∧ now < host.credentialExpiresAt ∧
      host.connectionGeneration = lease.connectionGeneration ∧
      host.slots.lookup lease.slot = some lease ∧ now < lease.expiresAt := by
  unfold current RegisteredWorkerHost.isLive
  simp only [Bool.and_eq_true, decide_eq_true_eq, beq_iff_eq, and_assoc]

theorem renewSlot_eq_ok (accepted : renewSlot home lease now newExpiresAt = .ok (renewed, home')) :
    ∃ state state' old, readState home = .ok state ∧ readState home' = .ok state' ∧
      renewed = { lease with expiresAt := newExpiresAt } ∧
      state.hosts.lookup lease.hostRef = some old ∧ current old lease now = true ∧
      newExpiresAt ≤ old.leaseExpiresAt ∧
      Puts state.hosts state'.hosts lease.hostRef
        { old with slots := old.slots.insert lease.slot renewed } := by
  obtain ⟨state, outcome, read, ran, same, moved⟩ := transact_eq_ok accepted
  unfold renewState at ran
  cases there : state.hosts.lookup lease.hostRef with
  | none =>
    rw [there] at ran
    cases ran
  | some old =>
    rw [there] at ran
    obtain ⟨now_, ran⟩ := unless_eq_ok.1 ran
    obtain ⟨fits, ran⟩ := unless_eq_ok.1 ran
    obtain ⟨_, fits⟩ := not_or.1 fits
    obtain ⟨_, fits⟩ := not_or.1 fits
    cases ran
    rcases moved with ⟨impossible, _⟩ | ⟨changed, state', made, read', hosts⟩
    · cases impossible
    · cases made
      subst same
      refine ⟨state, state', old, read, read', rfl, there, not_not.1 now_,
        not_lt.1 (not_or.1 fits).1, hosts, ?_⟩
      intro before same
      cases there.symm.trans same
      exact le_rfl

/-- No lease of the actor is unexpired on a live host. -/
def Unoccupied (hosts : HostMap) (actorId : String) (now : Time) : Prop :=
  ∀ hostRef host slot lease, hosts.lookup hostRef = some host →
    host.slots.lookup slot = some lease → lease.actorId = actorId → host.isLive now = true →
    lease.expiresAt ≤ now

theorem occupied_eq_false (free : ¬ occupied state actorId now = true) :
    Unoccupied state.hosts actorId now := by
  intro hostRef host slot lease there held same live
  by_contra unexpired
  apply free
  unfold occupied
  rw [List.any_eq_true]
  refine ⟨host, mem_values.2 ⟨hostRef, there⟩, ?_⟩
  rw [live, Bool.true_and, List.any_eq_true]
  refine ⟨lease, mem_values.2 ⟨slot, held⟩, ?_⟩
  simp only [same, beq_self_eq_true, Bool.true_and, decide_eq_true_eq]
  exact not_le.1 unexpired

theorem checkedAdd_eq_ok (found : checkedAdd value = .ok next) : next = value + 1 := by
  unfold checkedAdd at found
  split at found
  · cases found
    rfl
  · cases found

theorem reserveSlot_eq_ok (accepted : reserveSlot home request uuid = .ok (lease, home')) :
    ∃ state state' old, readState home = .ok state ∧ readState home' = .ok state' ∧
      Unoccupied state.hosts request.actorId request.now ∧
      state.hosts.lookup lease.hostRef = some old ∧ lease.leaseId = uuid.text ∧
      lease.actorId = request.actorId ∧ lease.epoch = old.nextSlotEpoch + 1 ∧
      lease.expiresAt ≤ old.leaseExpiresAt ∧
      Puts state.hosts state'.hosts lease.hostRef (old.lend lease.slot lease.epoch lease) := by
  obtain ⟨_, _, accepted⟩ := bind_eq_ok.1 accepted
  obtain ⟨state, outcome, read, ran, same, moved⟩ := transact_eq_ok accepted
  obtain ⟨free, ran⟩ := unless_eq_ok.1 ran
  obtain ⟨selected, _, ran⟩ := bind_eq_ok.1 ran
  cases freed : selected.firstFreeSlot request.now with
  | none =>
    rw [freed] at ran
    cases ran
  | some slot =>
    cases there : state.hosts.lookup selected.hostRef with
    | none =>
      simp only [freed, there] at ran
      cases ran
    | some old =>
      simp only [freed, there] at ran
      obtain ⟨epoch, next, ran⟩ := bind_eq_ok.1 ran
      obtain ⟨_, ran⟩ := unless_eq_ok.1 ran
      cases ran
      rcases moved with ⟨impossible, _⟩ | ⟨changed, state', made, read', hosts⟩
      · cases impossible
      · cases made
        subst same
        refine ⟨state, state', old, read, read', occupied_eq_false free, there, rfl, rfl,
          checkedAdd_eq_ok next, ?_, hosts, ?_⟩
        · exact le_trans (min_le_left _ _) (min_le_right _ _)
        · intro before same
          cases there.symm.trans same
          have later := checkedAdd_eq_ok next
          change old.nextSlotEpoch ≤ epoch
          omega

end Hosts
