import BambooAgent.Hosts.Leasing

/- The invariant of a registry's runs: no unexpired lease outlives its host's, every lease is one
   that was answered, and of two leases of one actor at least one has run out. -/
namespace Hosts
open SortedMaps Checks Interleavings List SortedMap Bool

def Held (hosts : HostMap) (hostRef : String) (slot : Nat) (lease : WorkerSlotLease) : Prop :=
  ∃ host, hosts.lookup hostRef = some host ∧ host.slots.lookup slot = some lease

/-- The same lease, perhaps with another expiry. -/
def Renewal (first later : WorkerSlotLease) : Prop :=
  later = { first with expiresAt := later.expiresAt }

def Reserved (c : Chronicle) (lease : WorkerSlotLease) : Prop :=
  ∃ first ∈ c.reserved, Renewal first lease

def After (nows : List Time) (now : Time) : Prop := ∀ past ∈ nows, past ≤ now

/-- Of two leases of one actor in different slots, one has run out for good. -/
def Apart (nows : List Time) (hosts : HostMap) : Prop :=
  ∀ refA slotA a refB slotB b, Held hosts refA slotA a → Held hosts refB slotB b →
    a.actorId = b.actorId → ¬ (refA = refB ∧ slotA = slotB) →
    ∀ now, After nows now → a.expiresAt ≤ now ∨ b.expiresAt ≤ now

structure Orderly (c : Chronicle) (state : RegistryState) : Prop where
  within : ∀ hostRef host slot lease, state.hosts.lookup hostRef = some host →
    host.slots.lookup slot = some lease → lease.expiresAt ≤ host.leaseExpiresAt
  apart : Apart c.nows state.hosts
  known : ∀ hostRef slot lease, Held state.hosts hostRef slot lease → Reserved c lease
  ids : c.reserved.Pairwise (fun a b => a.leaseId ≠ b.leaseId)
  counted : ∀ lease ∈ c.reserved, ∃ host, state.hosts.lookup lease.hostRef = some host ∧
    lease.epoch ≤ host.nextSlotEpoch
  epochs : c.reserved.Pairwise (fun a b => a.hostRef = b.hostRef → a.epoch < b.epoch)
  answered : ∀ lease ∈ c.answered, Reserved c lease
  closed : ∀ lease ∈ c.ended, Reserved c lease
  gone : ∀ lease ∈ c.ended, ∀ hostRef slot other, Held state.hosts hostRef slot other →
    other.leaseId ≠ lease.leaseId

structure Sound (c : Chronicle) : Prop where
  state : ∃ state, readState c.home = .ok state ∧ Orderly c state

theorem renewal_refl (lease : WorkerSlotLease) : Renewal lease lease := rfl

theorem same_of_id (ids : c.reserved.Pairwise (fun a b => a.leaseId ≠ b.leaseId))
    (first : Reserved c a) (second : Reserved c b) (same : a.leaseId = b.leaseId) :
    a.hostRef = b.hostRef ∧ a.connectionGeneration = b.connectionGeneration ∧ a.slot = b.slot := by
  obtain ⟨a', memberA, renewedA⟩ := first
  obtain ⟨b', memberB, renewedB⟩ := second
  have id : a'.leaseId = b'.leaseId := by
    rw [renewedA, renewedB] at same
    exact same
  have equal : a' = b' := by
    by_contra different
    have symm : Std.Symm (fun x y : WorkerSlotLease => x.leaseId ≠ y.leaseId) :=
      ⟨fun _ _ other same => other same.symm⟩
    exact ids.forall memberA memberB different id
  subst equal
  rw [renewedA, renewedB]
  exact ⟨rfl, rfl, rfl⟩

/- Leases that stay. -/

variable {lease : WorkerSlotLease}

section
variable (puts : Puts hosts hosts' hostRef host)
include puts

theorem held_put (held : Held hosts' other slot lease) :
    (other = hostRef ∧ host.slots.lookup slot = some lease) ∨
      (other ≠ hostRef ∧ Held hosts other slot lease) := by
  obtain ⟨found, there, in_⟩ := held
  rw [puts.same] at there
  by_cases same : other = hostRef
  · subst same
    rw [lookup_insert_self] at there
    cases there
    exact .inl ⟨rfl, in_⟩
  · rw [lookup_insert_other _ _ same] at there
    exact .inr ⟨same, found, there, in_⟩

theorem held_kept (keeps : Keeps hosts hostRef host) (held : Held hosts' other slot lease) :
    Held hosts other slot lease := by
  rcases held_put puts held with ⟨rfl, in_⟩ | ⟨_, before⟩
  · obtain ⟨old, there, was, _⟩ := keeps.slots slot lease in_
    exact ⟨old, there, was⟩
  · exact before

theorem counted_put
    (counted : ∃ old, hosts.lookup lease.hostRef = some old ∧ lease.epoch ≤ old.nextSlotEpoch) :
    ∃ new, hosts'.lookup lease.hostRef = some new ∧ lease.epoch ≤ new.nextSlotEpoch := by
  obtain ⟨old, there, epoch⟩ := counted
  rw [puts.same]
  by_cases same : lease.hostRef = hostRef
  · rw [same] at there ⊢
    exact ⟨host, lookup_insert_self .., le_trans epoch (puts.epochs old there)⟩
  · exact ⟨old, (lookup_insert_other _ _ same).trans there, epoch⟩

end

theorem orderly_kept (orderly : Orderly c state) (puts : Puts state.hosts state'.hosts hostRef host)
    (keeps : Keeps state.hosts hostRef host) (known : ∀ lease ∈ closed, Reserved c lease)
    (gone : ∀ lease ∈ closed, ∀ ref slot other, Held state'.hosts ref slot other →
      other.leaseId ≠ lease.leaseId) : Orderly (c.ending home closed) state' where
  within := by
    intro ref found slot lease there held
    rw [puts.same] at there
    by_cases same : ref = hostRef
    · subst same
      rw [lookup_insert_self] at there
      cases there
      obtain ⟨old, before, was, within⟩ := keeps.slots slot lease held
      exact within (orderly.within ref old slot lease before was)
    · rw [lookup_insert_other _ _ same] at there
      exact orderly.within ref found slot lease there held
  apart := fun refA slotA a refB slotB b heldA heldB =>
    orderly.apart refA slotA a refB slotB b (held_kept puts keeps heldA) (held_kept puts keeps heldB)
  known := fun ref slot lease held => orderly.known ref slot lease (held_kept puts keeps held)
  ids := orderly.ids
  counted := fun lease member => counted_put puts (orderly.counted lease member)
  epochs := orderly.epochs
  answered := orderly.answered
  closed := by
    intro lease member
    rcases mem_append.1 member with before | now_
    · exact orderly.closed lease before
    · exact known lease now_
  gone := by
    intro lease member ref slot other held
    rcases mem_append.1 member with before | now_
    · exact orderly.gone lease before ref slot other (held_kept puts keeps held)
    · exact gone lease now_ ref slot other held

/- Leases that are answered. -/

theorem held_insert (puts : Puts hosts hosts' hostRef host)
    (there : hosts.lookup hostRef = some old) (slots : host.slots = old.slots.insert slot new)
    (held : Held hosts' other place lease) :
    (other = hostRef ∧ place = slot ∧ lease = new) ∨
      (¬ (other = hostRef ∧ place = slot) ∧ Held hosts other place lease) := by
  rcases held_put puts held with ⟨rfl, in_⟩ | ⟨different, before⟩
  · rw [slots] at in_
    by_cases same : place = slot
    · subst same
      rw [lookup_insert_self] at in_
      cases in_
      exact .inl ⟨rfl, rfl, rfl⟩
    · rw [lookup_insert_other _ _ same] at in_
      exact .inr ⟨fun both => same both.2, old, there, in_⟩
  · exact .inr ⟨fun both => different both.1, before⟩

theorem within_insert
    (within : ∀ ref found place lease, hosts.lookup ref = some found →
      found.slots.lookup place = some lease → lease.expiresAt ≤ found.leaseExpiresAt)
    (puts : Puts hosts hosts' hostRef host) (there : hosts.lookup hostRef = some old)
    (slots : host.slots = old.slots.insert slot new)
    (same : host.leaseExpiresAt = old.leaseExpiresAt) (fits : new.expiresAt ≤ old.leaseExpiresAt) :
    ∀ ref found place lease, hosts'.lookup ref = some found →
      found.slots.lookup place = some lease → lease.expiresAt ≤ found.leaseExpiresAt := by
  intro ref found place lease here held
  rw [puts.same] at here
  by_cases self : ref = hostRef
  · subst self
    rw [lookup_insert_self] at here
    cases here
    rw [slots] at held
    rw [same]
    by_cases at_ : place = slot
    · subst at_
      rw [lookup_insert_self] at held
      cases held
      exact fits
    · rw [lookup_insert_other _ _ at_] at held
      exact within ref old place lease there held
  · rw [lookup_insert_other _ _ self] at here
    exact within ref found place lease here held

theorem apart_insert (apart : Apart nows hosts) (puts : Puts hosts hosts' hostRef host)
    (there : hosts.lookup hostRef = some old) (slots : host.slots = old.slots.insert slot new)
    (alone : ∀ ref place lease, Held hosts ref place lease → lease.actorId = new.actorId →
      ¬ (ref = hostRef ∧ place = slot) → ∀ now, After nows now → lease.expiresAt ≤ now) :
    Apart nows hosts' := by
  intro refA slotA a refB slotB b heldA heldB same places now after
  rcases held_insert puts there slots heldA with ⟨rfl, rfl, rfl⟩ | ⟨elseA, beforeA⟩
  · rcases held_insert puts there slots heldB with ⟨rfl, rfl, rfl⟩ | ⟨elseB, beforeB⟩
    · exact absurd ⟨rfl, rfl⟩ places
    · exact .inr (alone refB slotB b beforeB same.symm elseB now after)
  · rcases held_insert puts there slots heldB with ⟨rfl, rfl, rfl⟩ | ⟨elseB, beforeB⟩
    · exact .inl (alone refA slotA a beforeA same elseA now after)
    · exact apart refA slotA a refB slotB b beforeA beforeB same places now after

theorem reserved_append (reserved : Reserved c lease) :
    Reserved { c with home, nows, reserved := c.reserved ++ [new], answered } lease := by
  obtain ⟨first, member, renewed⟩ := reserved
  exact ⟨first, mem_append_left _ member, renewed⟩

theorem pairwise_concat {last : α} (pairs : items.Pairwise R) (all : ∀ item ∈ items, R item last) :
    (items ++ [last]).Pairwise R := by
  rw [pairwise_append]
  refine ⟨pairs, pairwise_singleton _ _, fun item member other single => ?_⟩
  cases mem_singleton.1 single
  exact all item member

theorem orderly_nows (orderly : Orderly c state) (times : List Time) :
    Orderly { c with nows := c.nows ++ times } state where
  within := orderly.within
  apart := fun refA slotA a refB slotB b heldA heldB same places now after =>
    orderly.apart refA slotA a refB slotB b heldA heldB same places now
      (fun past member => after past (mem_append_left _ member))
  known := orderly.known
  ids := orderly.ids
  counted := orderly.counted
  epochs := orderly.epochs
  answered := orderly.answered
  closed := orderly.closed
  gone := orderly.gone

theorem reserve_orderly (orderly : Orderly c state)
    (credential : ∀ ref host, state.hosts.lookup ref = some host → HostFits ref host)
    (seen : now ∈ c.nows) (fresh : ∀ other ∈ c.reserved, other.leaseId ≠ lease.leaseId)
    (free : Unoccupied state.hosts lease.actorId now)
    (there : state.hosts.lookup lease.hostRef = some old)
    (epoch : lease.epoch = old.nextSlotEpoch + 1) (fits : lease.expiresAt ≤ old.leaseExpiresAt)
    (puts : Puts state.hosts state'.hosts lease.hostRef (old.lend lease.slot lease.epoch lease)) :
    Orderly { c with
      home, reserved := c.reserved ++ [lease], answered := c.answered ++ [lease] } state' where
  within := within_insert orderly.within puts there rfl rfl fits
  apart := by
    refine apart_insert orderly.apart puts there rfl ?_
    rintro ref place other ⟨host, found, held⟩ same _ later after
    refine le_trans ?_ (after now seen)
    by_contra unexpired
    -- An unexpired lease keeps its host live, where the reservation has looked.
    have bound := orderly.within ref host place other found held
    have live : host.isLive now = true := by
      have open_ : now < host.leaseExpiresAt := lt_of_lt_of_le (not_le.1 unexpired) bound
      have trusted := lt_of_lt_of_le open_ (credential ref host found).credential
      unfold RegisteredWorkerHost.isLive
      rw [and_eq_true, decide_eq_true_eq, decide_eq_true_eq]
      exact ⟨open_, trusted⟩
    exact unexpired (free ref host place other found held same live)
  known := by
    intro ref place other held
    rcases held_insert puts there rfl held with ⟨_, _, rfl⟩ | ⟨_, before⟩
    · exact ⟨other, mem_append_right _ mem_cons_self, renewal_refl other⟩
    · exact reserved_append (orderly.known ref place other before)
  ids := pairwise_concat orderly.ids fresh
  counted := by
    intro other member
    rcases mem_append.1 member with before | now_
    · exact counted_put puts (orderly.counted other before)
    · cases mem_singleton.1 now_
      rw [puts.same]
      exact ⟨_, lookup_insert_self .., le_rfl⟩
  epochs := by
    refine pairwise_concat orderly.epochs (fun other member same => ?_)
    obtain ⟨host, found, bound⟩ := orderly.counted other member
    rw [same] at found
    cases there.symm.trans found
    omega
  answered := by
    intro other member
    rcases mem_append.1 member with before | now_
    · exact reserved_append (orderly.answered other before)
    · cases mem_singleton.1 now_
      exact ⟨lease, mem_append_right _ mem_cons_self, renewal_refl lease⟩
  closed := fun other member => reserved_append (orderly.closed other member)
  gone := by
    intro closed member ref place other held
    rcases held_insert puts there rfl held with ⟨_, _, rfl⟩ | ⟨_, before⟩
    · obtain ⟨first, known, renewed⟩ := orderly.closed closed member
      rw [renewed]
      exact (fresh first known).symm
    · exact orderly.gone closed member ref place other before

theorem renew_orderly (orderly : Orderly c state) (times : ∀ past ∈ c.nows, past ≤ now)
    (seen : now ∈ c.nows) (there : state.hosts.lookup lease.hostRef = some old)
    (held : current old lease now = true) (fits : newExpiresAt ≤ old.leaseExpiresAt)
    (puts : Puts state.hosts state'.hosts lease.hostRef
      { old with slots := old.slots.insert lease.slot { lease with expiresAt := newExpiresAt } }) :
    Orderly { c with
      home, answered := c.answered ++ [{ lease with expiresAt := newExpiresAt }] } state' := by
  obtain ⟨_, _, _, in_, unexpired⟩ := current_iff.1 held
  have holds : Held state.hosts lease.hostRef lease.slot lease := ⟨old, there, in_⟩
  obtain ⟨first, member, renewed⟩ := orderly.known _ _ _ holds
  have again : Renewal first { lease with expiresAt := newExpiresAt } := by
    rw [renewed]
    rfl
  constructor
  · exact within_insert orderly.within puts there rfl rfl fits
  · refine apart_insert orderly.apart puts there rfl ?_
    intro ref place other before same places later after
    refine le_trans ?_ (after now seen)
    rcases orderly.apart ref place other _ _ lease before holds same places now times with
      closed | closed
    · exact closed
    · exact absurd closed (not_le.2 unexpired)
  · intro ref place other held
    rcases held_insert puts there rfl held with ⟨_, _, rfl⟩ | ⟨_, before⟩
    · exact ⟨first, member, again⟩
    · exact orderly.known ref place other before
  · exact orderly.ids
  · exact fun other member => counted_put puts (orderly.counted other member)
  · exact orderly.epochs
  · intro other answered
    rcases mem_append.1 answered with before | now_
    · exact orderly.answered other before
    · cases mem_singleton.1 now_
      exact ⟨first, member, again⟩
  · exact orderly.closed
  · intro closed ended ref place other held
    rcases held_insert puts there rfl held with ⟨_, _, rfl⟩ | ⟨_, before⟩
    · exact orderly.gone closed ended _ _ lease holds
    · exact orderly.gone closed ended ref place other before

/- Every run. -/

theorem sound_start : Sound .start := by
  refine ⟨.new, rfl, ?_⟩
  have none_ : ∀ ref slot lease, ¬ Held RegistryState.new.hosts ref slot lease := by
    rintro ref slot lease ⟨host, there, _⟩
    cases there
  constructor
  · intro ref host slot lease there
    cases there
  · exact fun refA slotA a refB slotB b held => absurd held (none_ refA slotA a)
  · exact fun ref slot lease held => absurd held (none_ ref slot lease)
  · exact .nil
  · exact fun lease member => nomatch member
  · exact .nil
  · exact fun lease member => nomatch member
  · exact fun lease member => nomatch member
  · exact fun lease member => nomatch member

section
variable (sound : Sound c)
include sound

theorem step_observe : Sound (perform c (.observe request)) := by
  unfold perform
  dsimp only
  cases ran : observeHost c.home request with
  | error refused => exact sound
  | ok answer =>
    obtain ⟨host, home⟩ := answer
    obtain ⟨state, read, orderly⟩ := sound.state
    obtain ⟨before, state', read', after, puts, keeps⟩ := observeHost_eq_ok ran
    cases read.symm.trans read'
    refine ⟨state', after, orderly_kept orderly puts keeps ?_ ?_⟩
    · intro lease member
      exact orderly.answered lease (mem_filter.1 member).1
    · intro lease member ref slot other held same
      obtain ⟨answered, old⟩ := mem_filter.1 member
      unfold superseded at old
      simp only [and_eq_true, beq_iff_eq, bne_iff_ne] at old
      have was := orderly.known ref slot other (held_kept puts keeps held)
      obtain ⟨sameHost, sameConnection, _⟩ :=
        same_of_id orderly.ids was (orderly.answered lease answered) same
      obtain ⟨found, there, in_⟩ := held
      have lends := (read_fits after there).lends slot other in_
      have named := (read_fits after there).named
      have here : ref = host.hostRef := by
        rw [named, ← lends.hostRef, sameHost, old.1]
      rw [puts.same, here, lookup_insert_self] at there
      cases there
      exact old.2 (sameConnection.symm.trans lends.generation)

theorem step_release : Sound (perform c (.release lease)) := by
  unfold perform
  dsimp only
  cases ran : releaseSlot c.home lease with
  | error refused => exact sound
  | ok answer =>
    obtain ⟨state, read, orderly⟩ := sound.state
    obtain ⟨before, state', old, host, read', after, there, in_, freed, puts, keeps⟩ :=
      releaseSlot_eq_ok ran
    cases read.symm.trans read'
    have known := orderly.known _ _ lease ⟨old, there, in_⟩
    refine ⟨state', after, orderly_kept orderly puts keeps ?_ ?_⟩
    · intro other member
      cases mem_singleton.1 member
      exact known
    · intro closed member ref slot other held same
      cases mem_singleton.1 member
      have was := orderly.known ref slot other (held_kept puts keeps held)
      obtain ⟨sameHost, _, sameSlot⟩ := same_of_id orderly.ids was known same
      obtain ⟨found, here, left⟩ := held
      have lends := (read_fits after here).lends slot other left
      have named := (read_fits after here).named
      have at_ : ref = lease.hostRef := by
        rw [named, ← lends.hostRef, sameHost]
      rw [puts.same, at_, lookup_insert_self] at here
      cases here
      rw [← lends.slot, sameSlot, freed] at left
      cases left

theorem step_revoke : Sound (perform c (.revoke hostRef connectionGeneration now)) := by
  unfold perform
  dsimp only
  cases ran : revokeHost c.home hostRef connectionGeneration now with
  | error refused => exact sound
  | ok answer =>
    obtain ⟨state, read, orderly⟩ := sound.state
    obtain ⟨before, state', host, read', after, empty, puts, keeps⟩ := revokeHost_eq_ok ran
    cases read.symm.trans read'
    refine ⟨state', after, orderly_kept orderly puts keeps ?_ ?_⟩
    · intro lease member
      exact orderly.answered lease (mem_filter.1 member).1
    · intro lease member ref slot other held same
      obtain ⟨answered, ofHost⟩ := mem_filter.1 member
      unfold ofConnection at ofHost
      simp only [and_eq_true, beq_iff_eq] at ofHost
      have was := orderly.known ref slot other (held_kept puts keeps held)
      obtain ⟨sameHost, _⟩ := same_of_id orderly.ids was (orderly.answered lease answered) same
      obtain ⟨found, there, in_⟩ := held
      have lends := (read_fits after there).lends slot other in_
      have named := (read_fits after there).named
      have here : ref = hostRef := by
        rw [named, ← lends.hostRef, sameHost, ofHost.1]
      rw [puts.same, here, lookup_insert_self] at there
      cases there
      rw [empty] at in_
      cases in_

theorem step_reserve (timely : Timely c (.reserve request uuid)) :
    Sound (step c (.reserve request uuid)) := by
  obtain ⟨state, read, orderly⟩ := sound.state
  have timed := orderly_nows orderly [request.now]
  unfold step perform
  dsimp only
  cases ran : reserveSlot c.home request uuid with
  | error refused => exact ⟨state, read, timed⟩
  | ok answer =>
    obtain ⟨lease, home⟩ := answer
    obtain ⟨before, state', old, read', after, free, there, id, actor, epoch, fits, puts⟩ :=
      reserveSlot_eq_ok ran
    cases read.symm.trans read'
    have fresh : ∀ other ∈ c.reserved, other.leaseId ≠ lease.leaseId := by
      rw [id]
      exact timely.fresh uuid.text rfl
    rw [← actor] at free
    exact ⟨state', after, reserve_orderly timed (fun _ _ found => read_fits read found)
      (mem_append_right _ mem_cons_self) fresh free there epoch fits puts⟩

theorem step_renew (timely : Timely c (.renew lease now newExpiresAt)) :
    Sound (step c (.renew lease now newExpiresAt)) := by
  obtain ⟨state, read, orderly⟩ := sound.state
  have timed := orderly_nows orderly [now]
  unfold step perform
  dsimp only
  cases ran : renewSlot c.home lease now newExpiresAt with
  | error refused => exact ⟨state, read, timed⟩
  | ok answer =>
    obtain ⟨renewed, home⟩ := answer
    obtain ⟨before, state', old, read', after, same, there, held, fits, puts⟩ :=
      renewSlot_eq_ok ran
    cases read.symm.trans read'
    subst same
    have times : ∀ past ∈ c.nows ++ [now], past ≤ now := by
      intro past member
      rcases mem_append.1 member with earlier | now_
      · exact timely.later now rfl past earlier
      · rw [mem_singleton.1 now_]
    exact ⟨state', after, renew_orderly timed times (mem_append_right _ mem_cons_self)
      there held fits puts⟩

theorem sound_nows (times : List Time) : Sound { c with nows := c.nows ++ times } := by
  obtain ⟨state, read, orderly⟩ := sound.state
  exact ⟨state, read, orderly_nows orderly times⟩

end

theorem perform_nows (c : Chronicle) (act : Act) : (perform c act).nows = c.nows := by
  cases act with
  | observe request =>
    unfold perform
    dsimp only
    split
    · rfl
    · rfl
  | reserve request uuid =>
    unfold perform
    dsimp only
    split
    · rfl
    · rfl
  | validate lease now => rfl
  | renew lease now newExpiresAt =>
    unfold perform
    dsimp only
    split
    · rfl
    · rfl
  | release lease =>
    unfold perform
    dsimp only
    split
    · rfl
    · rfl
  | revoke hostRef connectionGeneration now =>
    unfold perform
    dsimp only
    split
    · rfl
    · rfl

theorem step_of_perform (sound : Sound (perform c act)) : Sound (step c act) := by
  have timed := sound_nows sound act.now.toList
  rw [perform_nows] at timed
  exact timed

theorem step_sound (c : Chronicle) (act : Act) (timely : Timely c act) (sound : Sound c) :
    Sound (step c act) := by
  cases act with
  | observe request => exact step_of_perform (step_observe sound)
  | reserve request uuid => exact step_reserve sound timely
  | validate lease now => exact step_of_perform sound
  | renew lease now newExpiresAt => exact step_renew sound timely
  | release lease => exact step_of_perform (step_release sound)
  | revoke hostRef connectionGeneration now => exact step_of_perform (step_revoke sound)

theorem run_sound (timely : Along step Timely .start acts) : Sound (run step .start acts) :=
  along_keeps step_sound acts timely sound_start

/- What it means for the leases that are accepted. -/

theorem accepted_iff (read : readState home = .ok state) :
    Accepted home lease now ↔ ∃ host, state.hosts.lookup lease.hostRef = some host ∧
      current host lease now = true := by
  unfold Accepted validateSlot transact validateState
  rw [read, ok_bind]
  cases there : state.hosts.lookup lease.hostRef with
  | none =>
    constructor
    · intro impossible
      cases impossible
    · rintro ⟨_, impossible, _⟩
      cases impossible
  | some host =>
    dsimp only
    by_cases held : current host lease now = true
    · rw [if_neg (not_not.2 held)]
      exact ⟨fun _ => ⟨host, rfl, held⟩, fun _ => rfl⟩
    · rw [if_pos held]
      constructor
      · intro impossible
        cases impossible
      · rintro ⟨_, same, other⟩
        cases same
        exact absurd other held

theorem accepted_held (read : readState home = .ok state) (accepted : Accepted home lease now) :
    Held state.hosts lease.hostRef lease.slot lease ∧ now < lease.expiresAt := by
  obtain ⟨host, there, held⟩ := (accepted_iff read).1 accepted
  obtain ⟨_, _, _, in_, unexpired⟩ := current_iff.1 held
  exact ⟨⟨host, there, in_⟩, unexpired⟩

theorem length_le_slots {leases : List WorkerSlotLease} (distinct : leases.Nodup)
    (own : ∀ a ∈ leases, ∀ b ∈ leases, a.slot = b.slot → a = b)
    (below : ∀ lease ∈ leases, lease.slot < bound) : leases.length ≤ bound := by
  have nodup : (leases.map WorkerSlotLease.slot).Nodup := distinct.map_on own
  have inside : leases.map WorkerSlotLease.slot ⊆ List.range bound := by
    intro slot member
    obtain ⟨lease, there, rfl⟩ := mem_map.1 member
    exact mem_range.2 (below lease there)
  have bounded := (nodup.subperm inside).length_le
  rw [length_map, length_range] at bounded
  exact bounded

theorem leasing_of_sound (sound : Sound c) : Leasing c := by
  obtain ⟨state, read, orderly⟩ := sound.state
  constructor
  · rw [read]
    rfl
  · intro found held
    rcases readState_eq_ok read with ⟨empty, _⟩ | ⟨same, valid, _⟩
    · rw [empty] at held
      cases held
    · cases same.symm.trans held
      exact valid
  · intro now after a b acceptedA acceptedB different
    obtain ⟨heldA, unexpiredA⟩ := accepted_held read acceptedA
    obtain ⟨heldB, unexpiredB⟩ := accepted_held read acceptedB
    have places : ¬ (a.hostRef = b.hostRef ∧ a.slot = b.slot) := by
      rintro ⟨sameHost, sameSlot⟩
      obtain ⟨host, there, in_⟩ := heldA
      obtain ⟨other, here, held⟩ := heldB
      rw [sameHost] at there
      cases there.symm.trans here
      rw [sameSlot] at in_
      cases in_.symm.trans held
      exact different rfl
    refine ⟨fun same => ?_, fun same => places (Prod.mk.inj same)⟩
    rcases orderly.apart _ _ a _ _ b heldA heldB same places now after with closed | closed
    · exact absurd closed (not_le.2 unexpiredA)
    · exact absurd closed (not_le.2 unexpiredB)
  · intro found held hostRef host there now leases distinct accepted
    have same : found = state := by
      rcases readState_eq_ok read with ⟨empty, _⟩ | ⟨same, _⟩
      · rw [empty] at held
        cases held
      · exact Option.some.inj (held.symm.trans same)
    subst same
    have slots : ∀ lease ∈ leases, host.slots.lookup lease.slot = some lease := by
      intro lease member
      obtain ⟨valid, named⟩ := accepted lease member
      obtain ⟨⟨other, here, in_⟩, _⟩ := accepted_held read valid
      rw [named] at here
      cases here.symm.trans there
      exact in_
    refine length_le_slots distinct ?_ ?_
    · intro a memberA b memberB same
      have slotA := slots a memberA
      rw [same, slots b memberB] at slotA
      exact (Option.some.inj slotA).symm
    · exact fun lease member =>
        ((read_fits read there).lends lease.slot lease (slots lease member)).within
  · intro hostRef
    rw [pairwise_map]
    refine List.Pairwise.imp_of_mem ?_ (orderly.epochs.filter _)
    intro a b memberA memberB later
    have hostA := of_decide_eq_true (mem_filter.1 memberA).2
    have hostB := of_decide_eq_true (mem_filter.1 memberB).2
    exact later (hostA.trans hostB.symm)
  · intro lease member other now same accepted
    obtain ⟨held, _⟩ := accepted_held read accepted
    exact orderly.gone lease member _ _ other held same

/-- However hosts come, go and reconnect, slots are leased exclusively. -/
theorem slots_leased_exclusively (acts : List Act) (timely : Along step Timely .start acts) :
    Leasing (run step .start acts) :=
  leasing_of_sound (run_sound timely)

/- A host of two slots that lends one, loses its connection and lends it again. -/

def sampleCapabilities : WorkerHostCapabilities :=
  { placementClass := .remote, projectIds := .empty, allowUnscopedProject := true,
    trustZone := "zone", workspaceLabels := .empty, executors := .ofList ["shell"], tools := .empty,
    networkZones := .empty, networkIsolation := false }

def sampleRegistration (generation : String) (expected : Option String) (at_ : Time) :
    WorkerHostRegistration :=
  { hostRef := "host", mailbox := "box", role := none, connectionGeneration := generation,
    credentialExpiresAt := minutes 10, observedAt := at_, leaseExpiresAt := at_ + minutes 2,
    expectedConnectionGeneration := expected, maxSlots := 2, capabilities := sampleCapabilities }

def samplePlacement (actorId : String) (now : Time) : HostPlacementRequest :=
  { intent := .auto, actorId, runId := "run", projectId := none, trustZone := "zone",
    workspaceLabel := none, executor := "shell", requiredTools := .empty, networkZone := none,
    requireNetworkIsolation := false, preferredHostRef := none, now,
    leaseExpiresAt := now + minutes 1 }

def sampleActs : List Act :=
  [.observe (sampleRegistration "first" none 0),
    .reserve (samplePlacement "actor" 1) ⟨"lease-1", by decide +kernel⟩,
    .observe (sampleRegistration "second" (some "first") 2),
    .reserve (samplePlacement "actor" 3) ⟨"lease-2", by decide +kernel⟩]

theorem sample_leased :
    (run step .start sampleActs).ended.map WorkerSlotLease.leaseId = ["lease-1"] ∧
      (run step .start sampleActs).reserved.map WorkerSlotLease.epoch = [1, 2] ∧
      Leasing (run step .start sampleActs) :=
  ⟨by decide +kernel, by decide +kernel, slots_leased_exclusively sampleActs (by decide +kernel)⟩

end Hosts
