import BambooAgent.Actors.Views

/- What each durable write may do to the store: the one inversion for all acts, from which every
   invariant is a case analysis. -/
namespace Actors
open Sessions Transactions Interleavings Checks

/-- The later state of the same activation; one that is live has been live all along. -/
structure Continues (a b : ActorActivation) : Prop where
  schema : b.schemaVersion = a.schemaVersion
  actorId : b.actorId = a.actorId
  activationId : b.activationId = a.activationId
  attempt : b.attempt = a.attempt
  run : b.runId = a.runId
  owner : b.leaseOwner = a.leaseOwner
  project : b.projectId = a.projectId
  epoch : a.leaseEpoch ≤ b.leaseEpoch
  live : b.status.isLive = true → a.status.isLive = true

theorem continues_refl (a : ActorActivation) : Continues a a :=
  ⟨rfl, rfl, rfl, rfl, rfl, rfl, rfl, le_rfl, fun live => live⟩

theorem continues_trans (first : Continues a b)
    (second : Continues b c) : Continues a c where
  schema := second.schema.trans first.schema
  actorId := second.actorId.trans first.actorId
  activationId := second.activationId.trans first.activationId
  attempt := second.attempt.trans first.attempt
  run := second.run.trans first.run
  owner := second.owner.trans first.owner
  project := second.project.trans first.project
  epoch := le_trans first.epoch second.epoch
  live := fun live => first.live (second.live live)

def inState (entry : ActorDirectoryEntry) (state : ActorLogicalState) : ActorDirectoryEntry :=
  { entry with actor := { entry.actor with state } }

/-- What an operation may make of a record, its revision apart. -/
inductive Moves (entry : ActorDirectoryEntry) : ActorDirectoryEntry → Prop
  | bound (policyRevision : Option Nat) (placementIntent : Option ActorPlacementIntent)
      (idle : entry.actor.state ≠ .active) :
      Moves entry { entry with actor := { entry.actor with policyRevision, placementIntent } }
  | claimed (claim : ActorActivationClaim) (uuid : Uuid) (attempt leaseEpoch : Nat)
      (next : attempt = entry.actor.currentAttempt + 1)
      (later : leaseEpoch = entry.activation.elim 0 ActorActivation.leaseEpoch + 1) :
      Moves entry
        { entry with
          actor := { entry.actor with currentAttempt := attempt, state := .active },
          activation := some (newActivation entry claim uuid attempt leaseEpoch) }
  | worked (a b : ActorActivation) (held : entry.activation = some a)
      (active : entry.actor.state = .active) (onward : Continues a b) (same : b.fence = a.fence) :
      Moves entry (entry.activated b)
  | ended (a b : ActorActivation) (state : ActorLogicalState) (held : entry.activation = some a)
      (onward : Continues a b) (closed : b.status.isLive = false) (idle : state ≠ .active) :
      Moves entry ((inState entry state).activated b)
  | retired (closed : ∀ a, entry.activation = some a → a.status.isLive = false) :
      Moves entry (inState entry .retired)

def raised (entry : ActorDirectoryEntry) : ActorDirectoryEntry :=
  { entry with revision := entry.revision + 1 }

theorem checkedNext_eq_ok (found : checkedNext value = .ok next) :
    next = value + 1 := by
  unfold checkedNext at found
  split at found
  · cases found
    rfl
  · cases found

variable {entry : ActorDirectoryEntry}

theorem revised_eq_ok (found : entry.revised = .ok written) :
    written = raised entry := by
  obtain ⟨revision, next, found⟩ := bind_eq_ok.1 found
  cases checkedNext_eq_ok next
  cases found
  rfl

theorem validate_eq_ok (found : entry.validate = .ok ()) : entry.Valid := by
  unfold ActorDirectoryEntry.validate at found
  by_cases valid : entry.Valid
  · exact valid
  · rw [if_neg valid] at found
    cases found

/- The operations. -/

/-- What an operation changes, it changes by one of these moves. -/
def OnlyMoves (operation : ActorDirectoryEntry → Result (Mutation α)) : Prop :=
  ∀ entry mutation, operation entry = .ok mutation → mutation.changed = true →
    Moves entry mutation.entry

theorem onlyMoves_ensure :
    OnlyMoves (fun entry => .ok (Mutation.keep entry entry)) := by
  intro entry mutation done changed
  cases done
  cases changed

theorem onlyMoves_bind (binding : ActorControlPlaneBinding) : OnlyMoves (bindEntry binding) := by
  intro entry mutation done changed
  unfold bindEntry at done
  dsimp only at done
  split at done
  · cases done
    cases changed
  · obtain ⟨_, done⟩ := unless_eq_ok.1 done
    obtain ⟨_, done⟩ := unless_eq_ok.1 done
    obtain ⟨idle, done⟩ := unless_eq_ok.1 done
    obtain ⟨returned, _, done⟩ := bind_eq_ok.1 done
    cases done
    exact .bound _ _ (not_or.1 idle).1

theorem claimNext_moves (done : claimNext entry claim uuid = .ok mutation) :
    Moves entry mutation.entry := by
  obtain ⟨attempt, next, done⟩ := bind_eq_ok.1 done
  obtain ⟨leaseEpoch, later, done⟩ := bind_eq_ok.1 done
  cases done
  exact .claimed claim uuid attempt leaseEpoch (checkedNext_eq_ok next) (checkedNext_eq_ok later)

theorem onlyMoves_claim (claim : ActorActivationClaim) (uuid : Uuid) :
    OnlyMoves (claimEntry claim uuid) := by
  intro entry mutation done changed
  obtain ⟨_, _, done⟩ := bind_eq_ok.1 done
  obtain ⟨_, done⟩ := unless_eq_ok.1 done
  cases held : entry.activation with
  | none =>
    rw [held] at done
    exact claimNext_moves done
  | some active =>
    rw [held] at done
    dsimp only at done
    split at done
    · split at done
      · cases done
        cases changed
      · cases done
    · exact claimNext_moves done

theorem currentLive_eq_ok (found : currentLive entry fence now = .ok activation) :
    entry.activation = some activation ∧ entry.actor.state = .active ∧
      activation.status.isLive = true ∧ activation.fence = fence ∧
      now < activation.leaseExpiresAt := by
  unfold currentLive at found
  cases held : entry.activation with
  | none =>
    rw [held] at found
    cases found
  | some a =>
    rw [held] at found
    obtain ⟨fits, found⟩ := unless_eq_ok.1 found
    cases found
    obtain ⟨state, fits⟩ := not_or.1 fits
    obtain ⟨live, fits⟩ := not_or.1 fits
    obtain ⟨expired, same⟩ := not_or.1 fits
    exact ⟨rfl, not_not.1 state, eq_true_of_ne_false live, not_not.1 same,
      Nat.lt_of_not_le expired⟩

variable (fence : ActorActivationFence) (now : Nat)

theorem onlyMoves_start : OnlyMoves (startEntry fence now) := by
  intro entry mutation done changed
  obtain ⟨a, live, done⟩ := bind_eq_ok.1 done
  obtain ⟨held, active, lives, _⟩ := currentLive_eq_ok live
  split at done
  · cases done
    cases changed
  · cases done
    exact .worked a _ held active
      ⟨rfl, rfl, rfl, rfl, rfl, rfl, rfl, le_rfl, fun _ => lives⟩ rfl

theorem onlyMoves_renew (leaseExpiresAt : Nat) :
    OnlyMoves (renewEntry fence now leaseExpiresAt) := by
  intro entry mutation done changed
  unfold renewEntry at done
  cases held : entry.activation with
  | none =>
    rw [held] at done
    cases done
  | some a =>
    rw [held] at done
    obtain ⟨fits, done⟩ := unless_eq_ok.1 done
    obtain ⟨_, done⟩ := unless_eq_ok.1 done
    cases done
    exact .worked a _ held (not_not.1 (not_or.1 fits).1)
      ⟨rfl, rfl, rfl, rfl, rfl, rfl, rfl, le_rfl, fun live => live⟩ rfl

theorem onlyMoves_checkpoint (expected : Nat) : OnlyMoves (checkpointEntry fence now expected) := by
  intro entry mutation done changed
  obtain ⟨a, live, done⟩ := bind_eq_ok.1 done
  obtain ⟨held, active, _⟩ := currentLive_eq_ok live
  obtain ⟨_, done⟩ := unless_eq_ok.1 done
  obtain ⟨_, done⟩ := unless_eq_ok.1 done
  obtain ⟨next, _, done⟩ := bind_eq_ok.1 done
  cases done
  exact .worked a _ held active
    ⟨rfl, rfl, rfl, rfl, rfl, rfl, rfl, le_rfl, fun live => live⟩ rfl

theorem finishStatus_over (outcome : ActorActivationFinish) :
    (finishStatus outcome).isLive = false := by
  cases outcome with
  | succeeded => rfl
  | failed => rfl
  | cancelled => rfl

theorem onlyMoves_finish (outcome : ActorActivationFinish) :
    OnlyMoves (finishEntry fence now outcome) := by
  intro entry mutation done changed
  unfold finishEntry at done
  cases already : finishedAlready entry fence outcome with
  | some activation =>
    rw [already] at done
    cases done
    cases changed
  | none =>
    rw [already] at done
    obtain ⟨a, live, done⟩ := bind_eq_ok.1 done
    obtain ⟨held, _, lives, _⟩ := currentLive_eq_ok live
    obtain ⟨_, done⟩ := unless_eq_ok.1 done
    cases done
    refine .ended a { a with status := finishStatus outcome, finishedAt := some now }
      (if outcome = .failed then .failed else .cold) held ?_ (finishStatus_over outcome) ?_
    · exact ⟨rfl, rfl, rfl, rfl, rfl, rfl, rfl, le_rfl, fun _ => lives⟩
    · split
      · decide
      · decide

theorem onlyMoves_validate :
    OnlyMoves (fun entry => do
      let _ ← currentLive entry fence now
      .ok (Mutation.keep entry ())) := by
  intro entry mutation done changed
  obtain ⟨a, _, done⟩ := bind_eq_ok.1 done
  cases done
  cases changed

theorem revoke_eq_ok {now : Nat} (live : activation.status.isLive = true)
    (found : revoke activation now = .ok revoked) :
    Continues activation revoked ∧ revoked.status.isLive = false := by
  unfold revoke at found
  rw [if_pos live] at found
  obtain ⟨leaseEpoch, next, found⟩ := bind_eq_ok.1 found
  cases checkedNext_eq_ok next
  cases found
  exact ⟨⟨rfl, rfl, rfl, rfl, rfl, rfl, rfl, Nat.le_succ _, fun _ => live⟩, rfl⟩

theorem retiring_moves {now : Nat} (found : entry.retiring now = .ok retired) :
    Moves entry retired := by
  obtain ⟨activation, revoked, found⟩ := bind_eq_ok.1 found
  cases found
  cases held : entry.activation with
  | none =>
    rw [held] at revoked
    cases revoked
    have still : Moves entry (inState entry .retired) :=
      .retired (fun a other => by rw [held] at other; cases other)
    unfold inState at still
    rwa [held] at still
  | some a =>
    rw [held] at revoked
    obtain ⟨b, closed, revoked⟩ := bind_eq_ok.1 revoked
    cases revoked
    by_cases live : a.status.isLive = true
    · obtain ⟨onward, ended⟩ := revoke_eq_ok live closed
      exact .ended a b .retired held onward ended (by decide)
    · unfold revoke at closed
      rw [if_neg live] at closed
      cases closed
      have still : Moves entry (inState entry .retired) :=
        .retired (fun c other => by
          rw [held] at other
          cases other
          exact eq_false_of_ne_true live)
      unfold inState at still
      rwa [held] at still

theorem onlyMoves_retire : OnlyMoves (retireEntry now) := by
  intro entry mutation done changed
  unfold retireEntry at done
  split at done
  · cases done
    cases changed
  · obtain ⟨retired, retires, done⟩ := bind_eq_ok.1 done
    obtain ⟨returned, _, done⟩ := bind_eq_ok.1 done
    cases done
    exact retiring_moves retires

theorem onlyMoves_retireIf : OnlyMoves (retireIfEntry fence now) := by
  intro entry mutation done changed
  unfold retireIfEntry at done
  split at done
  · cases done
    cases changed
  · obtain ⟨retired, retires, done⟩ := bind_eq_ok.1 done
    cases done
    exact retiring_moves retires

/- The writes. -/

def Inert (entry : ActorDirectoryEntry) : Prop :=
  entry.actor.currentAttempt = 0 ∧ entry.actor.state = .cold ∧ entry.activation = none

/-- What reading a record may write: the first one, or what was observed since. -/
inductive Opening (store : Store) (place : Place) (written : ActorDirectoryEntry) : Prop
  | created (vacant : store.record place = none) (bare : store.marker place = none)
      (sees : Sees store place written.actor) (inert : Inert written)
  | observed (old : ActorDirectoryEntry) (held : store.record place = some old)
      (sees : Sees store place written.actor)
      (observes : Observes place.kind old.actor written.actor)
      (same : written = raised (old.observing written.actor))

inductive RecordDeed (store : Store) (place : Place) (written : ActorDirectoryEntry) : Prop
  | opened (opening : Opening store place written)
  | moved (old moved : ActorDirectoryEntry) (held : store.record place = some old)
      (marked : store.marker place ≠ none) (sees : Sees store place old.actor)
      (moves : Moves old moved) (same : written = raised moved)
  | revoked (old : ActorDirectoryEntry) (a b : ActorActivation)
      (held : store.record place = some old) (marked : store.marker place ≠ none)
      (attempted : old.activation = some a) (onward : Continues a b)
      (closed : b.status.isLive = false)
      (same : written = raised ((inState old .cold).activated b))

/-- A child's project stays what it was saved with first. -/
def SessionDeed (store : Store) (place : Place) (session : Session) : Prop :=
  place.kind = .child → ∀ previous, store.session place = some previous →
    previous.projectIdMeta = session.projectIdMeta

inductive Deed (store : Store) : Write → Prop
  | record (place : Place) (written : ActorDirectoryEntry) (valid : written.Valid)
      (deed : RecordDeed store place written) : Deed store (.record place written)
  | marker (place : Place) (entry : ActorDirectoryEntry)
      (held : store.record place = some entry) (bare : store.marker place = none)
      (inert : Inert entry) :
      Deed store (.marker place (initializedMarker entry.actor))
  | session (place : Place) (session : Session) (deed : SessionDeed store place session) :
      Deed store (.session place session)

inductive Opened (store : Store) : Write → Prop
  | record (place : Place) (written : ActorDirectoryEntry) (valid : written.Valid)
      (opening : Opening store place written) : Opened store (.record place written)
  | marker (place : Place) (entry : ActorDirectoryEntry)
      (held : store.record place = some entry) (bare : store.marker place = none)
      (inert : Inert entry) :
      Opened store (.marker place (initializedMarker entry.actor))

theorem deed_of_opened (store : Store) (write : Write) (opened : Opened store write) :
    Deed store write := by
  cases opened with
  | record place written valid opening => exact .record place written valid (.opened opening)
  | marker place entry held bare inert => exact .marker place entry held bare inert

/- Transactions. -/

/-- Where a transaction may go on with a record. -/
structure Ready (store : Store) (place : Place) (entry : ActorDirectoryEntry) : Prop where
  held : store.record place = some entry
  marked : store.marker place ≠ none
  sees : Sees store place entry.actor

theorem write_record_self (store : Store) (place : Place) (entry : ActorDirectoryEntry) :
    (store.write (.record place entry)).record place = some entry :=
  Function.update_self ..

theorem write_marker_self (store : Store) (place : Place) (marker : ActorInitializedMarker) :
    (store.write (.marker place marker)).marker place = some marker :=
  Function.update_self ..

theorem sees_of_sessions (same : store'.session = store.session)
    (sees : Sees store place actor) : Sees store' place actor := by
  refine ⟨?_, fun ancestor member => ?_⟩
  · unfold Reads
    rw [same]
    exact sees.own
  · unfold Reads
    rw [same]
    exact sees.ancestors ancestor member

theorem keeps_checked {result : Result α} {f : α → Transacted β}
    (rest : ∀ a, result = .ok a → Keeps Store.write C store (f a) R) :
    Keeps Store.write C store (Transaction.check result >>= f) R := by
  refine keeps_bind (keeps_check (Q := fun a s' => result = .ok a ∧ s' = store)
    (fun a same => ⟨same, rfl⟩)) ?_
  rintro a s' _ ⟨same, rfl⟩
  exact rest a same

theorem writeActorEntry_keeps (allowed : entry.Valid → C store (.record place entry))
    (after : Q () (store.write (.record place entry))) :
    Keeps Store.write C store (writeActorEntry place entry) Q := by
  refine keeps_checked (fun _ valid => ?_)
  exact keeps_put (allowed (validate_eq_ok valid)) after

theorem refreshEntry_keeps (held : store.record place = some entry)
    (marked : store.marker place ≠ none) (root : entry.actor.rootActorId = expected.rootActorId)
    (sees : Sees store place expected) :
    Keeps Store.write Opened store (refreshEntry place expected entry)
      (fun fresh s' => Ready s' place fresh) := by
  have view := sees_observing root sees
  refine keeps_checked (fun stale found => ?_)
  obtain ⟨observes, still⟩ := observed_eq_ok found
  cases stale with
  | false =>
    rw [still rfl] at view
    exact keeps_pure ⟨held, marked, view⟩
  | true =>
    refine keeps_checked (fun refreshed revises => ?_)
    cases revised_eq_ok revises
    have moved : Observes place.kind entry.actor (raised (entry.observing expected)).actor :=
      ⟨observes.fixed, observes.own, observes.ancestors, fun active =>
        ⟨(observes.steady active).project, (observes.steady active).own,
          (observes.steady active).ancestors⟩⟩
    have seen : Sees (store.write (.record place (raised (entry.observing expected)))) place
        (raised (entry.observing expected)).actor := by
      have same : (store.write (.record place (raised (entry.observing expected)))).session =
        store.session := rfl
      exact sees_of_sessions same view
    refine keeps_bind (writeActorEntry_keeps
      (Q := fun _ s' => Ready s' place (raised (entry.observing expected)))
      (fun valid => .record place _ valid (.observed entry held view moved rfl))
      ⟨write_record_self .., marked, seen⟩) ?_
    exact fun _ s' _ ready => keeps_pure ready

theorem adoptEntry_keeps (recorded : existing = store.record place)
    (marks : marker = store.marker place)
    (same : ∀ entry, existing = some entry → SameIncarnation entry.actor expected)
    (new : Inert (ActorDirectoryEntry.new expected)) (sees : Sees store place expected) :
    Keeps Store.write Opened store (adoptEntry place expected existing marker)
      (fun entry s' => s'.record place = some entry ∧ s'.marker place ≠ none ∧
        s'.session = store.session ∧ entry.actor.rootActorId = expected.rootActorId) := by
  cases existing with
  | some entry =>
    have incarnation := same entry rfl
    cases marker with
    | some marker =>
      refine keeps_pure ⟨recorded.symm, ?_, rfl, incarnation.root⟩
      rw [← marks]
      simp
    | none =>
      simp only [adoptEntry]
      split
      · exact keeps_check (fun _ impossible => nomatch impossible)
      · rename_i fresh
        have inert : Inert entry := by
          obtain ⟨attempt, rest⟩ := not_or.1 fresh
          obtain ⟨state, activation⟩ := not_or.1 rest
          exact ⟨not_not.1 attempt, not_not.1 state, by simpa using activation⟩
        have stamp : initializedMarker expected = initializedMarker entry.actor := by
          unfold initializedMarker
          rw [incarnation.actorId, incarnation.birth]
        rw [stamp]
        refine keeps_bind (keeps_put (Q := fun _ (s' : Store) => s'.record place = some entry ∧
          s'.marker place ≠ none ∧ s'.session = store.session)
          (.marker place entry recorded.symm marks.symm inert) ⟨recorded.symm, ?_, rfl⟩) ?_
        · rw [write_marker_self]
          simp
        · exact fun _ s' _ left => keeps_pure ⟨left.1, left.2.1, left.2.2, incarnation.root⟩
  | none =>
    cases marker with
    | some marker => exact keeps_check (fun _ impossible => nomatch impossible)
    | none =>
      refine keeps_bind (writeActorEntry_keeps (Q := fun _ (s' : Store) =>
        s'.record place = some (ActorDirectoryEntry.new expected) ∧ s'.marker place = none ∧
          s'.session = store.session)
        (fun valid => .record place _ valid
          (.created recorded.symm marks.symm ⟨sees.own, sees.ancestors⟩ new))
        ⟨write_record_self .., marks.symm, rfl⟩) ?_
      intro _ s' _ left
      refine keeps_bind (keeps_put (Q := fun _ (s'' : Store) =>
        s''.record place = some (ActorDirectoryEntry.new expected) ∧ s''.marker place ≠ none ∧
          s''.session = store.session)
        (.marker place (ActorDirectoryEntry.new expected) left.1 left.2.1 new)
        ⟨left.1, ?_, left.2.2⟩) ?_
      · rw [write_marker_self]
        simp
      · exact fun _ s'' _ both => keeps_pure ⟨both.1, both.2.1, both.2.2, rfl⟩

theorem checkedMarker_eq_ok
    (found : checkedMarker store place expected = .ok marker) : marker = store.marker place := by
  unfold checkedMarker at found
  cases held : store.marker place with
  | none =>
    rw [held] at found
    cases found
    rfl
  | some there =>
    rw [held] at found
    obtain ⟨_, found⟩ := unless_eq_ok.1 found
    cases found
    rfl

theorem expectedActor_inert (expects : expectedActor store session existing = .ok expected) :
    Inert (ActorDirectoryEntry.new expected) := by
  obtain ⟨actor, made, _, whole⟩ := expectedActor_eq_ok expects
  obtain ⟨_, _, _, _, _, _, rfl⟩ := fromSession_eq_ok made
  rw [whole]
  exact ⟨rfl, rfl, rfl⟩

theorem readOrCreate_keeps (store : Store) (place : Place) :
    Keeps Store.write Opened store (readOrCreateActorEntry store place)
      (fun entry s' => Ready s' place entry) := by
  refine keeps_checked (fun session loaded => ?_)
  refine keeps_checked (fun existing exists_ => ?_)
  refine keeps_checked (fun expected expects => ?_)
  refine keeps_checked (fun marker marks => ?_)
  obtain ⟨recorded, same⟩ := existing_same exists_ expects
  have sees := expectedActor_sees loaded expects
  refine keeps_bind (adoptEntry_keeps recorded (checkedMarker_eq_ok marks)
    (fun entry held => (same entry held).2) (expectedActor_inert expects) sees) ?_
  rintro entry s' _ ⟨held, marked, sessions, root⟩
  exact refreshEntry_keeps held marked root (sees_of_sessions sessions sees)

section Rule
variable {operation : ActorDirectoryEntry → Result (Mutation α)}

/-- What a condition asks of an operation, for all writes of its transaction to meet it. -/
structure Permits (C : Store → Write → Prop)
    (operation : ActorDirectoryEntry → Result (Mutation α)) : Prop where
  opened : ∀ s write, Opened s write → C s write
  moved : ∀ s place entry mutation, Ready s place entry → operation entry = .ok mutation →
    mutation.changed = true → (raised mutation.entry).Valid →
    C s (.record place (raised mutation.entry))

theorem opening_keeps (permits : Permits C operation) {t : Transacted ActorDirectoryEntry}
    (opens : Keeps Store.write Opened store t (fun entry s' => Ready s' place entry)) :
    Keeps Store.write C store (do
      let entry ← t
      let mutation ← Transaction.check (operation entry)
      commitMutation place mutation) (fun _ _ => True) := by
  refine keeps_bind (keeps_mono opens permits.opened (fun _ _ ready => ready)) ?_
  intro entry s' _ ready
  refine keeps_checked (fun mutation done => ?_)
  unfold commitMutation
  split
  · rename_i changed
    refine keeps_checked (fun written revises => ?_)
    cases revised_eq_ok revises
    exact keeps_bind (writeActorEntry_keeps (Q := fun _ _ => True)
      (permits.moved s' place entry mutation ready done changed) trivial)
      (fun _ _ _ _ => keeps_pure trivial)
  · exact keeps_pure trivial

theorem actorTransaction_keeps (permits : Permits C operation) (store : Store)
    (actorId : String) :
    Keeps Store.write C store (actorTransaction store actorId operation) (fun _ _ => True) := by
  refine keeps_checked (fun place _ => ?_)
  exact opening_keeps permits (readOrCreate_keeps store place)

theorem permits_deeds (moves : OnlyMoves operation) : Permits Deed operation where
  opened := deed_of_opened
  moved := fun _ place entry mutation ready done changed valid =>
    .record place _ valid (.moved entry mutation.entry ready.held ready.marked ready.sees
      (moves entry mutation done changed) rfl)

end Rule

end Actors
