import BambooAgent.Actors.Fencing

/- Whether an actor whose last activation is over, or whose lease has run out, can be claimed
   again: what the two files are worth in every run, and what then decides a claim. -/
namespace Actors
open Sessions Transactions Interleavings Checks
open Compression (trim)

/- The two files of an actor in a run. -/

structure Coherent (place : Place) (store : Store) : Prop where
  valid : AllValid store place
  marked : ∀ entry marker, store.record place = some entry →
    store.marker place = some marker → marker = initializedMarker entry.actor
  unmarked : ∀ entry, store.record place = some entry → store.marker place = none → Inert entry
  childProject : place.kind = .child → ∀ entry, store.record place = some entry →
    ∃ version, Reads store place version entry.actor.projectId

theorem coherent_bare (vacant : store.record place = none) : Coherent place store := by
  constructor
  · intro entry held
    rw [vacant] at held
    cases held
  · intro entry marker held
    rw [vacant] at held
    cases held
  · intro entry held
    rw [vacant] at held
    cases held
  · intro _ entry held
    rw [vacant] at held
    cases held

theorem moves_identity (moves : Moves old moved) :
    initializedMarker moved.actor = initializedMarker old.actor ∧
      moved.actor.projectId = old.actor.projectId := by
  cases moves with
  | bound policyRevision placementIntent idle => exact ⟨rfl, rfl⟩
  | claimed claim uuid attempt leaseEpoch next later => exact ⟨rfl, rfl⟩
  | worked a b held active onward same => exact ⟨rfl, rfl⟩
  | ended a b state held onward closed idle => exact ⟨rfl, rfl⟩
  | retired closed => exact ⟨rfl, rfl⟩

theorem recordDeed_identity {written : ActorDirectoryEntry}
    (held : store.record place = some old) (deed : RecordDeed store place written) :
    initializedMarker written.actor = initializedMarker old.actor := by
  cases deed with
  | opened opening =>
    cases opening with
    | created vacant bare sees inert =>
      rw [held] at vacant
      cases vacant
    | observed before there sees observes same =>
      rw [held] at there
      cases there
      rw [same]
      rfl
  | moved before moved there marked sees moves same =>
    rw [held] at there
    cases there
    rw [same]
    exact (moves_identity moves).1
  | revoked before a b there marked attempted onward closed same =>
    rw [held] at there
    cases there
    rw [same]
    rfl

theorem recordDeed_inert {written : ActorDirectoryEntry} (bare : store.marker place = none)
    (inert : ∀ old, store.record place = some old → Inert old)
    (deed : RecordDeed store place written) : Inert written := by
  cases deed with
  | opened opening =>
    cases opening with
    | created vacant bare sees fresh => exact fresh
    | observed old held sees observes same =>
      rw [same]
      exact inert old held
  | moved old moved held marked sees moves same => exact absurd bare marked
  | revoked old a b held marked attempted onward closed same => exact absurd bare marked

theorem recordDeed_project {written : ActorDirectoryEntry}
    (reads : ∀ old, store.record place = some old →
      ∃ version, Reads store place version old.actor.projectId)
    (deed : RecordDeed store place written) :
    ∃ version, Reads store place version written.actor.projectId := by
  cases deed with
  | opened opening =>
    cases opening with
    | created vacant bare sees inert => exact ⟨_, sees.own⟩
    | observed old held sees observes same => exact ⟨_, sees.own⟩
  | moved old moved held marked sees moves same =>
    rw [same]
    change ∃ version, Reads store place version moved.actor.projectId
    rw [(moves_identity moves).2]
    exact reads old held
  | revoked old a b held marked attempted onward closed same =>
    rw [same]
    exact reads old held

theorem coherent_record {written : ActorDirectoryEntry} (coherent : Coherent place store)
    (fine : written.Valid) (deed : RecordDeed store place written) :
    Coherent place (store.write (.record place written)) where
  valid := allValid_write store _ (.record place written fine deed) coherent.valid
  marked := by
    intro entry marker held marks
    rw [write_record_self] at held
    cases held
    change store.marker place = some marker at marks
    cases there : store.record place with
    | none =>
      -- A first record is only made where there is no marker.
      cases deed with
      | opened opening =>
        cases opening with
        | created vacant bare sees inert =>
          rw [bare] at marks
          cases marks
        | observed old held sees observes same =>
          rw [there] at held
          cases held
      | moved old moved held marked sees moves same =>
        rw [there] at held
        cases held
      | revoked old a b held marked attempted onward closed same =>
        rw [there] at held
        cases held
    | some old =>
      rw [recordDeed_identity there deed]
      exact coherent.marked old marker there marks
  unmarked := by
    intro entry held bare
    rw [write_record_self] at held
    cases held
    change store.marker place = none at bare
    exact recordDeed_inert bare (fun old there => coherent.unmarked old there bare) deed
  childProject := by
    intro child entry held
    rw [write_record_self] at held
    cases held
    obtain ⟨version, reads⟩ := recordDeed_project (coherent.childProject child) deed
    exact ⟨version, reads⟩

theorem coherent_session (coherent : Coherent place store)
    (deed : SessionDeed store other session) :
    Coherent place (store.write (.session other session)) where
  valid := coherent.valid
  marked := coherent.marked
  unmarked := coherent.unmarked
  childProject := by
    intro child entry held
    obtain ⟨version, previous, there, _, owned⟩ := coherent.childProject child entry held
    by_cases same : place = other
    · subst same
      refine ⟨session.metadataVersion, session, Function.update_self .., rfl, ?_⟩
      unfold sessionProject at ⊢
      rw [← deed child previous there]
      exact owned
    · exact ⟨previous.metadataVersion, previous,
        (Function.update_of_ne same ..).trans there, rfl, owned⟩

theorem coherent_write (store : Store) (write : Write) (deed : Deed store write)
    (coherent : Coherent place store) : Coherent place (store.write write) := by
  cases deed with
  | record other written fine deed =>
    by_cases same : place = other
    · subst same
      exact coherent_record coherent fine deed
    · have still : (store.write (.record other written)).record place = store.record place :=
        record_elsewhere same
      constructor
      · exact fun entry held => coherent.valid entry (still.symm.trans held)
      · exact fun entry marker held => coherent.marked entry marker (still.symm.trans held)
      · exact fun entry held => coherent.unmarked entry (still.symm.trans held)
      · exact fun child entry held => coherent.childProject child entry (still.symm.trans held)
  | marker other before there bare inert =>
    by_cases same : place = other
    · subst same
      refine ⟨coherent.valid, ?_, ?_, coherent.childProject⟩
      · intro entry marker held marks
        change store.record place = some entry at held
        rw [there] at held
        cases held
        rw [write_marker_self] at marks
        cases marks
        rfl
      · intro entry _ bare
        rw [write_marker_self] at bare
        cases bare
    · have still : (store.write (.marker other (initializedMarker before.actor))).marker place =
          store.marker place := Function.update_of_ne same ..
      refine ⟨coherent.valid, ?_, ?_, coherent.childProject⟩
      · exact fun entry marker held marks =>
          coherent.marked entry marker held (still.symm.trans marks)
      · exact fun entry held bare => coherent.unmarked entry held (still.symm.trans bare)
  | session other session deed => exact coherent_session coherent deed

theorem run_coherent (rules : Rules) (vacant : store.record place = none) (events : List Event) :
    Coherent place (run (step rules) store events) := by
  rw [← moment_last]
  exact moment_keeps coherent_write (coherent_bare vacant) _

/- The check of the observation. -/

theorem lineageChange_total (later : List.Forall₂ SeenLater older newer) :
    ∃ change, lineageChange older newer = .ok change ∧
      (List.Forall₂ AtMostOne older newer → change.gap = false) := by
  induction later with
  | nil => exact ⟨_, rfl, fun _ => rfl⟩
  | @cons previous latest older newer seen _ ih =>
    obtain ⟨change, found, close⟩ := ih
    have fits : ¬ (previous.actorId ≠ latest.actorId ∨
        previous.sessionCreatedAt ≠ latest.sessionCreatedAt ∨
          latest.metadataVersion < previous.metadataVersion) := by
      rintro (other | other | earlier)
      · exact other seen.same
      · exact other seen.birth
      · exact Nat.not_lt_of_le seen.later earlier
    unfold lineageChange
    rw [if_neg fits, found]
    refine ⟨_, rfl, ?_⟩
    intro all
    cases all with
    | cons here rest =>
      unfold AtMostOne at here
      have near : ¬ 2 ≤ latest.metadataVersion - previous.metadataVersion := by omega
      simp [close rest, near]

variable {entry : ActorDirectoryEntry}

theorem observed_total (observes : Observes kind entry.actor expected) :
    ∃ stale, observed kind entry expected = .ok stale := by
  obtain ⟨change, found, close⟩ := lineageChange_total observes.ancestors
  have fixed : ¬ (kind = .child ∧ entry.actor.projectId ≠ expected.projectId) :=
    fun changed => changed.2 (observes.fixed changed.1)
  have forward : ¬ (expected.observedMetadataVersion < entry.actor.observedMetadataVersion ∨
      entry.actor.ancestorObservations.length ≠ expected.ancestorObservations.length) := by
    rintro (back | other)
    · exact Nat.not_lt_of_le observes.own back
    · exact other observes.ancestors.length_eq
  have steady : ¬ (entry.actor.state = .active ∧
      (entry.actor.projectId ≠ expected.projectId ∨
        2 ≤ expected.observedMetadataVersion - entry.actor.observedMetadataVersion ∨
          change.gap = true)) := by
    rintro ⟨active, moved | wide | wide⟩
    · exact moved (observes.steady active).project
    · have := (observes.steady active).own
      omega
    · rw [close (observes.steady active).ancestors] at wide
      cases wide
  unfold observed
  rw [if_neg fixed, if_neg forward, found, ok_bind, if_neg steady]
  exact ⟨_, rfl⟩

/- Records that may be written. -/

def ancestorNames (actor : ActorSession) : List String :=
  actor.ancestorObservations.map ActorAncestorObservation.actorId

theorem placedWell_observing (same : ancestorNames entry.actor = ancestorNames expected) :
    (entry.observing expected).actor.placedWell = entry.actor.placedWell := by
  have long : expected.ancestorObservations.length = entry.actor.ancestorObservations.length := by
    have lengths := congrArg List.length same
    unfold ancestorNames at lengths
    rw [List.length_map, List.length_map] at lengths
    exact lengths.symm
  have first (name : String) : expected.ancestorObservations.head?.any (fun a => a.actorId == name)
      = entry.actor.ancestorObservations.head?.any (fun a => a.actorId == name) := by
    have heads := congrArg (fun names => names.head?.any (fun n => n == name)) same
    simp only [ancestorNames, List.head?_map, Option.any_map] at heads
    exact heads.symm
  have last (name : String) :
      expected.ancestorObservations.getLast?.any (fun a => a.actorId == name) =
        entry.actor.ancestorObservations.getLast?.any (fun a => a.actorId == name) := by
    have lasts := congrArg (fun names => names.getLast?.any (fun n => n == name)) same
    simp only [ancestorNames, List.getLast?_map, Option.any_map] at lasts
    exact lasts.symm
  have empty : expected.ancestorObservations.isEmpty = entry.actor.ancestorObservations.isEmpty := by
    have names := congrArg List.isEmpty same
    simp only [ancestorNames, List.isEmpty_map] at names
    exact names.symm
  unfold ActorDirectoryEntry.observing ActorSession.placedWell
  rw [empty, long, last]
  cases entry.actor.parentActorId with
  | none => rfl
  | some parent =>
    dsimp only
    rw [first]

theorem seenLater_names (later : List.Forall₂ SeenLater older newer) :
    older.map ActorAncestorObservation.actorId = newer.map ActorAncestorObservation.actorId := by
  induction later with
  | nil => rfl
  | cons seen _ ih => rw [List.map_cons, List.map_cons, ih, seen.same]

theorem observes_names (observes : Observes kind old new) :
    ancestorNames old = ancestorNames new := by
  exact seenLater_names observes.ancestors

theorem fits_active {a : ActorActivation} (fits : a.Fits actor) (live : a.status.isLive = true) :
    actor.state = .active := by
  rcases fits.state with state | retired
  · rw [state]
    cases status : a.status with
    | reserved => rfl
    | running => rfl
    | succeeded =>
      rw [status] at live
      cases live
    | failed =>
      rw [status] at live
      cases live
    | cancelled =>
      rw [status] at live
      cases live
  · exact absurd ⟨retired, live⟩ fits.retired

theorem observing_valid (valid : entry.Valid) (observes : Observes kind entry.actor expected)
    (project : expected.projectId.all isProjectId = true) :
    (raised (entry.observing expected)).Valid where
  schema := valid.schema
  revised := Nat.succ_pos _
  actor :=
    { schema := valid.actor.schema
      actorId := valid.actor.actorId
      rootActorId := valid.actor.rootActorId
      project := project
      placed := (placedWell_observing (observes_names observes)).trans valid.actor.placed
      intent := valid.actor.intent }
  attempted := by
    have attempted := valid.attempted
    change Attempted (entry.observing expected).actor entry.activation
    cases held : entry.activation with
    | none =>
      rw [held] at attempted
      exact attempted
    | some a =>
      rw [held] at attempted
      have fits : a.Fits entry.actor := attempted
      have moved : a.status.isLive = true → a.projectId = expected.projectId := fun live =>
        (fits.sameProject live).trans (observes.steady (fits_active fits live)).project
      exact { fits with sameProject := moved }

/- What a claim meets. -/

/-- What the session and its ancestors say now, for the incarnation the record was made for. -/
def durableView (store : Store) (place : Place) (entry : ActorDirectoryEntry) :
    Result ActorSession := do
  let session ← loadDurable store place (.notFound place.id)
  if ¬ entry.actor.matchesSession session then .error .invalidIdentity
  else expectedActor store session (some entry)

structure Durable (store : Store) (actorId : String) (place : Place)
    (entry : ActorDirectoryEntry) (expected : ActorSession) : Prop where
  located : lockActorRuntime store actorId = .ok place
  held : store.record place = some entry
  view : durableView store place entry = .ok expected
  own : entry.actor.observedMetadataVersion ≤ expected.observedMetadataVersion
  ancestors :
    List.Forall₂ SeenLater entry.actor.ancestorObservations expected.ancestorObservations

structure Abandoned (entry : ActorDirectoryEntry) (now : Nat) : Prop where
  unretired : entry.actor.state ≠ .retired
  dead : ∀ a, entry.activation = some a → unexpired a now = false

structure Room (entry : ActorDirectoryEntry) : Prop where
  revision : entry.revision + 1 < u64Max
  attempt : entry.actor.currentAttempt < u64Max
  epoch : ∀ a, entry.activation = some a → a.leaseEpoch < u64Max

structure ActorActivationClaim.Good (claim : ActorActivationClaim) : Prop where
  run : trim claim.runId ≠ ""
  owner : trim claim.leaseOwner ≠ ""
  expiry : claim.now < claim.leaseExpiresAt
  placement : claim.placementRef.all (fun placement => placement.isValid true) = true

/-- The actor is not marked active, or nothing can have been hidden from its record. -/
def Provable (entry : ActorDirectoryEntry) (expected : ActorSession) : Prop :=
  entry.actor.state = .active → Unhidden entry.actor expected

theorem checkedNext_lt (room : value < u64Max) : checkedNext value = .ok (value + 1) := if_pos room

theorem good_validates (good : claim.Good) : validateClaim claim = .ok () := by
  unfold validateClaim
  rw [if_neg]
  rintro (run | owner | expired)
  · exact good.run run
  · exact good.owner owner
  · exact Nat.not_lt_of_le expired good.expiry

theorem attempt_le_epoch (valid : entry.Valid) (unretired : entry.actor.state ≠ .retired) :
    entry.actor.currentAttempt ≤ entry.activation.elim 0 ActorActivation.leaseEpoch := by
  have attempted := valid.attempted
  cases held : entry.activation with
  | none =>
    rw [held] at attempted
    rcases attempted with ⟨never, _⟩ | retired
    · exact le_of_eq never
    · exact absurd retired unretired
  | some a =>
    rw [held] at attempted
    have fits : a.Fits entry.actor := attempted
    rw [← fits.attempt]
    exact fits.epoch

/-- The record with its next activation, as a claim makes it. -/
def claimedEntry (entry : ActorDirectoryEntry) (claim : ActorActivationClaim) (uuid : Uuid) :
    ActorDirectoryEntry :=
  let attempt := entry.actor.currentAttempt + 1
  { entry with
    actor := { entry.actor with currentAttempt := attempt, state := .active },
    activation := some (newActivation entry claim uuid attempt
      (entry.activation.elim 0 ActorActivation.leaseEpoch + 1)) }

theorem claimedEntry_valid (uuid : Uuid) (valid : entry.Valid)
    (unretired : entry.actor.state ≠ .retired) (good : claim.Good) :
    (raised (claimedEntry entry claim uuid)).Valid where
  schema := valid.schema
  revised := Nat.succ_pos _
  actor :=
    { schema := valid.actor.schema
      actorId := valid.actor.actorId
      rootActorId := valid.actor.rootActorId
      project := valid.actor.project
      placed := valid.actor.placed
      intent := valid.actor.intent }
  attempted :=
    { actorId := rfl
      schema := rfl
      attempted := Nat.succ_pos _
      attempt := rfl
      leased := Nat.succ_pos _
      epoch := Nat.succ_le_succ (attempt_le_epoch valid unretired)
      named := uuid.named
      run := good.run
      owner := good.owner
      project := valid.actor.project
      sameProject := fun _ => rfl
      placement := good.placement
      state := .inl rfl
      retired := fun both => nomatch both.1
      finished := rfl
      unstarted := fun _ => rfl
      started := by
        rintro (running | succeeded)
        · cases running
        · cases succeeded }

theorem claimEntry_answers (uuid : Uuid) (good : claim.Good) (abandoned : Abandoned entry claim.now)
    (attempt : entry.actor.currentAttempt < u64Max)
    (epoch : ∀ a, entry.activation = some a → a.leaseEpoch < u64Max) :
    ∃ activation, claimEntry claim uuid entry =
      .ok (.change (claimedEntry entry claim uuid) activation) := by
  have next : ∃ activation, claimNext entry claim uuid =
      .ok (.change (claimedEntry entry claim uuid) activation) := by
    have below : entry.activation.elim 0 ActorActivation.leaseEpoch < u64Max := by
      cases held : entry.activation with
      | none => decide
      | some a => exact epoch a held
    unfold claimNext
    rw [checkedNext_lt attempt, checkedNext_lt below]
    exact ⟨_, rfl⟩
  unfold claimEntry
  rw [good_validates good, if_neg abandoned.unretired]
  cases held : entry.activation with
  | none => exact next
  | some a =>
    dsimp only
    rw [abandoned.dead a held]
    exact next

theorem commit_answers {value : α} (room : entry.revision < u64Max) (valid : (raised entry).Valid) :
    (commitMutation place (.change entry value)).answer = .ok value := by
  have revises : entry.revised = .ok (raised entry) := by
    unfold ActorDirectoryEntry.revised
    rw [checkedNext_lt room]
    rfl
  have writes : (writeActorEntry place (raised entry)).answer = .ok () := by
    unfold writeActorEntry ActorDirectoryEntry.validate
    rw [if_pos valid]
    rfl
  refine (answer_ended (answer_check.trans revises)).trans ?_
  exact (answer_ended writes).trans rfl

/- The transaction. -/

theorem adopt_answers (coherent : Coherent place store) (held : store.record place = some entry) :
    (adoptEntry place expected (some entry) (store.marker place)).answer = .ok entry := by
  cases marks : store.marker place with
  | some marker => rfl
  | none =>
    have inert := coherent.unmarked entry held marks
    have fresh : ¬ (entry.actor.currentAttempt ≠ 0 ∨ entry.actor.state ≠ .cold ∨
        entry.activation.isSome = true) := by
      rintro (attempted | warm | activated)
      · exact attempted inert.1
      · exact warm inert.2.1
      · rw [inert.2.2] at activated
        cases activated
    unfold adoptEntry
    dsimp only
    rw [if_neg fresh]
    rfl

theorem marker_checks (coherent : Coherent place store) (held : store.record place = some entry)
    (same : SameIncarnation entry.actor expected) (named : expected.actorId = place.id) :
    checkedMarker store place expected = .ok (store.marker place) := by
  unfold checkedMarker
  cases marks : store.marker place with
  | none => rfl
  | some marker =>
    have stamp := coherent.marked entry marker held marks
    dsimp only
    rw [if_neg]
    rw [stamp]
    rintro (schema | other | birth)
    · exact schema rfl
    · exact other (same.actorId.trans named)
    · exact birth same.birth

theorem view_eq_ok (view : durableView store place entry = .ok expected) :
    ∃ session, loadDurable store place (.notFound place.id) = .ok session ∧
      entry.actor.matchesSession session = true ∧
      expectedActor store session (some entry) = .ok expected := by
  obtain ⟨session, loaded, view⟩ := bind_eq_ok.1 view
  obtain ⟨fits, view⟩ := unless_eq_ok.1 view
  exact ⟨session, loaded, not_not.1 fits, view⟩

theorem view_expected (view : durableView store place entry = .ok expected) :
    SameIncarnation entry.actor expected ∧ expected.actorId = place.id ∧
      expected.projectId.all isProjectId = true ∧
      ∃ main, store.session place = some main ∧
        sessionProject main = .ok expected.projectId := by
  obtain ⟨session, loaded, fits, expects⟩ := view_eq_ok view
  obtain ⟨actor, made, _, whole⟩ := expectedActor_eq_ok expects
  have same := (matchesSession_iff made).1 fits
  obtain ⟨main, there, read, id, _⟩ := loadDurable_eq_ok loaded
  obtain ⟨parent, project, _, owned, _, _, rfl⟩ := fromSession_eq_ok made
  rw [whole]
  refine ⟨⟨same.schema, same.actorId, same.birth, same.parent, same.root, same.depth⟩, ?_, ?_,
    main, there, ?_⟩
  · rw [read]
    exact id
  · unfold sessionProject at owned
    split at owned
    · cases owned
      rfl
    · split at owned
      · rename_i parses
        cases owned
        exact parses
      · cases owned
  · rw [read] at owned
    exact owned

theorem read_answers (coherent : Coherent place store)
    (durable : Durable store actorId place entry expected) :
    (readOrCreateActorEntry store place).answer = (refreshEntry place expected entry).answer := by
  obtain ⟨session, loaded, fits, expects⟩ := view_eq_ok durable.view
  obtain ⟨same, named, _⟩ := view_expected durable.view
  have existing : existingEntry store place session = .ok (some entry) := by
    unfold existingEntry ActorDirectoryEntry.validate
    rw [durable.held]
    dsimp only
    rw [if_pos (coherent.valid entry durable.held), ok_bind, if_neg (not_not.2 fits)]
  refine (answer_ended (answer_check.trans loaded)).trans ?_
  refine (answer_ended (answer_check.trans existing)).trans ?_
  refine (answer_ended (answer_check.trans expects)).trans ?_
  refine (answer_ended (answer_check.trans
    (marker_checks coherent durable.held same named))).trans ?_
  exact answer_ended (adopt_answers coherent durable.held)

/-- What the refresh makes of a record that passes. -/
def Refreshed (entry fresh : ActorDirectoryEntry) (expected : ActorSession) : Prop :=
  fresh = entry ∨ fresh = raised (entry.observing expected)

theorem refresh_answers (valid : entry.Valid) (observes : Observes place.kind entry.actor expected)
    (project : expected.projectId.all isProjectId = true) (room : entry.revision < u64Max) :
    ∃ fresh, (refreshEntry place expected entry).answer = .ok fresh ∧ fresh.Valid ∧
      Refreshed entry fresh expected := by
  obtain ⟨stale, found⟩ := observed_total observes
  have fine := observing_valid valid observes project
  have revises : (entry.observing expected).revised = .ok (raised (entry.observing expected)) := by
    unfold ActorDirectoryEntry.revised
    rw [show (entry.observing expected).revision = entry.revision from rfl, checkedNext_lt room]
    rfl
  have writes : (writeActorEntry place (raised (entry.observing expected))).answer = .ok () := by
    unfold writeActorEntry ActorDirectoryEntry.validate
    rw [if_pos fine]
    rfl
  cases stale with
  | false =>
    refine ⟨entry, ?_, valid, .inl rfl⟩
    exact (answer_ended (answer_check.trans found)).trans rfl
  | true =>
    refine ⟨raised (entry.observing expected), ?_, fine, .inr rfl⟩
    refine (answer_ended (answer_check.trans found)).trans ?_
    refine (answer_ended (answer_check.trans revises)).trans ?_
    exact (answer_ended writes).trans rfl

theorem durable_observes (coherent : Coherent place store)
    (durable : Durable store actorId place entry expected) (provable : Provable entry expected) :
    Observes place.kind entry.actor expected where
  fixed := by
    intro child
    obtain ⟨_, _, _, main, there, owned⟩ := view_expected durable.view
    obtain ⟨version, previous, before, _, named⟩ :=
      coherent.childProject child entry durable.held
    rw [there] at before
    cases before
    rw [owned] at named
    exact (Except.ok.inj named).symm
  own := durable.own
  ancestors := durable.ancestors
  steady := provable

theorem claim_answers (uuid : Uuid) (coherent : Coherent place store)
    (durable : Durable store claim.actorId place entry expected)
    (abandoned : Abandoned entry claim.now) (room : Room entry) (good : claim.Good) :
    (∃ activation, (claimActivation store claim uuid).answer = .ok activation) ↔
      Provable entry expected := by
  have reads := read_answers coherent durable
  constructor
  · rintro ⟨activation, answered⟩
    obtain ⟨_, _, answered⟩ := answer_bind.1 answered
    obtain ⟨at_, located, answered⟩ := answer_bind.1 answered
    cases durable.located.symm.trans located
    obtain ⟨fresh, read, _⟩ := answer_bind.1 answered
    rw [reads] at read
    obtain ⟨stale, found, _⟩ := answer_bind.1 read
    exact (observed_eq_ok found).1.steady
  · intro provable
    have observes := durable_observes coherent durable provable
    obtain ⟨_, _, project, _⟩ := view_expected durable.view
    obtain ⟨fresh, refreshed, fine, made⟩ :=
      refresh_answers (coherent.valid entry durable.held) observes project (by
        have := room.revision
        omega)
    have still : Abandoned fresh claim.now ∧ fresh.actor.currentAttempt < u64Max ∧
        (∀ a, fresh.activation = some a → a.leaseEpoch < u64Max) ∧
          fresh.revision ≤ entry.revision + 1 := by
      rcases made with rfl | rfl
      · exact ⟨abandoned, room.attempt, room.epoch, Nat.le_succ _⟩
      · exact ⟨⟨abandoned.unretired, abandoned.dead⟩, room.attempt, room.epoch, le_rfl⟩
    obtain ⟨closed, attempt, epoch, near⟩ := still
    obtain ⟨activation, claims⟩ := claimEntry_answers uuid good closed attempt epoch
    refine ⟨activation, ?_⟩
    refine (answer_ended (answer_check.trans (good_validates good))).trans ?_
    refine (answer_ended (answer_check.trans durable.located)).trans ?_
    refine (answer_ended (reads.trans refreshed)).trans ?_
    refine (answer_ended (answer_check.trans claims)).trans ?_
    refine commit_answers ?_ (claimedEntry_valid uuid fine closed.unretired good)
    have := room.revision
    change fresh.revision < u64Max
    omega

def lateClaim : ActorActivationClaim :=
  { hostClaim with leaseOwner := "other", leaseExpiresAt := 30, now := 20 }

def editedAs (version : Nat) : Event :=
  ⟨.save (.root "root") { sampleRoot with title := "New title", metadataVersion := version }, 9⟩

def crashedEntry : ActorDirectoryEntry :=
  { schemaVersion := 2, revision := 2,
    actor :=
      { schemaVersion := 2, actorId := "root", sessionCreatedAt := 0, parentActorId := none,
        rootActorId := "root", projectId := none, observedMetadataVersion := 0,
        ancestorObservations := [], spawnDepth := 0, state := .active, currentAttempt := 1,
        policyRevision := none, placementIntent := none },
    activation := some
      { schemaVersion := 2, actorId := "root", activationId := "a", attempt := 1, runId := "run",
        leaseOwner := "host", leaseEpoch := 1, leaseExpiresAt := 10, projectId := none,
        inboxGeneration := 0, placementRef := none, status := .reserved, checkpointRevision := 0,
        startedAt := none, finishedAt := none } }

def rootViewAt (version : Nat) : ActorSession :=
  { crashedEntry.actor with observedMetadataVersion := version, state := .cold, currentAttempt := 0 }

theorem crashed_abandoned : Abandoned crashedEntry 20 := by
  refine ⟨by decide, fun a held => ?_⟩
  cases held
  rfl

theorem crashed_room : Room crashedEntry := by
  refine ⟨by decide, by decide, fun a held => ?_⟩
  cases held
  decide

theorem lateClaim_good : lateClaim.Good :=
  ⟨by decide +kernel, by decide +kernel, by decide, by decide⟩

theorem edited_durable
    (located : lockActorRuntime (run (step sampleRules) rootStore events) "root" =
      .ok (.root "root"))
    (held : (run (step sampleRules) rootStore events).record (.root "root") = some crashedEntry)
    (view : durableView (run (step sampleRules) rootStore events) (.root "root") crashedEntry =
      .ok (rootViewAt version)) :
    Durable (run (step sampleRules) rootStore events) "root" (.root "root") crashedEntry
      (rootViewAt version) :=
  ⟨located, held, view, Nat.zero_le _, .nil⟩

end Actors
