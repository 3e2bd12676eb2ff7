import BambooAgent.Actors.Fencing

/- A project that goes away and comes back between two reads. The directory samples versions; a
   live fence is accepted only while no session of its lineage can have left the project. -/
namespace Actors
open Sessions Transactions Interleavings Checks

/- Saves that no version hides. -/

/-- The save does not lower the version, and raises it when it changes the project. -/
def FairSave (store : Store) (place : Place) (session : Session) : Prop :=
  ∀ previous, store.session place = some previous →
    previous.metadataVersion ≤ session.metadataVersion ∧
      (sessionProject previous ≠ sessionProject session →
        previous.metadataVersion < session.metadataVersion)

def FairWrite (store : Store) : Write → Prop
  | .session place session => FairSave store place session
  | .record _ _ | .marker _ _ => True

def FairEvent (store : Store) (event : Event) : Prop :=
  match event.act with
  | .save place session => FairSave store place session
  | _ => True

def NoSession (_ : Store) (write : Write) : Prop := ∀ place session, write ≠ .session place session

theorem permits_noSession :
    Permits NoSession operation where
  opened := by
    intro s write opened place session same
    cases opened with
    | record other written valid opening => cases same
    | marker other entry held bare inert => cases same
  moved := fun s place entry mutation _ _ _ _ other session same => nomatch same

theorem rows_noSession (rows : Rows store places writes) :
    ∀ write ∈ writes, ∀ s, NoSession s write := by
  induction rows with
  | nil => exact fun write member => nomatch member
  | skip rest ih => exact ih
  | cons row rest ih =>
    intro write member
    rcases List.mem_cons.1 member with rfl | later
    · cases row with
      | row written valid deed => exact fun s place session same => nomatch same
    · exact ih write later

theorem fair_of_noSession (store : Store) (write : Write) (none_ : NoSession store write) :
    FairWrite store write := by
  cases write with
  | session place session => exact absurd rfl (none_ place session)
  | record place entry => exact trivial
  | marker place marker => exact trivial

theorem savePresentation_fair (store : Store) (place : Place) (children : List String)
    (change : Presentation) (updatedAt : Nat) :
    Along Store.write FairWrite store
      (savePresentation store place children change updatedAt).writes := by
  have keeps : Keeps Store.write FairWrite store
      (savePresentation store place children change updatedAt) (fun _ _ => True) := by
    refine keeps_checked (fun previous loaded => ?_)
    refine keeps_checked (fun ordinary _ => ?_)
    refine keeps_checked (fun incoming made => ?_)
    refine keeps_checked (fun rows found => ?_)
    obtain ⟨next, same⟩ := presented_eq_ok made
    obtain ⟨main, there, whole, named, _⟩ := loadDurable_eq_ok loaded
    refine keeps_bind (keeps_put (Q := fun _ _ => True) ?_ trivial) ?_
    · intro before held
      rw [there] at held
      cases held
      have version : previous.metadataVersion = main.metadataVersion := by rw [whole]
      have project : previous.projectIdMeta = main.projectIdMeta := by
        rw [whole]
        rfl
      refine ⟨by omega, fun changed => absurd ?_ changed⟩
      unfold sessionProject
      rw [same, project]
    · intro _ s' _ _
      refine ⟨?_, fun _ _ => trivial⟩
      cases ordinary with
      | false =>
        cases found
        exact trivial
      | true =>
        have id : previous.id = place.id := by
          rw [whole]
          exact named
        rw [id] at found
        have rows_ := carryRows_rows ⟨main, there, by rw [whole], by rw [whole]; rfl⟩ next same
          treePlaces_rootId found
        exact along_of_forall (fun write member s =>
          fair_of_noSession s write (rows_noSession rows_ write member s))
  exact keeps.along

theorem transaction_fair (rules : Rules) (fair : FairEvent store event) :
    Along Store.write FairWrite store (transaction rules store event.act).writes := by
  obtain ⟨act, writes⟩ := event
  have quiet : ∀ {t : Transacted Unit}, Keeps Store.write NoSession store t (fun _ _ => True) →
      Along Store.write FairWrite store t.writes :=
    fun keeps => along_mono fair_of_noSession _ keeps.along
  cases act with
  | ensure actorId => exact quiet (done_keeps (actorTransaction_keeps permits_noSession ..))
  | bindControlPlane actorId binding =>
    refine quiet (done_keeps (Q := fun _ _ => True) ?_)
    unfold bindControlPlane
    split
    · exact keeps_check (fun _ _ => trivial)
    · exact actorTransaction_keeps permits_noSession ..
  | claim claim uuid =>
    refine quiet (done_keeps (Q := fun _ _ => True) ?_)
    exact keeps_checked (fun _ _ => actorTransaction_keeps permits_noSession ..)
  | claimRoot claim expected uuid =>
    refine quiet (done_keeps (Q := fun _ _ => True) ?_)
    refine keeps_checked (fun _ _ => ?_)
    split
    · exact keeps_check (fun _ _ => trivial)
    · refine keeps_checked (fun place _ => keeps_checked (fun _ _ => ?_))
      exact opening_keeps permits_noSession (readOrCreate_keeps store place)
  | start fence now => exact quiet (done_keeps (actorTransaction_keeps permits_noSession ..))
  | renew fence now leaseExpiresAt =>
    exact quiet (done_keeps (actorTransaction_keeps permits_noSession ..))
  | checkpoint fence now expected =>
    exact quiet (done_keeps (actorTransaction_keeps permits_noSession ..))
  | finish fence now outcome =>
    exact quiet (done_keeps (actorTransaction_keeps permits_noSession ..))
  | validateFence fence now => exact quiet (actorTransaction_keeps permits_noSession ..)
  | retire actorId now => exact quiet (done_keeps (actorTransaction_keeps permits_noSession ..))
  | retireIfActivation fence now =>
    exact quiet (done_keeps (actorTransaction_keeps permits_noSession ..))
  | cancelDescendants rootId childId children distinct now =>
    change Along Store.write FairWrite store
      (cancelDescendantActivations store rootId childId children now).writes
    unfold cancelDescendantActivations
    cases found : descendantRows store rootId childId now children with
    | error refused => exact trivial
    | ok rows =>
      exact along_of_forall (fun write member s =>
        fair_of_noSession s write (rows_noSession (descendantRows_rows found) write member s))
  | save place session =>
    have keeps : Keeps Store.write FairWrite store (saveSession store place session)
        (fun _ _ => True) := keeps_checked (fun _ _ => keeps_put fair trivial)
    exact keeps.along
  | savePresentation place children distinct change updatedAt =>
    exact savePresentation_fair store place children change updatedAt

theorem history_fair (rules : Rules) : ∀ (events : List Event) {store : Store},
    Along (step rules) FairEvent store events →
      Along Store.write FairWrite store (history rules store events) := by
  intro events
  induction events with
  | nil => exact fun _ => trivial
  | cons event rest ih =>
    intro store fair
    refine along_append.2 ⟨?_, ih fair.2⟩
    have whole := transaction_fair rules fair.1
    rw [← List.take_append_drop event.writes (transaction rules store event.act).writes] at whole
    exact (along_append.1 whole).1

/- One session of the lineage, between two samples of its version. -/

/-- Leaving the project has raised the version over the sampled one. -/
def Attentive (store : Store) (project : Option String) (place : Place) (version : Nat) : Prop :=
  ∃ session, store.session place = some session ∧ version ≤ session.metadataVersion ∧
    (sessionProject session ≠ .ok project → version < session.metadataVersion)

/-- The session has left the project since the sample, and a return would not hide it. -/
def Tainted (store : Store) (project : Option String) (place : Place) (version : Nat) : Prop :=
  ∃ session, store.session place = some session ∧ version < session.metadataVersion ∧
    (sessionProject session ≠ .ok project ∨ version + 2 ≤ session.metadataVersion)

theorem attentive_of_reads (reads : Reads store place version project) :
    Attentive store project place version := by
  obtain ⟨session, there, versioned, owned⟩ := reads
  exact ⟨session, there, le_of_eq versioned.symm, fun left => absurd owned left⟩

theorem not_tainted_of_reads (reads : Reads store place version project) :
    ¬ Tainted store project place version := by
  rintro ⟨session, there, later, _⟩
  obtain ⟨other, same, versioned, _⟩ := reads
  rw [there] at same
  cases same
  omega

theorem tainted_of_attentive (attentive : Attentive store project place version)
    (there : store.session place = some session) (left : sessionProject session ≠ .ok project) :
    Tainted store project place version := by
  obtain ⟨other, same, _, raises⟩ := attentive
  rw [there] at same
  cases same
  exact ⟨session, there, raises left, .inl left⟩

section
variable (fair : FairWrite store write)
include fair

theorem session_write (there : store.session place = some previous) :
    ∃ session, (store.write write).session place = some session ∧
      previous.metadataVersion ≤ session.metadataVersion ∧
      (sessionProject previous ≠ sessionProject session →
        previous.metadataVersion < session.metadataVersion) := by
  cases write with
  | record other entry => exact ⟨previous, there, le_rfl, fun changed => absurd rfl changed⟩
  | marker other marker =>
    exact ⟨previous, there, le_rfl, fun changed => absurd rfl changed⟩
  | session other session =>
    by_cases same : place = other
    · subst same
      obtain ⟨later, raises⟩ := fair previous there
      exact ⟨session, Function.update_self .., later, raises⟩
    · refine ⟨previous, ?_, le_rfl, fun changed => absurd rfl changed⟩
      exact (Function.update_of_ne same ..).trans there

theorem attentive_write (attentive : Attentive store project place version) :
    Attentive (store.write write) project place version := by
  obtain ⟨previous, there, later, raises⟩ := attentive
  obtain ⟨session, now_, onward, changes⟩ := session_write fair there
  refine ⟨session, now_, le_trans later onward, fun left => ?_⟩
  by_cases same : sessionProject previous = sessionProject session
  · rw [← same] at left
    have before := raises left
    omega
  · have step := changes same
    omega

theorem tainted_write (tainted : Tainted store project place version) :
    Tainted (store.write write) project place version := by
  obtain ⟨previous, there, later, hidden⟩ := tainted
  obtain ⟨session, now_, onward, changes⟩ := session_write fair there
  refine ⟨session, now_, lt_of_lt_of_le later onward, ?_⟩
  rcases hidden with left | wide
  · by_cases same : sessionProject previous = sessionProject session
    · rw [same] at left
      exact .inl left
    · have step := changes same
      omega
  · omega

end

/- The samples of a record. -/

def points (place : Place) (actor : ActorSession) : List (Place × Nat) :=
  (place, actor.observedMetadataVersion) ::
    actor.ancestorObservations.map (fun ancestor =>
      (ancestorPlace actor ancestor, ancestor.metadataVersion))

def lineagePlaces (place : Place) (actor : ActorSession) : List Place :=
  (points place actor).map Prod.fst

theorem reads_of_sees (sees : Sees store place actor) :
    ∀ point ∈ points place actor, Reads store point.1 point.2 actor.projectId := by
  intro point member
  rcases List.mem_cons.1 member with rfl | above
  · exact sees.own
  · obtain ⟨ancestor, there, rfl⟩ := List.mem_map.1 above
    exact sees.ancestors ancestor there

/-- The same session, sampled at most one version later. -/
def NextSample (old new : Place × Nat) : Prop := old.1 = new.1 ∧ new.2 ≤ old.2 + 1

theorem points_observed (observes : Observes kind old new) (active : old.state = .active)
    (root : new.rootActorId = old.rootActorId) :
    List.Forall₂ NextSample (points place old) (points place new) := by
  have unhidden := observes.steady active
  refine .cons ⟨rfl, unhidden.own⟩ ?_
  rw [List.forall₂_map_left_iff, List.forall₂_map_right_iff]
  have both := List.forall₂_iff_zip.1 observes.ancestors
  have close := List.forall₂_iff_zip.1 unhidden.ancestors
  refine List.forall₂_iff_zip.2 ⟨both.1, fun member => ?_⟩
  refine ⟨?_, close.2 member⟩
  unfold ancestorPlace
  rw [root, (both.2 member).same]

/- A record under one fence. -/

theorem live_active {entry : ActorDirectoryEntry} (valid : entry.Valid)
    (held : entry.activation = some a) (live : a.status.isLive = true) :
    entry.actor.state = .active := by
  have fits := valid.attempted
  rw [held] at fits
  rcases fits.state with expected | retired
  · rw [expected]
    cases status : a.status with
    | reserved => rfl
    | running => rfl
    | succeeded =>
      rw [status] at live
      cases live
    | failed =>
      rw [status] at live
      cases live
    | cancelled =>
      rw [status] at live
      cases live
  · exact absurd ⟨retired, live⟩ fits.retired

theorem living_deed {written : ActorDirectoryEntry} (held : store.record place = some old)
    (valid : old.Valid) (was : Holds old fence) (is_ : Holds written fence)
    (deed : RecordDeed store place written) :
    written.actor = old.actor ∨
      (Sees store place written.actor ∧ Observes place.kind old.actor written.actor ∧
        old.actor.state = .active ∧ written.actor.rootActorId = old.actor.rootActorId) := by
  obtain ⟨a, there, live, same⟩ := was
  obtain ⟨b, there', live', same'⟩ := is_
  have active := live_active valid there live
  cases deed with
  | opened opening =>
    cases opening with
    | created vacant bare sees inert =>
      rw [held] at vacant
      cases vacant
    | observed before before_held sees observes whole =>
      rw [held] at before_held
      cases before_held
      refine .inr ⟨sees, observes, active, ?_⟩
      rw [whole]
      rfl
  | moved before moved before_held marked sees moves whole =>
    rw [held] at before_held
    cases before_held
    rw [whole] at there'
    cases moves with
    | bound policyRevision placementIntent idle => exact absurd active idle
    | claimed claim uuid attempt leaseEpoch next later =>
      cases there'
      have fits := valid.attempted
      rw [there] at fits
      have attempts : attempt = a.attempt := congrArg ActorActivationFence.attempt
        (same'.trans same.symm)
      have current := fits.attempt
      omega
    | worked c d held' active' onward fences =>
      left
      rw [whole]
      rfl
    | ended c d state held' onward closed idle =>
      cases there'
      rw [closed] at live'
      cases live'
    | retired closed =>
      have stopped := closed a there
      rw [stopped] at live
      cases live
  | revoked before c d before_held marked attempted onward closed whole =>
    rw [whole] at there'
    cases there'
    rw [closed] at live'
    cases live'

theorem live_deed_sees {written : ActorDirectoryEntry} (is_ : Holds written fence)
    (deed : RecordDeed store place written) : Sees store place written.actor := by
  obtain ⟨b, there, live, same⟩ := is_
  cases deed with
  | opened opening =>
    cases opening with
    | created vacant bare sees inert => exact sees
    | observed before before_held sees observes whole => exact sees
  | moved before moved before_held marked sees moves whole =>
    rw [whole]
    cases moves with
    | bound policyRevision placementIntent idle => exact ⟨sees.own, sees.ancestors⟩
    | claimed claim uuid attempt leaseEpoch next later => exact ⟨sees.own, sees.ancestors⟩
    | worked c d held active onward fences => exact sees
    | ended c d state held onward closed idle => exact ⟨sees.own, sees.ancestors⟩
    | retired closed => exact ⟨sees.own, sees.ancestors⟩
  | revoked before c d before_held marked attempted onward closed whole =>
    rw [whole] at there
    cases there
    rw [closed] at live
    cases live

/- A property of the samples and the sessions, watched while the fence is held. -/

/-- What the writes of a held fence keep. -/
structure Kept (place : Place) (body : Store → ActorSession → Prop) : Prop where
  saved : ∀ store write actor, FairWrite store write → body store actor →
    body (store.write write) actor
  observed : ∀ store old new, Sees store place new → Observes place.kind old new →
    old.state = .active → new.rootActorId = old.rootActorId → body store old → body store new

structure Watch (place : Place) (fence : ActorActivationFence) (first : ActorDirectoryEntry)
    (body : Store → ActorSession → Prop) (store : Store) : Prop where
  valid : AllValid store place
  record : ∃ entry, store.record place = some entry ∧ Develops first entry ∧
    (Holds entry fence → body store entry.actor)

theorem watch_write (kept : Kept place body) (holds : Holds first fence) (store : Store)
    (write : Write) (both : Deed store write ∧ FairWrite store write)
    (watch : Watch place fence first body store) :
    Watch place fence first body (store.write write) := by
  obtain ⟨deed, fair⟩ := both
  obtain ⟨old, held, developed, carried_⟩ := watch.record
  have valid := @allValid_write place store write deed watch.valid
  have saves : ∀ {actor}, body store actor → body (store.write write) actor :=
    fun there => kept.saved store write _ fair there
  cases deed with
  | record other written fine deed =>
    by_cases same : place = other
    · subst same
      have step := recordDeed_develops held (watch.valid old held) deed
      refine ⟨valid, written, write_record_self .., develops_trans developed step, ?_⟩
      intro is_
      have was : Holds old fence := by
        by_contra lost
        exact never_again holds lost developed step is_
      rcases living_deed held (watch.valid old held) was is_ deed with
        still | ⟨sees, observes, active, root⟩
      · rw [still]
        exact saves (carried_ was)
      · exact saves (kept.observed store _ _ sees observes active root (carried_ was))
    · exact ⟨valid, old, (record_elsewhere same).trans held, developed,
        fun is_ => saves (carried_ is_)⟩
  | marker other entry held' bare inert =>
    exact ⟨valid, old, held, developed, fun is_ => saves (carried_ is_)⟩
  | session other session deed =>
    exact ⟨valid, old, held, developed, fun is_ => saves (carried_ is_)⟩

/-- The lineage and the project are what they were, and every session is attentive. -/
structure Attends (project : Option String) (places : List Place) (place : Place)
    (store : Store) (actor : ActorSession) : Prop where
  owned : actor.projectId = project
  places : lineagePlaces place actor = places
  attentive : ∀ point ∈ points place actor, Attentive store project point.1 point.2

/-- One session of the lineage is tainted. -/
structure Suspects (project : Option String) (at_ place : Place) (store : Store)
    (actor : ActorSession) : Prop where
  owned : actor.projectId = project
  tainted : ∃ point ∈ points place actor, point.1 = at_ ∧
    Tainted store project point.1 point.2

theorem kept_attends (project : Option String) (places : List Place) (place : Place) :
    Kept place (Attends project places place) where
  saved := fun store write actor fair attends =>
    ⟨attends.owned, attends.places,
      fun point member => attentive_write fair (attends.attentive point member)⟩
  observed := by
    intro store old new sees observes active root attends
    have same := (observes.steady active).project.symm.trans attends.owned
    refine ⟨same, ?_, fun point member => ?_⟩
    · rw [← attends.places]
      have samples := @points_observed _ _ _ place observes active root
      have equal : List.Forall₂ Eq ((points place old).map Prod.fst)
          ((points place new).map Prod.fst) := by
        rw [List.forall₂_map_left_iff, List.forall₂_map_right_iff]
        exact samples.imp (fun _ _ next => next.1)
      rw [List.forall₂_eq_eq_eq] at equal
      exact equal.symm
    · have reads := reads_of_sees sees point member
      rw [same] at reads
      exact attentive_of_reads reads

/-- A tainted session cannot be observed. -/
theorem kept_suspects (project : Option String) (at_ place : Place) :
    Kept place (Suspects project at_ place) where
  saved := by
    intro store write actor fair suspects
    obtain ⟨point, member, same, tainted⟩ := suspects.tainted
    exact ⟨suspects.owned, point, member, same, tainted_write fair tainted⟩
  observed := by
    intro store old new sees observes active root suspects
    obtain ⟨point, member, same, session, there, later, hidden⟩ := suspects.tainted
    have samples := @points_observed _ _ _ place observes active root
    obtain ⟨index, bound, found⟩ := List.getElem_of_mem member
    have long := samples.length_eq
    have next := (List.forall₂_iff_get.1 samples).2 index bound (long ▸ bound)
    have newest : (points place new).get ⟨index, long ▸ bound⟩ ∈ points place new :=
      List.get_mem ..
    obtain ⟨other, there', versioned, owned⟩ := reads_of_sees sees _ newest
    have project_ := (observes.steady active).project.symm.trans suspects.owned
    have sampled : (points place old).get ⟨index, bound⟩ = point := found
    rw [sampled] at next
    rw [← next.1, there] at there'
    cases there'
    rw [project_] at owned
    rcases hidden with left | wide
    · exact absurd owned left
    · have close := next.2
      omega

/- The result. -/

/-- An operation succeeds under the fence; a finish does more than repeat the end on record. -/
inductive Acknowledged (store : Store) (place : Place) (fence : ActorActivationFence) : Prop
  | validated (now : Nat) (accepted : Accepted store fence now)
  | started (now : Nat) (a : ActorActivation)
      (answered : (startActivation store fence now).answer = .ok a)
  | checkpointed (now expected : Nat) (a : ActorActivation)
      (answered : (checkpointActivation store fence now expected).answer = .ok a)
  | finished (now : Nat) (outcome : ActorActivationFinish) (a : ActorActivation)
      (answered : (finishActivation store fence now outcome).answer = .ok a)
      (open_ : ∃ entry, store.record place = some entry ∧ Holds entry fence)

theorem acknowledged_holds (located : lockActorRuntime store fence.actorId = .ok place)
    (acknowledged : Acknowledged store place fence) :
    ∃ entry, (readOrCreateActorEntry store place).answer = .ok entry ∧ Holds entry fence := by
  have placed : ∀ {α : Type} {operation : ActorDirectoryEntry → Result (Mutation α)} {value : α},
      (actorTransaction store fence.actorId operation).answer = .ok value →
      ∃ entry mutation, (readOrCreateActorEntry store place).answer = .ok entry ∧
        operation entry = .ok mutation := by
    intro α operation value answered
    obtain ⟨there, entry, mutation, located', read, done⟩ := transaction_reads answered
    rw [located] at located'
    cases located'
    exact ⟨entry, mutation, read, done⟩
  cases acknowledged with
  | validated now accepted =>
    obtain ⟨entry, mutation, read, done⟩ := placed accepted
    obtain ⟨a, live, _⟩ := bind_eq_ok.1 done
    exact ⟨entry, read, currentLive_holds live⟩
  | started now a answered =>
    obtain ⟨entry, mutation, read, done⟩ := placed answered
    obtain ⟨a, live, _⟩ := bind_eq_ok.1 done
    exact ⟨entry, read, currentLive_holds live⟩
  | checkpointed now expected a answered =>
    obtain ⟨entry, mutation, read, done⟩ := placed answered
    obtain ⟨a, live, _⟩ := bind_eq_ok.1 done
    exact ⟨entry, read, currentLive_holds live⟩
  | finished now outcome a answered open_ =>
    obtain ⟨entry, mutation, read, _⟩ := placed answered
    obtain ⟨old, held, b, there, live, matched⟩ := open_
    have same := read_activation read
    rw [held] at same
    exact ⟨entry, read, b, same.symm.trans there, live, matched⟩

theorem opened_fair (store : Store) (write : Write) (opened : Opened store write) :
    Deed store write ∧ FairWrite store write := by
  refine ⟨deed_of_opened store write opened, ?_⟩
  cases opened with
  | record place written valid opening => exact trivial
  | marker place entry held bare inert => exact trivial

theorem suspected_unread (held : Holds first fence)
    (watch : Watch place fence first (Suspects project at_ place) store)
    (read : (readOrCreateActorEntry store place).answer = .ok entry) : ¬ Holds entry fence := by
  intro holds
  have opens := readOrCreate_keeps store place
  have ready := opens.answered entry read
  have still := along_keeps (watch_write (kept_suspects project at_ place) held) _
    (along_mono opened_fair _ opens.along) watch
  obtain ⟨last, there, _, suspects⟩ := still.record
  change (Transaction.finished Store.write store _).record place = some last at there
  rw [ready.held] at there
  cases there
  obtain ⟨owned, point, member, _, tainted⟩ := suspects holds
  have reads := reads_of_sees ready.sees point member
  rw [owned] at reads
  exact not_tainted_of_reads reads tainted

theorem claim_sees
    (unclaimed : ∀ old, (moment rules store events first).record place = some old →
      ¬ Holds old fence) (there : (moment rules store events (first + 1)).record place = some born)
    (holds : Holds born fence) : Sees (moment rules store events (first + 1)) place born.actor := by
  rcases @moment_next store rules events first with same | ⟨write, deed, next⟩
  · rw [same] at there
    exact absurd holds (unclaimed born there)
  · rw [next] at there ⊢
    cases deed with
    | record other written fine deed =>
      by_cases same : place = other
      · subst same
        rw [write_record_self] at there
        cases there
        have sees := live_deed_sees holds deed
        exact ⟨sees.own, sees.ancestors⟩
      · rw [record_elsewhere same] at there
        exact absurd holds (unclaimed born there)
    | marker other entry held bare inert => exact absurd holds (unclaimed born there)
    | session other session deed => exact absurd holds (unclaimed born there)

theorem watch_between (fair : Along (step rules) FairEvent store events) (kept : Kept place body)
    (holds : Holds born fence) (order : first ≤ last)
    (watch : Watch place fence born body (moment rules store events first)) :
    Watch place fence born body (moment rules store events last) := by
  have whole := along_and (history_deeds rules events store) (history_fair rules events fair)
  obtain ⟨writes, along, reached⟩ := moment_between whole order
  rw [reached]
  exact along_keeps (watch_write kept holds) writes along watch

def editedRoot : Session := { sampleRoot with title := "New title", metadataVersion := 1 }

def claimedThenEdited : List Event := [claimed, ⟨.save (.root "root") editedRoot, 9⟩]

theorem fair_sampleRoot (there : store.session (.root "root") = some sampleRoot)
    (later : 0 < session.metadataVersion) : FairSave store (.root "root") session := by
  intro previous held
  rw [there] at held
  cases held
  exact ⟨Nat.zero_le _, fun _ => later⟩

def movedRoot : Session := { sampleRoot.setProjectIdMeta "other" with metadataVersion := 1 }

def cancelledThenMoved : List Event :=
  [claimed, ⟨.finish hostFence 1 .cancelled, 9⟩, ⟨.save (.root "root") movedRoot, 9⟩]

def projectAt (store : Store) : Option (Result (Option String)) :=
  (store.session (.root "root")).map sessionProject

end Actors
