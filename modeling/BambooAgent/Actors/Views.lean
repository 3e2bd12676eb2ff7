import BambooAgent.Actors.Saves
import BambooAgent.Library.Checks

/- What a transaction has seen of the sessions when it goes on with a record: the durable version
   of the actor's own session and of every ancestor, all in one project. -/
namespace Actors
open Sessions Transactions Checks

def Reads (store : Store) (place : Place) (version : Nat) (project : Option String) : Prop :=
  ∃ session, store.session place = some session ∧ session.metadataVersion = version ∧
    sessionProject session = .ok project

def ancestorPlace (actor : ActorSession) (ancestor : ActorAncestorObservation) : Place :=
  parentPlace actor.rootActorId ancestor.actorId

/-- The record's view is the durable one. -/
structure Sees (store : Store) (place : Place) (actor : ActorSession) : Prop where
  own : Reads store place actor.observedMetadataVersion actor.projectId
  ancestors : ∀ ancestor ∈ actor.ancestorObservations,
    Reads store (ancestorPlace actor ancestor) ancestor.metadataVersion actor.projectId

theorem loadDurable_eq_ok (loaded : loadDurable store place missing = .ok session) :
    ∃ main, store.session place = some main ∧
      session = { main with rootSessionId := place.rootId } ∧ main.id = place.id ∧
      main.kind = place.kind := by
  unfold loadDurable at loaded
  cases found : loadSessionFromDirStrict store place with
  | error refused =>
    rw [found] at loaded
    cases loaded
  | ok there =>
    rw [found] at loaded
    cases there with
    | none => cases loaded
    | some read =>
      cases loaded
      unfold loadSessionFromDirStrict at found
      cases held : store.session place with
      | none =>
        rw [held] at found
        cases found
      | some main =>
        rw [held] at found
        obtain ⟨fits, rest⟩ := unless_eq_ok.1 found
        obtain ⟨sameId, fits⟩ := not_or.1 fits
        obtain ⟨sameKind, sameRoot⟩ := not_or.1 fits
        refine ⟨main, rfl, ?_, not_not.1 sameId, not_not.1 sameKind⟩
        by_cases legacy : place.kind = .root ∧ main.rootSessionId = ""
        · rw [if_pos legacy] at rest
          cases rest
          cases place with
          | root id => rfl
          | child rootId id => cases legacy.1
        · rw [if_neg legacy] at rest
          cases rest
          have stated : session.rootSessionId = place.rootId :=
            not_not.1 (fun other => sameRoot ⟨legacy, other⟩)
          rw [← stated]

theorem fromSession_eq_ok (made : ActorSession.fromSession session = .ok actor) :
    ∃ parent project, sessionParent session = .ok parent ∧ sessionProject session = .ok project ∧
      validActorId session.id = true ∧ validActorId session.rootSessionId = true ∧
      actor =
        { schemaVersion := actorDirectorySchemaVersion, actorId := session.id,
          sessionCreatedAt := session.createdAt, parentActorId := parent,
          rootActorId := session.rootSessionId, projectId := project,
          observedMetadataVersion := session.metadataVersion, ancestorObservations := [],
          spawnDepth := session.spawnDepth, state := .cold, currentAttempt := 0,
          policyRevision := none, placementIntent := none } := by
  obtain ⟨valid, rest⟩ := unless_eq_ok.1 made
  obtain ⟨own, root⟩ := not_or.1 valid
  cases parented : sessionParent session with
  | error refused =>
    rw [parented] at rest
    cases rest
  | ok parent =>
    rw [parented] at rest
    cases owned : sessionProject session with
    | error refused =>
      rw [owned] at rest
      cases rest
    | ok project =>
      rw [owned] at rest
      cases rest
      exact ⟨parent, project, rfl, rfl, not_not.1 own, not_not.1 root, rfl⟩

theorem loaded_reads (loaded : loadDurable store place missing = .ok session)
    (made : ActorSession.fromSession session = .ok actor) :
    Reads store place actor.observedMetadataVersion actor.projectId := by
  obtain ⟨main, held, same, _⟩ := loadDurable_eq_ok loaded
  obtain ⟨parent, project, _, owned, _, _, rfl⟩ := fromSession_eq_ok made
  subst same
  exact ⟨main, held, rfl, owned⟩

theorem parentOf_eq_ok
    (found : parentOf store recorded passed current session parentId = .ok (parentSession, parent)) :
    scanActorRelPath store parentId = .ok (parentPlace current.rootActorId parentId) ∧
      loadDurable store (parentPlace current.rootActorId parentId) (.notFound parentId) =
        .ok parentSession ∧
      ActorSession.fromSession parentSession = .ok parent ∧ parent.actorId = parentId ∧
      parent.rootActorId = current.rootActorId ∧ parent.projectId = current.projectId ∧
      parent.spawnDepth + 1 = current.spawnDepth := by
  obtain ⟨actual, scanned, found⟩ := bind_eq_ok.1 found
  obtain ⟨located, found⟩ := unless_eq_ok.1 found
  obtain ⟨read, loaded, found⟩ := bind_eq_ok.1 found
  obtain ⟨_, found⟩ := unless_eq_ok.1 found
  obtain ⟨actor, made, found⟩ := bind_eq_ok.1 found
  obtain ⟨fits, found⟩ := unless_eq_ok.1 found
  cases found
  obtain ⟨root, fits⟩ := not_or.1 fits
  obtain ⟨depth, fits⟩ := not_or.1 fits
  obtain ⟨project, _⟩ := not_or.1 fits
  obtain ⟨main, _, same, id, _⟩ := loadDurable_eq_ok loaded
  obtain ⟨_, _, _, _, _, _, rfl⟩ := fromSession_eq_ok made
  have named : (parentPlace current.rootActorId parentId).id = parentId := by
    unfold parentPlace
    split
    · rfl
    · rfl
  rw [not_not.1 located] at scanned
  refine ⟨scanned, loaded, made, ?_, not_not.1 root, not_not.1 project, not_not.1 depth⟩
  rw [same]
  exact id.trans named

/-- The ancestor's session is at its one place and says what was observed of it. -/
structure Observed (store : Store) (actor : ActorSession)
    (ancestor : ActorAncestorObservation) : Prop where
  located : scanActorRelPath store ancestor.actorId = .ok (ancestorPlace actor ancestor)
  reads : Reads store (ancestorPlace actor ancestor) ancestor.metadataVersion actor.projectId

theorem climb_observed :
    ∀ {levels : Nat} {current : ActorSession} {session : Session}
      {lineage all : List ActorAncestorObservation},
      climb store recorded levels current session lineage = .ok (top, all) →
      ∀ ancestor ∈ all, ancestor ∈ lineage ∨ Observed store current ancestor := by
  intro levels
  induction levels with
  | zero =>
    intro current session lineage all climbed
    cases climbed
  | succ levels ih =>
    intro current session lineage all climbed ancestor member
    unfold climb at climbed
    cases parented : current.parentActorId with
    | none =>
      rw [parented] at climbed
      cases climbed
      exact .inl member
    | some parentId =>
      rw [parented] at climbed
      cases found : parentOf store recorded lineage.length current session parentId with
      | error refused =>
        simp only [found] at climbed
        cases climbed
      | ok pair =>
        simp only [found] at climbed
        obtain ⟨scanned, loaded, made, named, root, project, _⟩ := parentOf_eq_ok found
        rcases ih climbed ancestor member with passed | above
        · rcases List.mem_append.1 passed with before | here
          · exact .inl before
          · right
            cases List.mem_singleton.1 here
            have reads := loaded_reads loaded made
            rw [project] at reads
            refine ⟨?_, ?_⟩
            · unfold ancestorPlace observation
              rw [named]
              exact scanned
            · unfold ancestorPlace observation
              rw [named]
              exact reads
        · right
          have located := above.located
          have reads := above.reads
          unfold ancestorPlace at located reads
          rw [root] at located reads
          rw [project] at reads
          exact ⟨located, reads⟩

theorem lineage_observed
    (valid : validateActorLineageWithRecord store actor recorded = .ok lineage) :
    ∀ ancestor ∈ lineage, Observed store actor ancestor := by
  obtain ⟨session, _, valid⟩ := bind_eq_ok.1 valid
  obtain ⟨_, valid⟩ := unless_eq_ok.1 valid
  obtain ⟨⟨top, all⟩, climbed, valid⟩ := bind_eq_ok.1 valid
  obtain ⟨_, valid⟩ := unless_eq_ok.1 valid
  cases valid
  intro ancestor member
  rcases climb_observed climbed ancestor member with impossible | above
  · cases impossible
  · exact above

theorem expectedActor_sees (loaded : loadDurable store place missing = .ok session)
    (expects : expectedActor store session existing = .ok expected) :
    Sees store place expected := by
  obtain ⟨actor, made, expects⟩ := bind_eq_ok.1 expects
  obtain ⟨lineage, valid, expects⟩ := bind_eq_ok.1 expects
  cases expects
  have own := loaded_reads loaded made
  have above := lineage_observed valid
  exact ⟨own, fun ancestor member => (above ancestor member).reads⟩

/-- The record was made for this incarnation of the session. -/
structure SameIncarnation (actor expected : ActorSession) : Prop where
  schema : actor.schemaVersion = expected.schemaVersion
  actorId : actor.actorId = expected.actorId
  birth : actor.sessionCreatedAt = expected.sessionCreatedAt
  parent : actor.parentActorId = expected.parentActorId
  root : actor.rootActorId = expected.rootActorId
  depth : actor.spawnDepth = expected.spawnDepth

theorem matchesSession_iff (made : ActorSession.fromSession session = .ok expected) :
    actor.matchesSession session = true ↔ SameIncarnation actor expected := by
  unfold ActorSession.matchesSession
  rw [made]
  simp only [Bool.and_eq_true, beq_iff_eq]
  constructor
  · rintro ⟨⟨⟨⟨⟨schema, actorId⟩, birth⟩, parent⟩, root⟩, depth⟩
    exact ⟨schema, actorId, birth, parent, root, depth⟩
  · intro same
    exact ⟨⟨⟨⟨⟨same.schema, same.actorId⟩, same.birth⟩, same.parent⟩, same.root⟩, same.depth⟩

theorem expectedActor_eq_ok (expects : expectedActor store session existing = .ok expected) :
    ∃ actor, ActorSession.fromSession session = .ok actor ∧
      validateActorLineageWithRecord store actor (existing.map ActorDirectoryEntry.actor) =
        .ok expected.ancestorObservations ∧
      expected = { actor with ancestorObservations := expected.ancestorObservations } := by
  obtain ⟨actor, made, expects⟩ := bind_eq_ok.1 expects
  obtain ⟨lineage, valid, expects⟩ := bind_eq_ok.1 expects
  cases expects
  exact ⟨actor, made, valid, rfl⟩

theorem existing_same (exists_ : existingEntry store place session = .ok existing)
    (expects : expectedActor store session existing = .ok expected) :
    existing = store.record place ∧
      ∀ entry, existing = some entry → entry.Valid ∧ SameIncarnation entry.actor expected := by
  unfold existingEntry at exists_
  cases held : store.record place with
  | none =>
    rw [held] at exists_
    cases exists_
    exact ⟨rfl, fun entry impossible => nomatch impossible⟩
  | some entry =>
    rw [held] at exists_
    obtain ⟨_, valid, exists_⟩ := bind_eq_ok.1 exists_
    obtain ⟨fits, exists_⟩ := unless_eq_ok.1 exists_
    cases exists_
    refine ⟨rfl, fun other same => ?_⟩
    cases same
    obtain ⟨actor, made, _, whole⟩ := expectedActor_eq_ok expects
    have incarnation := (matchesSession_iff made).1 (not_not.1 fits)
    rw [whole]
    refine ⟨?_, incarnation.schema, incarnation.actorId, incarnation.birth, incarnation.parent,
      incarnation.root, incarnation.depth⟩
    unfold ActorDirectoryEntry.validate at valid
    by_contra broken
    rw [if_neg broken] at valid
    cases valid

theorem sees_observing {entry : ActorDirectoryEntry}
    (root : entry.actor.rootActorId = expected.rootActorId) (sees : Sees store place expected) :
    Sees store place (entry.observing expected).actor := by
  refine ⟨sees.own, fun ancestor member => ?_⟩
  have reads := sees.ancestors ancestor member
  unfold ancestorPlace at reads
  rw [← root] at reads
  exact reads

/- How a record's view may move. -/

/-- The same ancestor, seen no earlier. -/
structure SeenLater (previous latest : ActorAncestorObservation) : Prop where
  same : previous.actorId = latest.actorId
  birth : previous.sessionCreatedAt = latest.sessionCreatedAt
  later : previous.metadataVersion ≤ latest.metadataVersion

def AtMostOne (previous latest : ActorAncestorObservation) : Prop :=
  latest.metadataVersion ≤ previous.metadataVersion + 1

/-- While the actor is active, its project is what it was and no session of its lineage has made
    more than one step. -/
structure Unhidden (old new : ActorSession) : Prop where
  project : old.projectId = new.projectId
  own : new.observedMetadataVersion ≤ old.observedMetadataVersion + 1
  ancestors : List.Forall₂ AtMostOne old.ancestorObservations new.ancestorObservations

structure Observes (kind : SessionKind) (old new : ActorSession) : Prop where
  fixed : kind = .child → old.projectId = new.projectId
  own : old.observedMetadataVersion ≤ new.observedMetadataVersion
  ancestors : List.Forall₂ SeenLater old.ancestorObservations new.ancestorObservations
  steady : old.state = .active → Unhidden old new

theorem lineageChange_eq_ok : ∀ {older newer : List ActorAncestorObservation}
    {change : LineageChange}, older.length = newer.length →
    lineageChange older newer = .ok change →
    List.Forall₂ SeenLater older newer ∧
      (change.gap = false → List.Forall₂ AtMostOne older newer) ∧
      (change.changed = false → older = newer) := by
  intro older
  induction older with
  | nil =>
    intro newer change long found
    cases List.eq_nil_of_length_eq_zero long.symm
    exact ⟨.nil, fun _ => .nil, fun _ => rfl⟩
  | cons previous older ih =>
    intro newer change long found
    cases newer with
    | nil => cases long
    | cons latest newer =>
      obtain ⟨fits, found⟩ := unless_eq_ok.1 found
      obtain ⟨rest, others, found⟩ := bind_eq_ok.1 found
      cases found
      obtain ⟨same, fits⟩ := not_or.1 fits
      obtain ⟨birth, later⟩ := not_or.1 fits
      obtain ⟨all, close, still⟩ := ih (Nat.succ.inj long) others
      have seen : SeenLater previous latest :=
        ⟨not_not.1 same, not_not.1 birth, Nat.le_of_not_lt later⟩
      refine ⟨.cons seen all, ?_, ?_⟩
      · intro none_
        simp only [Bool.or_eq_false_iff, decide_eq_false_iff_not] at none_
        refine .cons ?_ (close none_.2)
        unfold AtMostOne
        omega
      · intro none_
        simp only [Bool.or_eq_false_iff, decide_eq_false_iff_not] at none_
        have version : previous.metadataVersion = latest.metadataVersion := by
          omega
        rw [still none_.2]
        cases previous
        cases seen.same
        cases seen.birth
        cases version
        rfl

theorem observed_eq_ok (found : observed kind entry expected = .ok stale) :
    Observes kind entry.actor expected ∧ (stale = false → entry.observing expected = entry) := by
  obtain ⟨fixed, found⟩ := unless_eq_ok.1 found
  obtain ⟨forward, found⟩ := unless_eq_ok.1 found
  obtain ⟨change, lineage, found⟩ := bind_eq_ok.1 found
  obtain ⟨steady, found⟩ := unless_eq_ok.1 found
  cases found
  obtain ⟨own, long⟩ := not_or.1 forward
  obtain ⟨all, close, still⟩ := lineageChange_eq_ok (not_not.1 long) lineage
  refine ⟨⟨?_, Nat.le_of_not_lt own, all, ?_⟩, ?_⟩
  · intro child
    by_contra changed
    exact fixed ⟨child, changed⟩
  · intro active
    have blocked := fun hidden => steady ⟨active, hidden⟩
    refine ⟨?_, ?_, close ?_⟩
    · by_contra changed
      exact blocked (.inl changed)
    · by_contra wide
      refine blocked (.inr (.inl ?_))
      omega
    · by_contra wide
      exact blocked (.inr (.inr (by simpa using wide)))
  · intro fresh
    simp only [Bool.or_eq_false_iff, decide_eq_false_iff_not, not_not] at fresh
    obtain ⟨⟨project, version⟩, unchanged⟩ := fresh
    unfold ActorDirectoryEntry.observing
    rw [← project, version, ← still unchanged]

end Actors
