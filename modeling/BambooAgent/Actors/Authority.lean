import BambooAgent.Actors.Directory
import BambooAgent.Library.Transactions

/- The two files that hold an actor's authority, and the transaction that reads or creates them:
   where the actor is, what its lineage says, and the refresh of what was observed. -/
namespace Actors
open Sessions Transactions
open Compression (trim containsText)

/-- A session's directory under `sessions`. -/
inductive Place where
  | root (id : String)
  | child (rootId id : String)
  deriving DecidableEq

def Place.id : Place → String
  | .root id => id
  | .child _ id => id

def Place.rootId : Place → String
  | .root id => id
  | .child rootId _ => rootId

def Place.kind : Place → SessionKind
  | .root _ => .root
  | .child _ _ => .child

structure ActorInitializedMarker where
  schemaVersion : Nat
  actorId : String
  sessionCreatedAt : Nat
  deriving DecidableEq

structure Store where
  roots : List String
  session : Place → Option Session
  record : Place → Option ActorDirectoryEntry
  marker : Place → Option ActorInitializedMarker
  listed : ∀ place, session place ≠ none → place.rootId ∈ roots

inductive Write where
  | record (place : Place) (entry : ActorDirectoryEntry)
  | marker (place : Place) (marker : ActorInitializedMarker)
  | session (place : Place) (session : Session)

def withRoot (roots : List String) (rootId : String) : List String :=
  if rootId ∈ roots then roots else roots ++ [rootId]

theorem mem_withRoot {id : String} :
    id ∈ withRoot roots rootId ↔ id ∈ roots ∨ id = rootId := by
  unfold withRoot
  split
  · rename_i there
    constructor
    · exact .inl
    · rintro (member | rfl)
      · exact member
      · exact there
  · rw [List.mem_append, List.mem_singleton]

theorem listed_save {store : Store} (other : Place)
    (there : Function.update store.session place (some session) other ≠ none) :
    other.rootId ∈ withRoot store.roots place.rootId := by
  rw [mem_withRoot]
  by_cases same : other = place
  · exact .inr (congrArg Place.rootId same)
  · rw [Function.update_of_ne same] at there
    exact .inl (store.listed other there)

def Store.write (store : Store) : Write → Store
  | .record place entry => { store with record := Function.update store.record place (some entry) }
  | .marker place marker =>
    { store with marker := Function.update store.marker place (some marker) }
  | .session place session =>
    { store with
      roots := withRoot store.roots place.rootId,
      session := Function.update store.session place (some session),
      listed := listed_save }

abbrev Transacted (α : Type) := Transaction Write ActorDirectoryError α

/- Locating and loading sessions. -/

def validateSessionId (sessionId : String) : Bool :=
  !sessionId.isEmpty && !containsText sessionId "/" && !containsText sessionId "\\" &&
    !containsText sessionId ".."

def scanActorRelPath (store : Store) (actorId : String) : Result Place :=
  let atRoot := if (store.session (.root actorId)).isSome then [Place.root actorId] else []
  let under := store.roots.filter (fun rootId =>
    validateSessionId rootId && (store.session (.child rootId actorId)).isSome)
  match atRoot ++ under.map (fun rootId => Place.child rootId actorId) with
  | [] => .error (.notFound actorId)
  | [place] => .ok place
  | _ => .error .corrupt

def loadSessionFromDirStrict (store : Store) (place : Place) : Result (Option Session) :=
  match store.session place with
  | none => .ok none
  | some main =>
    let canonicalLegacyRoot := place.kind = .root ∧ main.rootSessionId = ""
    if main.id ≠ place.id ∨ main.kind ≠ place.kind ∨
        (¬ canonicalLegacyRoot ∧ main.rootSessionId ≠ place.rootId) then .error .storage
    else if canonicalLegacyRoot then .ok (some { main with rootSessionId := place.id })
    else .ok (some main)

/-- `load_session_from_dir_strict`, where a missing session is an error. -/
def loadDurable (store : Store) (place : Place) (missing : ActorDirectoryError) :
    Result Session :=
  match loadSessionFromDirStrict store place with
  | .error refused => .error refused
  | .ok none => .error missing
  | .ok (some session) => .ok session

def lockActorRuntime (store : Store) (actorId : String) : Result Place := do
  if ¬ validateSessionId actorId then .error .storage
  else
    let place ← scanActorRelPath store actorId
    let _ ← loadDurable store (.root place.rootId) .storage
    .ok place

/- The lineage. -/

def ownPlace (actor : ActorSession) : Place :=
  match actor.parentActorId with
  | some _ => .child actor.rootActorId actor.actorId
  | none => .root actor.actorId

def parentPlace (rootId parentId : String) : Place :=
  if parentId = rootId then .root parentId else .child rootId parentId

/-- The child was created under this birth of its parent; a child that records no parent birth
    goes on only against the ancestor births it was activated with. -/
def birthProven (recorded : Option ActorSession) (passed : Nat) (session parent : Session) :
    Bool :=
  match session.parentCreatedAt with
  | some birth => birth == parent.createdAt
  | none =>
    recorded.any (fun record =>
      decide (0 < record.currentAttempt) &&
        (record.ancestorObservations[passed]?).any (fun old =>
          old.actorId == parent.id && old.sessionCreatedAt == parent.createdAt))

def observation (parent : ActorSession) : ActorAncestorObservation :=
  { actorId := parent.actorId, sessionCreatedAt := parent.sessionCreatedAt,
    metadataVersion := parent.observedMetadataVersion }

/-- One turn of the walk up the parents. -/
def parentOf (store : Store) (recorded : Option ActorSession) (passed : Nat)
    (current : ActorSession) (session : Session) (parentId : String) :
    Result (Session × ActorSession) := do
  let actual ← scanActorRelPath store parentId
  if actual ≠ parentPlace current.rootActorId parentId then .error .invalidIdentity
  else
    let parentSession ←
      loadDurable store (parentPlace current.rootActorId parentId) (.notFound parentId)
    if ¬ birthProven recorded passed session parentSession then .error .invalidIdentity
    else
      let parent ← ActorSession.fromSession parentSession
      if parent.rootActorId ≠ current.rootActorId ∨
          parent.spawnDepth + 1 ≠ current.spawnDepth ∨ parent.projectId ≠ current.projectId ∨
          parent.sessionCreatedAt > parentSession.createdAt then .error .invalidIdentity
      else .ok (parentSession, parent)

/-- The walk; each parent is one level higher, so the depth bounds it. -/
def climb (store : Store) (recorded : Option ActorSession) :
    Nat → ActorSession → Session → List ActorAncestorObservation →
      Result (ActorSession × List ActorAncestorObservation)
  | 0, _, _, _ => .error .invalidIdentity
  | levels + 1, current, session, lineage =>
    match current.parentActorId with
    | none => .ok (current, lineage)
    | some parentId =>
      match parentOf store recorded lineage.length current session parentId with
      | .error refused => .error refused
      | .ok (parentSession, parent) =>
        climb store recorded levels parent parentSession (lineage ++ [observation parent])

def validateActorLineageWithRecord (store : Store) (actor : ActorSession)
    (recorded : Option ActorSession) : Result (List ActorAncestorObservation) := do
  let session ← loadDurable store (ownPlace actor) (.notFound actor.actorId)
  if ¬ actor.matchesSession session then .error .invalidIdentity
  else
    let (top, lineage) ← climb store recorded (actor.spawnDepth + 1) actor session []
    if top.actorId ≠ actor.rootActorId ∨ top.spawnDepth ≠ 0 then .error .invalidIdentity
    else .ok lineage

/- Reading or creating the record. -/

def existingEntry (store : Store) (place : Place) (session : Session) :
    Result (Option ActorDirectoryEntry) :=
  match store.record place with
  | none => .ok none
  | some entry => do
    entry.validate
    if ¬ entry.actor.matchesSession session then .error .invalidIdentity
    else .ok (some entry)

def expectedActor (store : Store) (session : Session) (existing : Option ActorDirectoryEntry) :
    Result ActorSession := do
  let expected ← ActorSession.fromSession session
  let lineage ← validateActorLineageWithRecord store expected
    (existing.map ActorDirectoryEntry.actor)
  .ok { expected with ancestorObservations := lineage }

def checkedMarker (store : Store) (place : Place) (expected : ActorSession) :
    Result (Option ActorInitializedMarker) :=
  match store.marker place with
  | none => .ok none
  | some marker =>
    if marker.schemaVersion ≠ actorDirectorySchemaVersion ∨ marker.actorId ≠ place.id ∨
        marker.sessionCreatedAt ≠ expected.sessionCreatedAt then .error .corrupt
    else .ok (some marker)

def initializedMarker (actor : ActorSession) : ActorInitializedMarker :=
  { schemaVersion := actorDirectorySchemaVersion, actorId := actor.actorId,
    sessionCreatedAt := actor.sessionCreatedAt }

def writeActorEntry (place : Place) (entry : ActorDirectoryEntry) : Transacted Unit := do
  Transaction.check entry.validate
  Transaction.put (.record place entry)

/-- A record without its marker is adopted only when it was never claimed; a marker without its
    record is never replaced. -/
def adoptEntry (place : Place) (expected : ActorSession) :
    Option ActorDirectoryEntry → Option ActorInitializedMarker → Transacted ActorDirectoryEntry
  | some entry, some _ => pure entry
  | some entry, none => do
    if entry.actor.currentAttempt ≠ 0 ∨ entry.actor.state ≠ .cold ∨ entry.activation.isSome then
      Transaction.check (.error .corrupt)
    else
      Transaction.put (.marker place (initializedMarker expected))
      pure entry
  | none, none => do
    writeActorEntry place (ActorDirectoryEntry.new expected)
    Transaction.put (.marker place (initializedMarker expected))
    pure (ActorDirectoryEntry.new expected)
  | none, some _ => Transaction.check (.error .corrupt)

structure LineageChange where
  changed : Bool
  gap : Bool

def lineageChange : List ActorAncestorObservation → List ActorAncestorObservation →
    Result LineageChange
  | previous :: older, latest :: newer =>
    if previous.actorId ≠ latest.actorId ∨ previous.sessionCreatedAt ≠ latest.sessionCreatedAt ∨
        latest.metadataVersion < previous.metadataVersion then .error .invalidIdentity
    else do
      let rest ← lineageChange older newer
      let delta := latest.metadataVersion - previous.metadataVersion
      .ok { changed := decide (0 < delta) || rest.changed, gap := decide (2 ≤ delta) || rest.gap }
  | _, _ => .ok { changed := false, gap := false }

/-- What of a newer view of the sessions the record may take over, or why it may not. -/
def observed (kind : SessionKind) (entry : ActorDirectoryEntry) (expected : ActorSession) :
    Result Bool :=
  let projectChanged := entry.actor.projectId ≠ expected.projectId
  let seen := entry.actor.observedMetadataVersion
  let current := expected.observedMetadataVersion
  if kind = .child ∧ projectChanged then .error .invalidIdentity
  else if current < seen ∨
      entry.actor.ancestorObservations.length ≠ expected.ancestorObservations.length then
    .error .invalidIdentity
  else do
    let lineage ←
      lineageChange entry.actor.ancestorObservations expected.ancestorObservations
    -- Two unseen revisions of one session could hide a project that went away and came back.
    if entry.actor.state = .active ∧ (projectChanged ∨ 2 ≤ current - seen ∨ lineage.gap) then
      .error .projectTransitionBlocked
    else .ok (decide projectChanged || decide (current ≠ seen) || lineage.changed)

def ActorDirectoryEntry.observing (entry : ActorDirectoryEntry) (expected : ActorSession) :
    ActorDirectoryEntry :=
  { entry with
    actor :=
      { entry.actor with
        projectId := expected.projectId,
        observedMetadataVersion := expected.observedMetadataVersion,
        ancestorObservations := expected.ancestorObservations } }

def ActorDirectoryEntry.revised (entry : ActorDirectoryEntry) : Result ActorDirectoryEntry := do
  let revision ← checkedNext entry.revision
  .ok { entry with revision }

def refreshEntry (place : Place) (expected : ActorSession) (entry : ActorDirectoryEntry) :
    Transacted ActorDirectoryEntry := do
  let stale ← Transaction.check (observed place.kind entry expected)
  if stale then
    let refreshed ← Transaction.check (entry.observing expected).revised
    writeActorEntry place refreshed
    pure refreshed
  else pure entry

def readOrCreateActorEntry (store : Store) (place : Place) : Transacted ActorDirectoryEntry := do
  let session ← Transaction.check (loadDurable store place (.notFound place.id))
  let existing ← Transaction.check (existingEntry store place session)
  let expected ← Transaction.check (expectedActor store session existing)
  let marker ← Transaction.check (checkedMarker store place expected)
  let entry ← adoptEntry place expected existing marker
  refreshEntry place expected entry

structure Mutation (α : Type) where
  entry : ActorDirectoryEntry
  value : α
  changed : Bool

def Mutation.change (entry : ActorDirectoryEntry) (value : α) : Mutation α :=
  { entry, value, changed := true }

def Mutation.keep (entry : ActorDirectoryEntry) (value : α) : Mutation α :=
  { entry, value, changed := false }

def commitMutation (place : Place) (mutation : Mutation α) : Transacted α := do
  if mutation.changed then
    let entry ← Transaction.check mutation.entry.revised
    writeActorEntry place entry
    pure mutation.value
  else pure mutation.value

def actorTransaction (store : Store) (actorId : String)
    (operation : ActorDirectoryEntry → Result (Mutation α)) : Transacted α := do
  let place ← Transaction.check (lockActorRuntime store actorId)
  let entry ← readOrCreateActorEntry store place
  let mutation ← Transaction.check (operation entry)
  commitMutation place mutation

end Actors
