import BambooAgent.Actors.Operations

/- The saves of sessions that happen between directory transactions, and the acts of a run. A
   title or pin save also carries the observations of its tree forward, after the session. -/
namespace Actors
open Sessions Transactions

/- Ordinary saves, full or of the runtime state. -/

def existsElsewhere (store : Store) (place : Place) : Bool :=
  (store.session (.root place.id)).isSome ||
    store.roots.any (fun rootId =>
      rootId != place.rootId && (store.session (.child rootId place.id)).isSome)

def sameBirth (current incoming : Session) : Bool :=
  decide (current.id = incoming.id) && decide (current.rootSessionId = incoming.rootSessionId) &&
    decide (current.parentSessionId = incoming.parentSessionId) &&
    decide (current.parentCreatedAt = incoming.parentCreatedAt) &&
    decide (current.spawnDepth = incoming.spawnDepth) &&
    decide (current.createdAt = incoming.createdAt)

def validateChildProjectForWrite (store : Store) (place : Place) (incoming : Session) :
    Result Unit :=
  match store.session place with
  | none => if existsElsewhere store place then .error .storage else .ok ()
  | some current =>
    if ¬ sameBirth current incoming then .error .storage
    else if current.projectIdMeta ≠ incoming.projectIdMeta then .error .storage
    else .ok ()

def acceptsSave (store : Store) (place : Place) (session : Session) : Result Unit :=
  if session.id ≠ place.id ∨ session.kind ≠ place.kind then .error .storage
  else
    match place.kind with
    | .root =>
      if session.rootSessionId = "" ∨ session.rootSessionId = place.rootId then .ok ()
      else .error .storage
    | .child =>
      if session.rootSessionId ≠ place.rootId then .error .storage
      else validateChildProjectForWrite store place session

def saveSession (store : Store) (place : Place) (session : Session) : Transacted Unit := do
  Transaction.check (acceptsSave store place session)
  Transaction.put (.session place session)

/- Title and pin saves. -/

inductive Presentation where
  | title (title : String) (generated : Bool)
  | pinned

def presented (previous : Session) (updatedAt : Nat) : Presentation → Result Session
  | .title title generated => do
    let titleVersion ← checkedNext previous.titleVersion
    let metadataVersion ← checkedNext previous.metadataVersion
    .ok { previous with
      title, titleGenerated := generated, titleVersion, metadataVersion, updatedAt }
  | .pinned => do
    let metadataVersion ← checkedNext previous.metadataVersion
    .ok { previous with pinned := !previous.pinned, metadataVersion, updatedAt }

def validateCensusWitnesses (entry : ActorDirectoryEntry) (marker : ActorInitializedMarker)
    (session : Session) (project : Option String) : Result Unit :=
  if ¬ entry.Valid ∨ ¬ entry.actor.matchesSession session ∨ entry.actor.projectId ≠ project ∨
      marker.schemaVersion ≠ actorDirectorySchemaVersion ∨ marker.actorId ≠ session.id ∨
      marker.sessionCreatedAt ≠ session.createdAt then .error .storage
  else .ok ()

/-- The initialized row of a directory, which must say exactly what the sessions say now. -/
def titleObservationRow (store : Store) (place : Place) : Result (Option ActorDirectoryEntry) :=
  match store.record place, store.marker place with
  | none, none => .ok none
  | some entry, some marker => do
    let located ← scanActorRelPath store place.id
    if ¬ validateSessionId place.id ∨ located ≠ place then .error .storage
    else
      let session ← loadDurable store place .storage
      let expected ← ActorSession.fromSession session
      validateCensusWitnesses entry marker session expected.projectId
      let lineage ← validateActorLineageWithRecord store expected (some entry.actor)
      if entry.actor.projectId ≠ session.projectIdMeta ∨
          entry.actor.observedMetadataVersion ≠ session.metadataVersion ∨
          entry.actor.ancestorObservations ≠ lineage then .error .storage
      else .ok (some entry)
  | _, _ => .error .storage

def carried (id : String) (version : Nat) (actor : ActorSession) : ActorSession :=
  { actor with
    observedMetadataVersion :=
      if actor.actorId = id then version else actor.observedMetadataVersion,
    ancestorObservations := actor.ancestorObservations.map (fun ancestor =>
      if ancestor.actorId = id then { ancestor with metadataVersion := version } else ancestor) }

def carries (id : String) (actor : ActorSession) : Bool :=
  actor.actorId == id || actor.ancestorObservations.any (fun ancestor => ancestor.actorId == id)

def carryRow (id : String) (version : Nat) (place : Place) (entry : ActorDirectoryEntry) :
    Result (Option Write) :=
  if carries id entry.actor then do
    let revised ← ({ entry with actor := carried id version entry.actor } :
      ActorDirectoryEntry).revised
    revised.validate
    .ok (some (.record place revised))
  else .ok none

def carryFresh (id : String) (version : Nat) (place : Place) :
    Option ActorDirectoryEntry → Result (Option Write)
  | none => .ok none
  | some entry => carryRow id version place entry

def carryRows (store : Store) (id : String) (version : Nat) : List Place → Result (List Write)
  | [] => .ok []
  | place :: rest => do
    let row ← titleObservationRow store place
    let write ← carryFresh id version place row
    let writes ← carryRows store id version rest
    .ok (write.toList ++ writes)

def treePlaces (rootId : String) (children : List String) : List Place :=
  .root rootId :: children.map (fun id => .child rootId id)

def ordinaryTitleTree (store : Store) (place : Place) (current : Session) : Result Bool :=
  match place with
  | .root _ => .ok (decide (current.authorityIdentity = .ordinary))
  | .child rootId _ => do
    match ← loadSessionFromDirStrict store (.root rootId) with
    | none => .ok false
    | some root => .ok (decide (root.authorityIdentity = .ordinary))

/-- The session is written before the rows: an observation never leads what it observes. -/
def savePresentation (store : Store) (place : Place) (children : List String)
    (change : Presentation) (updatedAt : Nat) : Transacted Unit := do
  let previous ← Transaction.check (loadDurable store place .storage)
  let ordinary ← Transaction.check (ordinaryTitleTree store place previous)
  let incoming ← Transaction.check (presented previous updatedAt change)
  let rows ← Transaction.check
    (if ordinary then
      carryRows store previous.id incoming.metadataVersion (treePlaces place.rootId children)
    else .ok [])
  Transaction.put (.session place incoming)
  ⟨rows, .ok ()⟩

/- Runs. -/

inductive Act where
  | ensure (actorId : String)
  | bindControlPlane (actorId : String) (binding : ActorControlPlaneBinding)
  | claim (claim : ActorActivationClaim) (uuid : Uuid)
  | claimRoot (claim : ActorActivationClaim) (expected : Session) (uuid : Uuid)
  | start (fence : ActorActivationFence) (now : Nat)
  | renew (fence : ActorActivationFence) (now leaseExpiresAt : Nat)
  | checkpoint (fence : ActorActivationFence) (now expectedCheckpointRevision : Nat)
  | finish (fence : ActorActivationFence) (now : Nat) (outcome : ActorActivationFinish)
  | validateFence (fence : ActorActivationFence) (now : Nat)
  | retire (actorId : String) (now : Nat)
  | retireIfActivation (fence : ActorActivationFence) (now : Nat)
  | cancelDescendants (rootId childId : String) (children : List String)
      (distinct : children.Nodup) (now : Nat)
  | save (place : Place) (session : Session)
  | savePresentation (place : Place) (children : List String) (distinct : children.Nodup)
      (change : Presentation) (updatedAt : Nat)

def done (t : Transacted α) : Transacted Unit := do
  let _ ← t

def transaction (rules : Rules) (store : Store) : Act → Transacted Unit
  | .ensure actorId => done (ensureActor store actorId)
  | .bindControlPlane actorId binding => done (bindControlPlane store actorId binding)
  | .claim claim uuid => done (claimActivation store claim uuid)
  | .claimRoot claim expected uuid =>
    done (claimRootActivationObserved rules store claim expected uuid)
  | .start fence now => done (startActivation store fence now)
  | .renew fence now leaseExpiresAt => done (renewActivation store fence now leaseExpiresAt)
  | .checkpoint fence now expected => done (checkpointActivation store fence now expected)
  | .finish fence now outcome => done (finishActivation store fence now outcome)
  | .validateFence fence now => validateFence store fence now
  | .retire actorId now => done (retireActor store actorId now)
  | .retireIfActivation fence now => done (retireActorIfActivation store fence now)
  | .cancelDescendants rootId childId children _ now =>
    cancelDescendantActivations store rootId childId children now
  | .save place session => saveSession store place session
  | .savePresentation place children _ change updatedAt =>
    savePresentation store place children change updatedAt

/-- An act and the number of its durable writes after which the process stops, at the latest. -/
structure Event where
  act : Act
  writes : Nat

def step (rules : Rules) (store : Store) (event : Event) : Store :=
  (transaction rules store event.act).stopped Store.write store event.writes

end Actors
