import BambooAgent.Sessions.Session

/- The record that fences an actor's execution attempts: the logical actor taken from its
   session, the current activation, and what the fields of the two must say together. -/
namespace Actors
open Sessions
open Compression (trim containsText)

def actorDirectorySchemaVersion : Nat := 2
def u64Max : Nat := 2 ^ 64 - 1

inductive ActorDirectoryError where
  | notFound (actorId : String)
  | invalidIdentity
  | projectTransitionBlocked
  | policyTransitionBlocked
  | placementIntentConflict
  | corrupt
  | busy
  | staleFence
  | invalidTransition
  | counterOverflow
  | storage
  deriving DecidableEq

abbrev Result (α : Type) := Except ActorDirectoryError α

def checkedNext (value : Nat) : Result Nat :=
  if value < u64Max then .ok (value + 1) else .error .counterOverflow

def validActorId (value : String) : Bool :=
  !value.isEmpty && trim value == value && !containsText value "/" &&
    !containsText value "\\" && !containsText value ".."

/-- `ProjectId::parse` accepts the text. -/
def isProjectId (value : String) : Bool :=
  !value.isEmpty && decide (value.utf8ByteSize ≤ 64) &&
    value.toList.all (fun c => c.isAlphanum || c == '-' || c == '_')

inductive ActorLogicalState where
  | cold
  | active
  | failed
  | retired
  deriving DecidableEq

inductive ActorPlacementIntent where
  | «local»
  | pool (poolId : String)
  | pinnedHost (hostRef : String)
  deriving DecidableEq

def ActorPlacementIntent.isValid : ActorPlacementIntent → Bool
  | .local => true
  | .pool poolId => !(trim poolId).isEmpty && trim poolId == poolId
  | .pinnedHost hostRef => !(trim hostRef).isEmpty && trim hostRef == hostRef

structure ActorControlPlaneBinding where
  policyRevision : Option Nat
  placementIntent : Option ActorPlacementIntent

inductive ActorPlacementClass where
  | «local»
  | docker
  | ssh
  | remote
  | schedulable
  deriving DecidableEq

structure ActorPlacementRef where
  class_ : ActorPlacementClass
  leaseId : String
  slotEpoch : Option Nat
  deriving DecidableEq

structure ActorAncestorObservation where
  actorId : String
  sessionCreatedAt : Nat
  metadataVersion : Nat
  deriving DecidableEq

structure ActorSession where
  schemaVersion : Nat
  actorId : String
  sessionCreatedAt : Nat
  parentActorId : Option String
  rootActorId : String
  projectId : Option String
  observedMetadataVersion : Nat
  ancestorObservations : List ActorAncestorObservation
  spawnDepth : Nat
  state : ActorLogicalState
  currentAttempt : Nat
  policyRevision : Option Nat
  placementIntent : Option ActorPlacementIntent
  deriving DecidableEq

/-- The project that a session names, trimmed and parsed. -/
def sessionProject (session : Session) : Result (Option String) :=
  match session.projectIdMeta with
  | none => .ok none
  | some id => if isProjectId (trim id) then .ok (some (trim id)) else .error .invalidIdentity

def sessionParent (session : Session) : Result (Option String) :=
  match session.kind with
  | .root =>
    if session.parentSessionId.isSome ∨ session.spawnDepth ≠ 0 ∨
        session.rootSessionId ≠ session.id then .error .invalidIdentity
    else .ok none
  | .child =>
    match session.parentSessionId with
    | none => .error .invalidIdentity
    | some parent =>
      if ¬ validActorId parent ∨ parent = session.id ∨ session.rootSessionId = session.id ∨
          session.spawnDepth = 0 then .error .invalidIdentity
      else .ok (some parent)

def ActorSession.fromSession (session : Session) : Result ActorSession :=
  if ¬ validActorId session.id ∨ ¬ validActorId session.rootSessionId then
    .error .invalidIdentity
  else
    match sessionParent session with
    | .error refused => .error refused
    | .ok parent =>
      match sessionProject session with
      | .error refused => .error refused
      | .ok project =>
        .ok
          { schemaVersion := actorDirectorySchemaVersion, actorId := session.id,
            sessionCreatedAt := session.createdAt, parentActorId := parent,
            rootActorId := session.rootSessionId, projectId := project,
            observedMetadataVersion := session.metadataVersion, ancestorObservations := [],
            spawnDepth := session.spawnDepth, state := .cold, currentAttempt := 0,
            policyRevision := none, placementIntent := none }

def ActorSession.matchesSession (actor : ActorSession) (session : Session) : Bool :=
  match ActorSession.fromSession session with
  | .error _ => false
  | .ok expected =>
    actor.schemaVersion == expected.schemaVersion && actor.actorId == expected.actorId &&
      actor.sessionCreatedAt == expected.sessionCreatedAt &&
      actor.parentActorId == expected.parentActorId &&
      actor.rootActorId == expected.rootActorId && actor.spawnDepth == expected.spawnDepth

inductive ActorActivationStatus where
  | reserved
  | running
  | succeeded
  | failed
  | cancelled
  deriving DecidableEq

def ActorActivationStatus.isLive : ActorActivationStatus → Bool
  | .reserved | .running => true
  | .succeeded | .failed | .cancelled => false

structure ActorActivation where
  schemaVersion : Nat
  actorId : String
  activationId : String
  attempt : Nat
  runId : String
  leaseOwner : String
  leaseEpoch : Nat
  leaseExpiresAt : Nat
  projectId : Option String
  inboxGeneration : Nat
  placementRef : Option ActorPlacementRef
  status : ActorActivationStatus
  checkpointRevision : Nat
  startedAt : Option Nat
  finishedAt : Option Nat
  deriving DecidableEq

structure ActorActivationFence where
  schemaVersion : Nat
  actorId : String
  activationId : String
  attempt : Nat
  runId : String
  leaseOwner : String
  leaseEpoch : Nat
  deriving DecidableEq

def ActorActivation.fence (activation : ActorActivation) : ActorActivationFence :=
  { schemaVersion := activation.schemaVersion, actorId := activation.actorId,
    activationId := activation.activationId, attempt := activation.attempt,
    runId := activation.runId, leaseOwner := activation.leaseOwner,
    leaseEpoch := activation.leaseEpoch }

structure ActorDirectoryEntry where
  schemaVersion : Nat
  revision : Nat
  actor : ActorSession
  activation : Option ActorActivation
  deriving DecidableEq

def ActorDirectoryEntry.new (actor : ActorSession) : ActorDirectoryEntry :=
  { schemaVersion := actorDirectorySchemaVersion, revision := 1, actor, activation := none }

/- What `validate` asks of an entry, group by group. -/

def ActorSession.placedWell (actor : ActorSession) : Bool :=
  match actor.parentActorId with
  | none =>
    actor.spawnDepth == 0 && actor.rootActorId == actor.actorId &&
      actor.ancestorObservations.isEmpty
  | some parent =>
    validActorId parent && parent != actor.actorId && actor.rootActorId != actor.actorId &&
      actor.spawnDepth != 0 && actor.ancestorObservations.length == actor.spawnDepth &&
      actor.ancestorObservations.head?.any (fun ancestor => ancestor.actorId == parent) &&
      actor.ancestorObservations.getLast?.any
        (fun ancestor => ancestor.actorId == actor.rootActorId)

def ActorPlacementRef.isValid (placement : ActorPlacementRef) (live : Bool) : Bool :=
  !(trim placement.leaseId).isEmpty &&
    !((placement.class_ == .remote || placement.class_ == .schedulable) && live &&
      !placement.slotEpoch.any (fun epoch => decide (0 < epoch)))

def expectedState : ActorActivationStatus → ActorLogicalState
  | .reserved | .running => .active
  | .succeeded | .cancelled => .cold
  | .failed => .failed

@[mk_iff]
structure ActorSession.Sound (actor : ActorSession) : Prop where
  schema : actor.schemaVersion = actorDirectorySchemaVersion
  actorId : validActorId actor.actorId = true
  rootActorId : validActorId actor.rootActorId = true
  project : actor.projectId.all isProjectId = true
  placed : actor.placedWell = true
  intent : actor.placementIntent.all ActorPlacementIntent.isValid = true

@[mk_iff]
structure ActorActivation.Fits (activation : ActorActivation) (actor : ActorSession) : Prop where
  actorId : activation.actorId = actor.actorId
  schema : activation.schemaVersion = actorDirectorySchemaVersion
  attempted : 0 < activation.attempt
  attempt : activation.attempt = actor.currentAttempt
  leased : 0 < activation.leaseEpoch
  epoch : activation.attempt ≤ activation.leaseEpoch
  named : activation.activationId ≠ ""
  run : trim activation.runId ≠ ""
  owner : trim activation.leaseOwner ≠ ""
  project : activation.projectId.all isProjectId = true
  sameProject : activation.status.isLive = true → activation.projectId = actor.projectId
  placement : activation.placementRef.all (fun placement =>
    placement.isValid activation.status.isLive) = true
  state : actor.state = expectedState activation.status ∨ actor.state = .retired
  retired : ¬ (actor.state = .retired ∧ activation.status.isLive = true)
  finished : activation.finishedAt.isSome = !activation.status.isLive
  unstarted : activation.status = .reserved → activation.startedAt = none
  started : activation.status = .running ∨ activation.status = .succeeded →
    activation.startedAt.isSome = true

def Inactive (actor : ActorSession) : Prop :=
  (actor.currentAttempt = 0 ∧ actor.state = .cold) ∨ actor.state = .retired

def Attempted (actor : ActorSession) : Option ActorActivation → Prop
  | none => Inactive actor
  | some activation => activation.Fits actor

@[mk_iff]
structure ActorDirectoryEntry.Valid (entry : ActorDirectoryEntry) : Prop where
  schema : entry.schemaVersion = actorDirectorySchemaVersion
  revised : 0 < entry.revision
  actor : entry.actor.Sound
  attempted : Attempted entry.actor entry.activation

instance (actor : ActorSession) : Decidable actor.Sound :=
  decidable_of_iff _ (ActorSession.sound_iff actor).symm

instance (activation : ActorActivation) (actor : ActorSession) :
    Decidable (activation.Fits actor) :=
  decidable_of_iff _ (ActorActivation.fits_iff activation actor).symm

instance (actor : ActorSession) : ∀ activation, Decidable (Attempted actor activation)
  | none => inferInstanceAs (Decidable (_ ∨ _))
  | some activation => inferInstanceAs (Decidable (activation.Fits actor))

instance (entry : ActorDirectoryEntry) : Decidable entry.Valid :=
  decidable_of_iff _ (ActorDirectoryEntry.valid_iff entry).symm

def ActorDirectoryEntry.validate (entry : ActorDirectoryEntry) : Result Unit :=
  if entry.Valid then .ok () else .error .corrupt

structure ActorActivationClaim where
  actorId : String
  runId : String
  leaseOwner : String
  leaseExpiresAt : Nat
  inboxGeneration : Nat
  placementRef : Option ActorPlacementRef
  now : Nat

inductive ActorActivationFinish where
  | succeeded
  | failed
  | cancelled
  deriving DecidableEq

def rootCompactionLeaseOwnerPrefix : String := "root-compaction-"

def isRootCompactionLeaseOwner (owner : String) : Bool :=
  rootCompactionLeaseOwnerPrefix.toList.isPrefixOf owner.toList

end Actors
