import BambooAgent.Actors.Authority
import BambooAgent.Sessions.Merging

/- The operations of the directory. Each is a transaction over one actor's record, apart from
   the cancellation of a deleted child's descendants, which goes over all children of a tree. -/
namespace Actors
open Sessions Transactions

/-- What the observed claim asks of a session that this model does not look into. -/
structure Rules where
  codec : Codec
  compactionPending : Session → Bool

/-- The text of a fresh identifier. -/
structure Uuid where
  text : String
  named : text ≠ ""

def ensureActor (store : Store) (actorId : String) : Transacted ActorDirectoryEntry :=
  actorTransaction store actorId (fun entry => .ok (.keep entry entry))

/- Policy and placement. -/

def bindEntry (binding : ActorControlPlaneBinding) (entry : ActorDirectoryEntry) :
    Result (Mutation ActorDirectoryEntry) :=
  let policyChanged := binding.policyRevision.isSome ∧
    entry.actor.policyRevision ≠ binding.policyRevision
  let placementChanged := binding.placementIntent.isSome ∧
    entry.actor.placementIntent ≠ binding.placementIntent
  if ¬ policyChanged ∧ ¬ placementChanged then .ok (.keep entry entry)
  else if placementChanged ∧ entry.actor.placementIntent.isSome then
    .error .placementIntentConflict
  else if policyChanged ∧ entry.actor.policyRevision.any (fun previous =>
      binding.policyRevision.all (fun revision => decide (revision ≤ previous))) then
    .error .policyTransitionBlocked
  else if entry.actor.state = .active ∨ entry.actor.state = .retired then
    .error (if policyChanged then .policyTransitionBlocked else .placementIntentConflict)
  else do
    let bound := { entry with actor := { entry.actor with
      policyRevision := binding.policyRevision.or entry.actor.policyRevision,
      placementIntent := binding.placementIntent.or entry.actor.placementIntent } }
    let returned ← bound.revised
    .ok (.change bound returned)

def bindControlPlane (store : Store) (actorId : String) (binding : ActorControlPlaneBinding) :
    Transacted ActorDirectoryEntry :=
  if binding.placementIntent.any (fun intent => !intent.isValid) then
    Transaction.check (.error .invalidTransition)
  else actorTransaction store actorId (bindEntry binding)

/- Claiming. -/

def validateClaim (claim : ActorActivationClaim) : Result Unit :=
  if Compression.trim claim.runId = "" ∨ Compression.trim claim.leaseOwner = "" ∨
      claim.leaseExpiresAt ≤ claim.now then .error .invalidTransition
  else .ok ()

/-- A repeated claim of the activation that is running already. -/
def sameClaim (active : ActorActivation) (claim : ActorActivationClaim) : Bool :=
  active.runId == claim.runId && active.leaseOwner == claim.leaseOwner &&
    active.leaseExpiresAt == claim.leaseExpiresAt &&
    active.inboxGeneration == claim.inboxGeneration && active.placementRef == claim.placementRef

def unexpired (activation : ActorActivation) (now : Nat) : Bool :=
  activation.status.isLive && decide (now < activation.leaseExpiresAt)

def newActivation (entry : ActorDirectoryEntry) (claim : ActorActivationClaim) (uuid : Uuid)
    (attempt leaseEpoch : Nat) : ActorActivation :=
  { schemaVersion := actorDirectorySchemaVersion, actorId := entry.actor.actorId,
    activationId := uuid.text, attempt, runId := claim.runId, leaseOwner := claim.leaseOwner,
    leaseEpoch, leaseExpiresAt := claim.leaseExpiresAt, projectId := entry.actor.projectId,
    inboxGeneration := claim.inboxGeneration, placementRef := claim.placementRef,
    status := .reserved, checkpointRevision := 0, startedAt := none, finishedAt := none }

def claimNext (entry : ActorDirectoryEntry) (claim : ActorActivationClaim) (uuid : Uuid) :
    Result (Mutation ActorActivation) := do
  let attempt ← checkedNext entry.actor.currentAttempt
  let leaseEpoch ← checkedNext (entry.activation.elim 0 ActorActivation.leaseEpoch)
  let activation := newActivation entry claim uuid attempt leaseEpoch
  .ok (.change
    { entry with
      actor := { entry.actor with currentAttempt := attempt, state := .active },
      activation := some activation } activation)

def claimEntry (claim : ActorActivationClaim) (uuid : Uuid) (entry : ActorDirectoryEntry) :
    Result (Mutation ActorActivation) := do
  validateClaim claim
  if entry.actor.state = .retired then .error .invalidTransition
  else
    match entry.activation with
    | none => claimNext entry claim uuid
    | some active =>
      if unexpired active claim.now then
        if sameClaim active claim then .ok (.keep entry active) else .error .busy
      else claimNext entry claim uuid

def claimActivation (store : Store) (claim : ActorActivationClaim) (uuid : Uuid) :
    Transacted ActorActivation := do
  Transaction.check (validateClaim claim)
  actorTransaction store claim.actorId (claimEntry claim uuid)

def rejectIncompatibleSessionWrite (rules : Rules) (session : Session) : Result Unit :=
  match ensureSessionExecutionCompatible session,
      validateConversationState rules.codec session with
  | .ok (), .ok () => .ok ()
  | _, _ => .error .storage

/-- The caller's copy of the root is the durable one, at most one revision behind. -/
def sameLifetime (expected current : Session) : Bool :=
  decide (current.kind = .root) && decide (current.authorityIdentity = .ordinary) &&
    decide (expected.createdAt = current.createdAt) &&
    decide (expected.authorityIdentity = current.authorityIdentity) &&
    decide (expected.metadataVersion ≤ current.metadataVersion) &&
    decide (current.metadataVersion - expected.metadataVersion ≤ 1) &&
    decide (expected.projectIdMeta = current.projectIdMeta) &&
    decide (expected.parentSessionId = current.parentSessionId) &&
    decide (expected.parentCreatedAt = current.parentCreatedAt) &&
    decide (expected.spawnDepth = current.spawnDepth) &&
    (expected.rootSessionId == "" || expected.rootSessionId == current.id)

def observedRoot (rules : Rules) (store : Store) (place : Place)
    (claim : ActorActivationClaim) (expected : Session) : Result Unit := do
  let current ← loadDurable store place .invalidIdentity
  rejectIncompatibleSessionWrite rules current
  rejectIncompatibleSessionWrite rules expected
  match checkConversationGeneration rules.codec expected current with
  | .error _ => .error .invalidIdentity
  | .ok () =>
    if ¬ sameLifetime expected current then .error .invalidIdentity
    else if isRootCompactionLeaseOwner claim.leaseOwner ∧
        (current.lastRunStatus ∈ [some "pending", some "running", some "suspended"] ∨
          rules.compactionPending current) then .error .busy
    else .ok ()

def claimRootActivationObserved (rules : Rules) (store : Store) (claim : ActorActivationClaim)
    (expected : Session) (uuid : Uuid) : Transacted ActorActivation := do
  Transaction.check (validateClaim claim)
  if claim.actorId ≠ expected.id ∨ expected.kind ≠ .root then
    Transaction.check (.error .invalidIdentity)
  else
    let place ← Transaction.check (lockActorRuntime store claim.actorId)
    Transaction.check (observedRoot rules store place claim expected)
    let entry ← readOrCreateActorEntry store place
    let mutation ← Transaction.check (claimEntry claim uuid entry)
    commitMutation place mutation

/- Operations under a fence. -/

def currentLive (entry : ActorDirectoryEntry) (fence : ActorActivationFence) (now : Nat) :
    Result ActorActivation :=
  match entry.activation with
  | none => .error .staleFence
  | some activation =>
    if entry.actor.state ≠ .active ∨ activation.status.isLive = false ∨
        activation.leaseExpiresAt ≤ now ∨ activation.fence ≠ fence then .error .staleFence
    else .ok activation

def ActorDirectoryEntry.activated (entry : ActorDirectoryEntry) (activation : ActorActivation) :
    ActorDirectoryEntry :=
  { entry with activation := some activation }

def startEntry (fence : ActorActivationFence) (now : Nat) (entry : ActorDirectoryEntry) :
    Result (Mutation ActorActivation) := do
  let activation ← currentLive entry fence now
  if activation.status = .running then .ok (.keep entry activation)
  else
    let started := { activation with status := .running, startedAt := some now }
    .ok (.change (entry.activated started) started)

def startActivation (store : Store) (fence : ActorActivationFence) (now : Nat) :
    Transacted ActorActivation :=
  actorTransaction store fence.actorId (startEntry fence now)

def renewEntry (fence : ActorActivationFence) (now leaseExpiresAt : Nat)
    (entry : ActorDirectoryEntry) : Result (Mutation ActorActivation) :=
  match entry.activation with
  | none => .error .staleFence
  | some activation =>
    if entry.actor.state ≠ .active ∨ activation.status.isLive = false ∨
        activation.fence ≠ fence then .error .staleFence
    else if leaseExpiresAt ≤ activation.leaseExpiresAt ∨ leaseExpiresAt ≤ now then
      .error .invalidTransition
    else
      let renewed := { activation with leaseExpiresAt }
      .ok (.change (entry.activated renewed) renewed)

def renewActivation (store : Store) (fence : ActorActivationFence) (now leaseExpiresAt : Nat) :
    Transacted ActorActivation :=
  actorTransaction store fence.actorId (renewEntry fence now leaseExpiresAt)

def checkpointEntry (fence : ActorActivationFence) (now expectedCheckpointRevision : Nat)
    (entry : ActorDirectoryEntry) : Result (Mutation ActorActivation) := do
  let active ← currentLive entry fence now
  if active.status ≠ .running then .error .invalidTransition
  else if active.checkpointRevision ≠ expectedCheckpointRevision then .error .staleFence
  else
    let next ← checkedNext expectedCheckpointRevision
    let checkpointed := { active with checkpointRevision := next }
    .ok (.change (entry.activated checkpointed) checkpointed)

def checkpointActivation (store : Store) (fence : ActorActivationFence)
    (now expectedCheckpointRevision : Nat) : Transacted ActorActivation :=
  actorTransaction store fence.actorId (checkpointEntry fence now expectedCheckpointRevision)

def finishStatus : ActorActivationFinish → ActorActivationStatus
  | .succeeded => .succeeded
  | .failed => .failed
  | .cancelled => .cancelled

/-- This very end of the activation has been recorded before. -/
def finishedAlready (entry : ActorDirectoryEntry) (fence : ActorActivationFence)
    (outcome : ActorActivationFinish) : Option ActorActivation :=
  entry.activation.filter (fun activation =>
    !activation.status.isLive && decide (activation.fence = fence) &&
      decide (activation.status = finishStatus outcome))

def finishEntry (fence : ActorActivationFence) (now : Nat) (outcome : ActorActivationFinish)
    (entry : ActorDirectoryEntry) : Result (Mutation ActorActivation) :=
  match finishedAlready entry fence outcome with
  | some activation => .ok (.keep entry activation)
  | none => do
    let current ← currentLive entry fence now
    if outcome = .succeeded ∧ current.status ≠ .running then .error .invalidTransition
    else
      let ended := { current with status := finishStatus outcome, finishedAt := some now }
      let actor :=
        { entry.actor with state := if outcome = .failed then .failed else .cold }
      .ok (.change { entry with actor, activation := some ended } ended)

def finishActivation (store : Store) (fence : ActorActivationFence) (now : Nat)
    (outcome : ActorActivationFinish) : Transacted ActorActivation :=
  actorTransaction store fence.actorId (finishEntry fence now outcome)

def validateFence (store : Store) (fence : ActorActivationFence) (now : Nat) :
    Transacted Unit :=
  actorTransaction store fence.actorId (fun entry => do
    let _ ← currentLive entry fence now
    .ok (.keep entry ()))

/- Retirement and forced cancellation, which also move the lease epoch. -/

def revoke (activation : ActorActivation) (now : Nat) : Result ActorActivation :=
  if activation.status.isLive then do
    let leaseEpoch ← checkedNext activation.leaseEpoch
    .ok { activation with
      leaseEpoch, status := .cancelled, finishedAt := some now, leaseExpiresAt := now }
  else .ok activation

def revokeAny : Option ActorActivation → Nat → Result (Option ActorActivation)
  | none, _ => .ok none
  | some activation, now => do
    let revoked ← revoke activation now
    .ok (some revoked)

def ActorDirectoryEntry.retiring (entry : ActorDirectoryEntry) (now : Nat) :
    Result ActorDirectoryEntry := do
  let activation ← revokeAny entry.activation now
  .ok { entry with actor := { entry.actor with state := .retired }, activation }

def retireEntry (now : Nat) (entry : ActorDirectoryEntry) :
    Result (Mutation ActorDirectoryEntry) :=
  if entry.actor.state = .retired then .ok (.keep entry entry)
  else do
    let retired ← entry.retiring now
    let returned ← retired.revised
    .ok (.change retired returned)

def retireActor (store : Store) (actorId : String) (now : Nat) :
    Transacted ActorDirectoryEntry :=
  actorTransaction store actorId (retireEntry now)

def retireIfEntry (fence : ActorActivationFence) (now : Nat) (entry : ActorDirectoryEntry) :
    Result (Mutation Bool) :=
  if entry.actor.state = .retired ∨
      ¬ entry.activation.any (fun activation => activation.fence = fence) then
    .ok (.keep entry false)
  else do
    let retired ← entry.retiring now
    .ok (.change retired true)

def retireActorIfActivation (store : Store) (fence : ActorActivationFence) (now : Nat) :
    Transacted Bool :=
  actorTransaction store fence.actorId (retireIfEntry fence now)

def cancelEntry (now : Nat) (entry : ActorDirectoryEntry) (activation : ActorActivation) :
    Result ActorDirectoryEntry := do
  let revoked ← revoke activation now
  let cancelled : ActorDirectoryEntry :=
    { entry with actor := { entry.actor with state := .cold }, activation := some revoked }
  let revised ← cancelled.revised
  revised.validate
  .ok revised

/-- What the deletion of a child finds in one other directory of its tree: nothing to do, a row
    to replace, or damage that stops the deletion. -/
def descendantRow (store : Store) (rootId childId : String) (now : Nat) (id : String) :
    Result (Option Write) :=
  let place := Place.child rootId id
  match store.record place, store.marker place with
  | none, none => .ok none
  | none, some _ => .error .corrupt
  | some entry, marker => do
    entry.validate
    if entry.actor.actorId ≠ id ∨ entry.actor.rootActorId ≠ rootId ∨
        entry.actor.parentActorId.isNone then .error .corrupt
    else
      match marker with
      | none =>
        if entry.actor.currentAttempt = 0 ∧ entry.actor.state = .cold ∧ entry.activation = none
        then .ok none else .error .corrupt
      | some marker =>
        if marker ≠ initializedMarker entry.actor then .error .corrupt
        else if ¬ entry.actor.ancestorObservations.any (fun ancestor =>
            ancestor.actorId == childId) then .ok none
        else
          match entry.activation.filter (fun activation => activation.status.isLive) with
          | none => .ok none
          | some activation => do
            let cancelled ← cancelEntry now entry activation
            .ok (some (.record place cancelled))

def descendantRows (store : Store) (rootId childId : String) (now : Nat) :
    List String → Result (List Write)
  | [] => .ok []
  | id :: rest =>
    if id = childId then descendantRows store rootId childId now rest
    else do
      let row ← descendantRow store rootId childId now id
      let rows ← descendantRows store rootId childId now rest
      .ok (row.toList ++ rows)

/-- `children` are the directories of the tree's children, in the order of their replacement. -/
def cancelDescendantActivations (store : Store) (rootId childId : String)
    (children : List String) (now : Nat) : Transacted Unit :=
  match descendantRows store rootId childId now children with
  | .error refused => ⟨[], .error refused⟩
  | .ok rows => ⟨rows, .ok ()⟩

end Actors
