import BambooAgent.Sessions.Session

/- The permission posture of a session: the typed mode and the audit record that moves with
   it. -/
namespace Sessions
open SortedMaps Compression

inductive PermissionMode where
  | default
  | plan
  | acceptEdits
  | dontAsk
  | bypassPermissions
  | auto
  deriving DecidableEq

def PermissionMode.asStr : PermissionMode → String
  | .default => "default"
  | .plan => "plan"
  | .acceptEdits => "accept_edits"
  | .dontAsk => "dont_ask"
  | .bypassPermissions => "bypass"
  | .auto => "auto"

def PermissionMode.fromAuditStr (value : String) : Option PermissionMode :=
  [.default, .plan, .acceptEdits, .dontAsk, .bypassPermissions, .auto].find?
    (fun mode => PermissionMode.asStr mode == value)

def SessionPermissionMode.asStr : SessionPermissionMode → String
  | .default => "default"
  | .bypass => "bypass"
  | .auto => "auto"

def SessionPermissionMode.fromAuditStr (value : String) : Option SessionPermissionMode :=
  [.default, .bypass, .auto].find? (fun mode => SessionPermissionMode.asStr mode == value)

structure PermissionModeResolution where
  requested : SessionPermissionMode
  effective : PermissionMode

def resolvePermissionMode (requested : SessionPermissionMode) (configured : PermissionMode) :
    PermissionModeResolution :=
  { requested,
    effective :=
      match configured, requested with
      | .plan, _ => .plan
      | _, .auto => .auto
      | _, .bypass => .bypassPermissions
      | _, .default => configured }

def PermissionModeResolution.isConsistent (resolution : PermissionModeResolution) : Bool :=
  match resolution.effective with
  | .plan => true
  | .auto => decide (resolution.requested ≠ .bypass)
  | .bypassPermissions => decide (resolution.requested ≠ .auto)
  | _ => decide (resolution.requested = .default)

def auditRevisionKey : String := "permission.audit_revision"
def policyRevisionKey : String := "permission.policy_revision"
def requestedModeKey : String := "permission.requested_mode"
def effectiveModeKey : String := "permission.effective_mode"
def executorMappingKey : String := "permission.executor_mapping"
def transitionedAtKey : String := "permission.transitioned_at"

def maxExecutorMappingChars : Nat := 128
def maxAuditRevision : Nat := 2 ^ 63 - 1
def maxTransitionTimestampChars : Nat := 64

/-- `str::parse::<u64>`: an optional plus sign and decimal digits. -/
def parseU64 (value : String) : Option Nat :=
  let digits := match value.toList with
    | '+' :: rest => rest
    | all => all
  if digits.isEmpty ∨ ¬ digits.all Char.isDigit then none
  else
    let number := digits.foldl (fun n c => 10 * n + (c.toNat - '0'.toNat)) 0
    if number ≤ u64Max then some number else none

/-- What one call reads of the process: its clock and its audit counter. -/
structure Clock where
  now : String
  wallRevision : Nat
  auditRevision : Nat

structure PermissionAuditSnapshot where
  auditRevision : Nat
  policyRevision : Nat
  resolution : PermissionModeResolution
  executorMapping : String
  transitionedAt : String

section Audits
variable (rfc3339 : String → Bool)

def validTransitionTimestamp (value : String) : Bool :=
  !value.isEmpty && decide (value.length ≤ maxTransitionTimestampChars) && rfc3339 value

def PermissionAuditSnapshot.fromMetadata (metadata : Metadata) :
    Option PermissionAuditSnapshot := do
  let auditRevision ← (← metadata.lookup auditRevisionKey) |> parseU64
  guard (auditRevision < maxAuditRevision)
  let policyRevision ← (← metadata.lookup policyRevisionKey) |> parseU64
  let requested ← (← metadata.lookup requestedModeKey) |> SessionPermissionMode.fromAuditStr
  let effective ← (← metadata.lookup effectiveModeKey) |> PermissionMode.fromAuditStr
  let executorMapping ← metadata.lookup executorMappingKey
  guard (executorMapping ≠ "" ∧ executorMapping.length ≤ maxExecutorMappingChars)
  let transitionedAt ← metadata.lookup transitionedAtKey
  guard (validTransitionTimestamp rfc3339 transitionedAt)
  let resolution : PermissionModeResolution := { requested, effective }
  guard resolution.isConsistent
  return { auditRevision, policyRevision, resolution, executorMapping, transitionedAt }

def PermissionAuditSnapshot.writeTo (audit : PermissionAuditSnapshot) (metadata : Metadata) :
    Metadata :=
  (((((metadata.insert auditRevisionKey (toString audit.auditRevision)).insert
    policyRevisionKey (toString audit.policyRevision)).insert
    requestedModeKey audit.resolution.requested.asStr).insert
    effectiveModeKey audit.resolution.effective.asStr).insert
    executorMappingKey audit.executorMapping).insert
    transitionedAtKey audit.transitionedAt

def nextPermissionAuditRevisionAfter (clock : Clock) (floor : Nat) : Option Nat :=
  let maxAllocatable := maxAuditRevision - 1
  if maxAllocatable ≤ floor ∨ maxAllocatable ≤ clock.auditRevision then none
  else
    some (min (max (max (clock.auditRevision + 1) (floor + 1))
      (min clock.wallRevision maxAllocatable)) maxAllocatable)

structure PermissionAuditSeed where
  policyRevision : Nat
  resolution : PermissionModeResolution
  executorMapping : String

def PermissionAuditSeed.new (policyRevision : Nat) (resolution : PermissionModeResolution)
    (executorMapping : String) : PermissionAuditSeed :=
  { policyRevision, resolution,
    executorMapping := String.ofList (executorMapping.toList.take maxExecutorMappingChars) }

/-- `record_permission_audit`, with the timestamp that its one caller here passes. -/
def recordPermissionAudit (clock : Clock) (metadata : Metadata) (seed : PermissionAuditSeed)
    (transitionedAt : String) : Option Metadata := do
  let previous := PermissionAuditSnapshot.fromMetadata rfc3339 metadata
  let floor := (previous.map PermissionAuditSnapshot.auditRevision).getD 0
  let auditRevision ← nextPermissionAuditRevisionAfter clock floor
  let stamp := if validTransitionTimestamp rfc3339 transitionedAt then transitionedAt
    else clock.now
  return PermissionAuditSnapshot.writeTo
    { auditRevision, policyRevision := seed.policyRevision, resolution := seed.resolution,
      executorMapping := seed.executorMapping, transitionedAt := stamp } metadata

def diskPermissionPostureIsFresher (currentMode : SessionPermissionMode) (current : Metadata)
    (diskMode : SessionPermissionMode) (disk : Metadata) : Bool :=
  if diskMode ≠ currentMode then true
  else
    match (PermissionAuditSnapshot.fromMetadata rfc3339 disk).filter
        (fun audit => decide (audit.resolution.requested = diskMode)) with
    | none => false
    | some audit =>
      match PermissionAuditSnapshot.fromMetadata rfc3339 current with
      | none => true
      | some held => decide (held.auditRevision < audit.auditRevision)

/-- The audit record that accompanies a fresher durable posture; an incomplete one is
    made up anew above the copy's revision. -/
def fresherDiskPermissionAudit (clock : Clock) (currentMode : SessionPermissionMode)
    (current : Metadata) (diskMode : SessionPermissionMode) (disk : Metadata) :
    Option PermissionAuditSnapshot :=
  if !diskPermissionPostureIsFresher rfc3339 currentMode current diskMode disk then none
  else
    match (PermissionAuditSnapshot.fromMetadata rfc3339 disk).filter
        (fun audit => decide (audit.resolution.requested = diskMode)) with
    | some audit =>
      let currentRevision :=
        ((PermissionAuditSnapshot.fromMetadata rfc3339 current).map
          PermissionAuditSnapshot.auditRevision).getD 0
      if diskMode ≠ currentMode ∧ audit.auditRevision ≤ currentRevision then
        (nextPermissionAuditRevisionAfter clock currentRevision).map
          (fun revision => { audit with auditRevision := revision })
      else some audit
    | none =>
      let configuredHint :=
        ((disk.lookup effectiveModeKey).bind PermissionMode.fromAuditStr).getD .default
      let resolution := resolvePermissionMode diskMode configuredHint
      let policyRevision := ((disk.lookup policyRevisionKey).bind parseU64).getD 0
      let mapping := ((disk.lookup executorMappingKey).filter (fun value => value ≠ "")).getD
        ("bamboo_runtime:" ++ resolution.effective.asStr)
      let transitionedAt :=
        ((disk.lookup transitionedAtKey).filter (validTransitionTimestamp rfc3339)).getD
          clock.now
      (recordPermissionAudit rfc3339 clock current
        (PermissionAuditSeed.new policyRevision resolution mapping) transitionedAt).bind
        (PermissionAuditSnapshot.fromMetadata rfc3339)

/-- The durable posture and its audit record move together into a copy. -/
def adoptFresherDiskPermissionPosture (clock : Clock) (session latest : Session) : Session :=
  match latest.agentRuntimeState.map AgentRuntimeState.effectivePermissionMode with
  | none => session
  | some diskMode =>
    let currentMode := (session.agentRuntimeState.map
      AgentRuntimeState.effectivePermissionMode).getD .default
    match fresherDiskPermissionAudit rfc3339 clock currentMode session.metadata diskMode
        latest.metadata with
    | none => session
    | some audit =>
      let state :=
        match session.agentRuntimeState with
        | some state => some (state.setPermissionMode diskMode)
        | none =>
          if diskMode ≠ .default then
            some (AgentRuntimeState.default.setPermissionMode diskMode)
          else none
      { session with agentRuntimeState := state, metadata := audit.writeTo session.metadata }

end Audits

/-- A record that was made with room for its revision reads back as it was written. -/
example :
    PermissionAuditSnapshot.fromMetadata (fun _ => true)
      (PermissionAuditSnapshot.writeTo
        { auditRevision := 7, policyRevision := 3,
          resolution := resolvePermissionMode .auto .plan,
          executorMapping := "bamboo_runtime:plan", transitionedAt := "2026-01-01T00:00:00Z" }
        SortedMap.empty) ≠ none := by
  decide

end Sessions
