import BambooAgent.Library.Versions
import BambooAgent.Sessions.Saving

/- The lanes of a session that must never go back, and what each helper of a save does to
   them. -/
namespace Sessions
open SortedMaps Compression Versions SortedMap

def Session.launchGeneration (session : Session) : Option Nat :=
  session.runtimeMetadata.bind RuntimeMetadata.childLaunchGeneration

def Session.cancelledGeneration (session : Session) : Option Nat :=
  session.runtimeMetadata.bind RuntimeMetadata.childCancelledGeneration

def Session.intentGeneration (session : Session) : Option Nat :=
  session.runtimeMetadata.bind RuntimeMetadata.childAutoRunLaunchIntentGeneration

/-- The lifetime of a session and its lanes, apart from the transcript. -/
structure Lanes where
  id : String
  kind : SessionKind
  createdAt : Nat
  group : Versioned (String × Bool)
  ledger : Option ModelContextState
  admission : Option InboxAdmissionState
  launch : Option Nat
  cancelled : Option Nat
  intent : Option Nat
  status : Option String

def Session.lanes (session : Session) : Lanes :=
  { id := session.id, kind := session.kind, createdAt := session.createdAt,
    group := { version := session.metadataVersion, value := (session.title, session.pinned) },
    ledger := session.modelContextState, admission := session.inboxAdmission,
    launch := session.launchGeneration, cancelled := session.cancelledGeneration,
    intent := session.intentGeneration, status := session.lastRunStatus }

theorem runtimeMetadataMut_field {α : Type} (session : Session)
    (field : RuntimeMetadata → Option α) (absent : field RuntimeMetadata.default = none) :
    field session.runtimeMetadataMut = session.runtimeMetadata.bind field := by
  unfold Session.runtimeMetadataMut
  cases session.runtimeMetadata with
  | none => exact absent
  | some metadata => rfl

variable {session other : Session}

/-- Equal typed metadata fields and equal plain fields are equal lanes. -/
theorem lanes_congr (id : other.id = session.id) (kind : other.kind = session.kind)
    (createdAt : other.createdAt = session.createdAt)
    (version : other.metadataVersion = session.metadataVersion)
    (title : other.title = session.title) (pinned : other.pinned = session.pinned)
    (ledger : other.modelContextState = session.modelContextState)
    (admission : other.inboxAdmission = session.inboxAdmission)
    (launch : other.launchGeneration = session.launchGeneration)
    (cancelled : other.cancelledGeneration = session.cancelledGeneration)
    (intent : other.intentGeneration = session.intentGeneration)
    (status : other.lastRunStatus = session.lastRunStatus) : other.lanes = session.lanes := by
  simp only [Session.lanes, id, kind, createdAt, version, title, pinned, ledger, admission,
    launch, cancelled, intent, status]

/-- The typed lanes of a record of runtime metadata. -/
structure SameTyped (before after : Option RuntimeMetadata) : Prop where
  admission : after.bind RuntimeMetadata.sessionInboxAdmission =
    before.bind RuntimeMetadata.sessionInboxAdmission
  launch : after.bind RuntimeMetadata.childLaunchGeneration =
    before.bind RuntimeMetadata.childLaunchGeneration
  cancelled : after.bind RuntimeMetadata.childCancelledGeneration =
    before.bind RuntimeMetadata.childCancelledGeneration
  intent : after.bind RuntimeMetadata.childAutoRunLaunchIntentGeneration =
    before.bind RuntimeMetadata.childAutoRunLaunchIntentGeneration
  status : after.bind RuntimeMetadata.lastRunStatus = before.bind RuntimeMetadata.lastRunStatus

theorem sameTyped_refl (metadata : Option RuntimeMetadata) : SameTyped metadata metadata :=
  ⟨rfl, rfl, rfl, rfl, rfl⟩

/-- An edit that leaves the typed lanes. -/
structure KeepsTyped (edit : RuntimeMetadata → RuntimeMetadata) : Prop where
  admission : ∀ m, (edit m).sessionInboxAdmission = m.sessionInboxAdmission := by exact fun _ => rfl
  launch : ∀ m, (edit m).childLaunchGeneration = m.childLaunchGeneration := by exact fun _ => rfl
  cancelled : ∀ m, (edit m).childCancelledGeneration = m.childCancelledGeneration := by
    exact fun _ => rfl
  intent : ∀ m, (edit m).childAutoRunLaunchIntentGeneration =
    m.childAutoRunLaunchIntentGeneration := by exact fun _ => rfl
  status : ∀ m, (edit m).lastRunStatus = m.lastRunStatus := by exact fun _ => rfl

theorem sameTyped_mut (session : Session) (edit : RuntimeMetadata → RuntimeMetadata)
    (kept : KeepsTyped edit) :
    SameTyped session.runtimeMetadata (some (edit session.runtimeMetadataMut)) where
  admission := (kept.admission _).trans (runtimeMetadataMut_field session _ rfl)
  launch := (kept.launch _).trans (runtimeMetadataMut_field session _ rfl)
  cancelled := (kept.cancelled _).trans (runtimeMetadataMut_field session _ rfl)
  intent := (kept.intent _).trans (runtimeMetadataMut_field session _ rfl)
  status := (kept.status _).trans (runtimeMetadataMut_field session _ rfl)

theorem sameTyped_map (metadata : Option RuntimeMetadata)
    (edit : RuntimeMetadata → RuntimeMetadata) (kept : KeepsTyped edit) :
    SameTyped metadata (metadata.map edit) := by
  cases metadata with
  | none => exact sameTyped_refl none
  | some held =>
    exact ⟨kept.admission held, kept.launch held, kept.cancelled held, kept.intent held,
      kept.status held⟩

theorem sameTyped_default : SameTyped (some RuntimeMetadata.default) none :=
  ⟨rfl, rfl, rfl, rfl, rfl⟩

theorem status_of_typed (typed : SameTyped session.runtimeMetadata other.runtimeMetadata)
    (legacy : other.metadata.lookup lastRunStatusKey = session.metadata.lookup lastRunStatusKey) :
    other.lastRunStatus = session.lastRunStatus := by
  simp only [Session.lastRunStatus, Session.runtimeStr, typed.status, legacy]

theorem lanes_of_typed (id : other.id = session.id) (kind : other.kind = session.kind)
    (createdAt : other.createdAt = session.createdAt)
    (version : other.metadataVersion = session.metadataVersion)
    (title : other.title = session.title) (pinned : other.pinned = session.pinned)
    (ledger : other.modelContextState = session.modelContextState)
    (typed : SameTyped session.runtimeMetadata other.runtimeMetadata)
    (legacy : other.metadata.lookup lastRunStatusKey = session.metadata.lookup lastRunStatusKey) :
    other.lanes = session.lanes :=
  lanes_congr id kind createdAt version title pinned ledger typed.admission typed.launch
    typed.cancelled typed.intent (status_of_typed typed legacy)

theorem lookup_adoptKey (durable metadata : Metadata) (key other : String) :
    (adoptKey durable metadata key).lookup other =
      if other = key then durable.lookup other else metadata.lookup other := by
  unfold adoptKey
  by_cases same : other = key
  · subst same
    cases found : durable.lookup other <;> simp
  · cases durable.lookup key <;> simp [same]

theorem lookup_adoptKeys (keys : List String) (durable metadata : Metadata) (other : String) :
    (adoptKeys keys durable metadata).lookup other =
      if other ∈ keys then durable.lookup other else metadata.lookup other := by
  unfold adoptKeys
  induction keys generalizing metadata with
  | nil => simp
  | cons key rest ih =>
    rw [List.foldl_cons, ih, lookup_adoptKey]
    by_cases later : other ∈ rest
    · simp [later]
    · by_cases same : other = key <;> simp [later, same]

theorem lanes_status_ite [Decidable c] {left right : Session} {lanes : Lanes}
    (whenTrue : ∃ status, left.lanes = { lanes with status := status })
    (whenFalse : ∃ status, right.lanes = { lanes with status := status }) :
    ∃ status, (if c then left else right).lanes = { lanes with status := status } := by
  split
  · exact whenTrue
  · exact whenFalse

/- Helpers that touch no lane. -/

section
variable (session : Session)

theorem prune_sameTyped :
    SameTyped session.runtimeMetadata session.pruneRuntimeMetadata.runtimeMetadata := by
  unfold Session.pruneRuntimeMetadata
  split
  · rename_i empty
    rw [empty]
    exact sameTyped_default
  · exact sameTyped_refl _

theorem prune_fields :
    session.pruneRuntimeMetadata =
      { session with runtimeMetadata := session.pruneRuntimeMetadata.runtimeMetadata } := by
  unfold Session.pruneRuntimeMetadata
  split <;> rfl

@[simp] theorem lanes_prune : session.pruneRuntimeMetadata.lanes = session.lanes := by
  have fields := prune_fields session
  rw [fields]
  exact lanes_of_typed rfl rfl rfl rfl rfl rfl rfl (prune_sameTyped session) rfl

theorem lanes_setLastRunStatus (value : String) :
    (session.setLastRunStatus value).lanes = { session.lanes with status := some value } := by
  simp only [Session.lanes, Session.launchGeneration, Session.cancelledGeneration,
    Session.intentGeneration, Session.inboxAdmission, Session.setLastRunStatus,
    Session.lastRunStatus, Session.runtimeStr, Option.bind_some, Lanes.mk.injEq, true_and]
  exact ⟨runtimeMetadataMut_field session _ rfl, runtimeMetadataMut_field session _ rfl,
    runtimeMetadataMut_field session _ rfl, runtimeMetadataMut_field session _ rfl, rfl⟩

@[simp] theorem lanes_setTaskListVersionMeta (value : String) :
    (session.setTaskListVersionMeta value).lanes = session.lanes :=
  lanes_of_typed rfl rfl rfl rfl rfl rfl rfl
    (sameTyped_mut session (fun m => { m with taskListVersion := some value }) {})
    (lookup_insert_other _ _ (by decide))

@[simp] theorem lanes_setWorkspacePathMeta (value : String) :
    (session.setWorkspacePathMeta value).lanes = session.lanes :=
  lanes_of_typed rfl rfl rfl rfl rfl rfl rfl
    (sameTyped_mut session (fun m => { m with workspacePath := some value }) {})
    (lookup_insert_other _ _ (by decide))

@[simp] theorem lanes_setProjectIdMeta (value : String) :
    (session.setProjectIdMeta value).lanes = session.lanes :=
  lanes_of_typed rfl rfl rfl rfl rfl rfl rfl
    (sameTyped_mut session (fun m => { m with projectId := some value }) {})
    (lookup_insert_other _ _ (by decide))

@[simp] theorem lanes_clearProjectIdMeta : session.clearProjectIdMeta.lanes = session.lanes := by
  unfold Session.clearProjectIdMeta
  rw [lanes_prune]
  exact lanes_of_typed rfl rfl rfl rfl rfl rfl rfl
    (sameTyped_map _ (fun m => { m with projectId := none }) {})
    (lookup_erase_other _ (by decide))

end

@[simp] theorem lanes_appendMissing (codec : Codec) (session durable : Session) :
    (appendMissingRuntimeMessages codec session durable).lanes = session.lanes := rfl

@[simp] theorem lanes_restoreMissing (session durable : Session) :
    (restoreMissingAdmittedInboxMessages session durable).lanes = session.lanes := rfl

@[simp] theorem lanes_preserveResumesOf (latest : Session) (outcome : Session × Option Nat) :
    (preserveResumesOf latest outcome).lanes = outcome.1.lanes := by
  unfold preserveResumesOf
  split <;> rfl

@[simp] theorem lanes_adoptTaggedWait (session latest : Session) :
    (adoptDurableTaggedChildWait session latest).1.lanes = session.lanes := by
  unfold adoptDurableTaggedChildWait
  repeat' split
  all_goals
    first
    | rfl
    | exact lanes_of_typed rfl rfl rfl rfl rfl rfl rfl (sameTyped_refl _)
        (lookup_erase_other _ (by decide))

theorem lookup_mirror (codec : Codec) (state : AgentRuntimeState) (metadata : Metadata)
    (other : key ≠ runtimeStateKey) :
    (mirrorRuntimeState codec state metadata).lookup key = metadata.lookup key := by
  unfold mirrorRuntimeState
  repeat' split
  · exact lookup_insert_other _ _ other
  · exact lookup_erase_other _ other
  · rfl

theorem lanes_adoptFinalizedWait (codec : Codec) (session latest : Session) :
    ∃ status, (adoptFinalizedChildWait codec session latest).1.lanes =
      { session.lanes with status := status } := by
  unfold adoptFinalizedChildWait
  split
  · split
    · exact ⟨session.lastRunStatus, rfl⟩
    · exact lanes_status_ite ⟨some "completed", lanes_setLastRunStatus _ _⟩ ⟨_, rfl⟩
  · exact ⟨session.lastRunStatus, rfl⟩

theorem adoptProviderName_sameTyped (session durable : Session) :
    SameTyped session.runtimeMetadata (adoptProviderName session durable) := by
  unfold adoptProviderName
  cases session.runtimeMetadata with
  | some metadata => exact ⟨rfl, rfl, rfl, rfl, rfl⟩
  | none =>
    dsimp only
    split
    · exact ⟨rfl, rfl, rfl, rfl, rfl⟩
    · exact sameTyped_refl none

@[simp] theorem lanes_adoptConsumed (codec : Codec) (session durable : Session) :
    (adoptDurableConsumedClarification codec session durable).lanes = session.lanes := by
  unfold adoptDurableConsumedClarification
  split
  · rfl
  · split
    · rfl
    · exact lanes_of_typed rfl rfl rfl rfl rfl rfl rfl
        (adoptProviderName_sameTyped session durable) (by
          rw [lookup_adoptKeys, if_neg (by decide)])

theorem lanes_adoptHandoff
    (run : adoptDurableActorParentQuestionHandoff codec session durable = .ok handed) :
    handed.lanes = session.lanes := by
  unfold adoptDurableActorParentQuestionHandoff at run
  dsimp only at run
  split at run
  · cases run
    rfl
  · split at run
    · cases run
    · cases run
      refine lanes_of_typed rfl rfl rfl rfl rfl rfl rfl (sameTyped_refl _) ?_
      rw [lookup_erase_other _ (by decide), lookup_adoptKeys, if_neg (by decide)]

variable {latest : Session}

theorem adoptOutcomes_ok
    (run : adoptDurableSupervisedOutcomes codec session latest = .ok supervised) :
    ∃ metadata, supervised = { session with runtimeMetadata := metadata } ∧
      SameTyped session.runtimeMetadata metadata := by
  unfold adoptDurableSupervisedOutcomes at run
  dsimp only at run
  split at run
  · cases run
    exact ⟨_, rfl, sameTyped_refl _⟩
  · split at run
    · cases run
    · obtain ⟨_, _, run⟩ := Checks.bind_eq_ok.1 run
      cases run
      refine ⟨_, rfl, ?_⟩
      cases latest.runtimeMetadata.bind RuntimeMetadata.supervisedRootOutcomes with
      | some outcomes =>
        exact sameTyped_mut session (fun m => { m with supervisedRootOutcomes := some outcomes }) {}
      | none => exact sameTyped_map _ (fun m => { m with supervisedRootOutcomes := none }) {}

theorem lanes_adoptOutcomes
    (run : adoptDurableSupervisedOutcomes codec session latest = .ok supervised) :
    supervised.lanes = session.lanes := by
  obtain ⟨_, rfl, typed⟩ := adoptOutcomes_ok run
  exact lanes_of_typed rfl rfl rfl rfl rfl rfl rfl typed rfl

theorem lookup_writeTo (audit : PermissionAuditSnapshot) (metadata : Metadata)
    (other : key ∉ [auditRevisionKey, policyRevisionKey, requestedModeKey, effectiveModeKey,
      executorMappingKey, transitionedAtKey]) :
    (audit.writeTo metadata).lookup key = metadata.lookup key := by
  simp only [List.mem_cons, List.not_mem_nil, or_false, not_or] at other
  obtain ⟨audited, policied, requested, effective, mapped, stamped⟩ := other
  unfold PermissionAuditSnapshot.writeTo
  rw [lookup_insert_other _ _ stamped, lookup_insert_other _ _ mapped,
    lookup_insert_other _ _ effective, lookup_insert_other _ _ requested,
    lookup_insert_other _ _ policied, lookup_insert_other _ _ audited]

@[simp] theorem lanes_adoptPosture (rfc3339 : String → Bool) (clock : Clock)
    (session latest : Session) :
    (adoptFresherDiskPermissionPosture rfc3339 clock session latest).lanes = session.lanes := by
  unfold adoptFresherDiskPermissionPosture
  split
  · rfl
  · dsimp only
    split
    · rfl
    · exact lanes_of_typed rfl rfl rfl rfl rfl rfl rfl (sameTyped_refl _)
        (lookup_writeTo _ _ (by decide))

@[simp] theorem lanes_adoptTaskControlPlane (session durable : Session) :
    (adoptDurableTaskControlPlane session durable).lanes = session.lanes := by
  unfold adoptDurableTaskControlPlane
  dsimp only
  split
  on_goal 1 => rw [lanes_setTaskListVersionMeta]
  all_goals
    rw [lanes_prune]
    exact lanes_of_typed rfl rfl rfl rfl rfl rfl rfl
      (sameTyped_map _ (fun m => { m with taskListVersion := none }) {})
      (lookup_erase_other _ (by decide))

/- Helpers that carry a lane. -/

/-- The larger of two generations, where none is the least. -/
def carryGeneration (durable held : Option Nat) : Option Nat :=
  if newerGeneration durable held then durable else held

theorem carryGeneration_le (durable held : Option Nat) :
    newerGeneration durable (carryGeneration durable held) = false := by
  unfold carryGeneration
  split
  · cases durable <;> simp [newerGeneration]
  · rename_i kept
    simpa using kept

section
variable (session latest : Session)

theorem lanes_adoptLaunch :
    (adoptLaunchGeneration session latest).lanes =
      { session.lanes with
        launch :=
          if closesLaunch session then session.launchGeneration
          else carryGeneration latest.launchGeneration session.launchGeneration } := by
  unfold adoptLaunchGeneration carryGeneration Session.launchGeneration
  by_cases closed : closesLaunch session = true
  · simp [closed, Session.lanes, Session.launchGeneration]
  · by_cases newer : newerGeneration
        (latest.runtimeMetadata.bind RuntimeMetadata.childLaunchGeneration)
        (session.runtimeMetadata.bind RuntimeMetadata.childLaunchGeneration) = true
    · simp [closed, newer, Session.lanes, Session.launchGeneration,
        Session.cancelledGeneration, Session.intentGeneration, Session.inboxAdmission,
        runtimeMetadataMut_field session RuntimeMetadata.childCancelledGeneration rfl,
        runtimeMetadataMut_field session RuntimeMetadata.childAutoRunLaunchIntentGeneration rfl,
        runtimeMetadataMut_field session RuntimeMetadata.sessionInboxAdmission rfl,
        runtimeMetadataMut_field session RuntimeMetadata.lastRunStatus rfl,
        Session.lastRunStatus, Session.runtimeStr]
    · simp [closed, newer, Session.lanes, Session.launchGeneration]

theorem lanes_adoptCancelled :
    (adoptCancelledGeneration session latest).lanes =
      { session.lanes with
        cancelled := carryGeneration latest.cancelledGeneration session.cancelledGeneration } := by
  unfold adoptCancelledGeneration carryGeneration Session.cancelledGeneration
  by_cases newer : newerGeneration
      (latest.runtimeMetadata.bind RuntimeMetadata.childCancelledGeneration)
      (session.runtimeMetadata.bind RuntimeMetadata.childCancelledGeneration) = true
  · simp [newer, Session.lanes, Session.launchGeneration, Session.cancelledGeneration,
      Session.intentGeneration, Session.inboxAdmission,
      runtimeMetadataMut_field session RuntimeMetadata.childLaunchGeneration rfl,
      runtimeMetadataMut_field session RuntimeMetadata.childAutoRunLaunchIntentGeneration rfl,
      runtimeMetadataMut_field session RuntimeMetadata.sessionInboxAdmission rfl,
      runtimeMetadataMut_field session RuntimeMetadata.lastRunStatus rfl,
      Session.lastRunStatus, Session.runtimeStr]
  · simp [newer, Session.lanes, Session.cancelledGeneration]

theorem lanes_adoptIntent :
    (adoptIntentGeneration session latest).lanes =
      { session.lanes with
        intent := carryGeneration latest.intentGeneration session.intentGeneration } := by
  unfold adoptIntentGeneration carryGeneration Session.intentGeneration
  by_cases newer : newerGeneration
      (latest.runtimeMetadata.bind RuntimeMetadata.childAutoRunLaunchIntentGeneration)
      (session.runtimeMetadata.bind RuntimeMetadata.childAutoRunLaunchIntentGeneration) = true
  · simp [newer, Session.lanes, Session.launchGeneration, Session.cancelledGeneration,
      Session.intentGeneration, Session.inboxAdmission,
      runtimeMetadataMut_field session RuntimeMetadata.childLaunchGeneration rfl,
      runtimeMetadataMut_field session RuntimeMetadata.childCancelledGeneration rfl,
      runtimeMetadataMut_field session RuntimeMetadata.sessionInboxAdmission rfl,
      runtimeMetadataMut_field session RuntimeMetadata.lastRunStatus rfl,
      Session.lastRunStatus, Session.runtimeStr]
  · simp [newer, Session.lanes, Session.intentGeneration]

@[simp] theorem lanes_adoptFence : (adoptActivationFence session latest).lanes = session.lanes := by
  unfold adoptActivationFence
  split
  · exact lanes_of_typed rfl rfl rfl rfl rfl rfl rfl (sameTyped_refl _) (by
      rw [lookup_adoptKey, if_neg (by decide)])
  · rfl

@[simp] theorem lanes_adoptIdentity : (adoptAuthorityIdentity session latest).lanes = session.lanes := by
  unfold adoptAuthorityIdentity
  split <;> rfl

@[simp] theorem lanes_adoptManagement :
    (adoptSupervisorManagement session latest).lanes = session.lanes := by
  unfold adoptSupervisorManagement
  split <;> rfl

@[simp] theorem lanes_adoptProject : (session.adoptProject latest).lanes = session.lanes := by
  unfold Session.adoptProject
  split
  · exact lanes_setProjectIdMeta session _
  · exact lanes_clearProjectIdMeta session

@[simp] theorem lanes_adoptWorkspacePath : (session.adoptWorkspacePath latest).lanes = session.lanes := by
  unfold Session.adoptWorkspacePath
  split
  · exact lanes_setWorkspacePathMeta session _
  · exact lanes_of_typed rfl rfl rfl rfl rfl rfl rfl
      (sameTyped_map _ (fun m => { m with workspacePath := none }) {})
      (lookup_erase_other _ (by decide))

@[simp] theorem lanes_adoptProjectContext : (adoptProjectContext session latest).lanes = session.lanes := by
  unfold adoptProjectContext
  split
  · refine Eq.trans (b := ((session.adoptProject latest).adoptWorkspacePath latest).lanes) ?_
      (by rw [lanes_adoptWorkspacePath, lanes_adoptProject])
    exact lanes_of_typed rfl rfl rfl rfl rfl rfl rfl (sameTyped_refl _) (by
      rw [lookup_adoptKeys, if_neg (by decide)])
  · rfl

theorem lanes_adoptRootMode :
    ∃ ledger, (ledger = session.modelContextState ∨ ledger = latest.modelContextState) ∧
      (adoptRootMode session latest).lanes = { session.lanes with ledger := ledger } := by
  unfold adoptRootMode adoptRootToolAuthorityFrom
  split
  · split
    · exact ⟨session.modelContextState, .inl rfl, rfl⟩
    · by_cases selected :
          0 < latest.rootToolAuthorityRevision - session.rootToolAuthorityRevision
      · exact ⟨latest.modelContextState, .inr rfl, by simp only [selected, if_true]; rfl⟩
      · exact ⟨session.modelContextState, .inl rfl, by simp only [selected, if_false]; rfl⟩
  · exact ⟨session.modelContextState, .inl rfl, rfl⟩

theorem lanes_adoptGroup :
    (adoptMetadataGroup session latest).lanes =
      { session.lanes with group := takeNewer latest.lanes.group session.lanes.group } := by
  have status : (adoptMetadataGroup session latest).lastRunStatus = session.lastRunStatus := by
    unfold adoptMetadataGroup
    split
    · exact status_of_typed (sameTyped_refl _) (by
        rw [lookup_adoptKeys, if_neg (by decide)])
    · rfl
  unfold takeNewer
  by_cases old : session.metadataVersion ≤ latest.metadataVersion
  · have plain : (adoptMetadataGroup session latest).lanes =
        { session.lanes with
          group := latest.lanes.group,
          status := (adoptMetadataGroup session latest).lastRunStatus } := by
      unfold adoptMetadataGroup
      rw [if_pos old]
      rfl
    rw [plain, status, if_pos (show session.lanes.group.version ≤ latest.lanes.group.version
      from old)]
    rfl
  · rw [if_neg (show ¬ session.lanes.group.version ≤ latest.lanes.group.version from old)]
    unfold adoptMetadataGroup
    rw [if_neg old]

end

theorem lanes_adoptGenerations (child : session.kind = .child) (same : latest.kind = session.kind)
    (born : latest.createdAt = session.createdAt) :
    (adoptChildGenerations session latest).lanes =
      { session.lanes with
        launch :=
          if closesLaunch session then session.launchGeneration
          else carryGeneration latest.launchGeneration session.launchGeneration,
        cancelled := carryGeneration latest.cancelledGeneration session.cancelledGeneration,
        intent := carryGeneration latest.intentGeneration session.intentGeneration } := by
  have cancelled : (adoptLaunchGeneration session latest).cancelledGeneration =
      session.cancelledGeneration := congrArg Lanes.cancelled (lanes_adoptLaunch session latest)
  have intent : (adoptCancelledGeneration (adoptLaunchGeneration session latest)
      latest).intentGeneration = session.intentGeneration :=
    (congrArg Lanes.intent (lanes_adoptCancelled _ latest)).trans
      (congrArg Lanes.intent (lanes_adoptLaunch session latest))
  unfold adoptChildGenerations
  rw [if_pos ⟨child, same.trans child, born.symm⟩, lanes_adoptIntent, lanes_adoptCancelled,
    lanes_adoptLaunch, cancelled, intent]

theorem lanes_adoptGenerations_root (root : session.kind ≠ .child) :
    adoptChildGenerations session latest = session := by
  unfold adoptChildGenerations
  rw [if_neg (fun both => root both.1)]

def closes (status : Option String) : Bool := status.any (· ∈ terminalStatuses)

/-- What the authoritative step does to the lanes of a copy. -/
structure Authoritative (latest before after : Lanes) : Prop where
  id : after.id = before.id
  kind : after.kind = before.kind
  createdAt : after.createdAt = before.createdAt
  group : Later latest.group after.group
  ledger : after.ledger = before.ledger ∨ after.ledger = latest.ledger
  admission : after.admission = before.admission
  status : after.status = before.status
  launch : latest.kind = .child → closes after.status = false →
    newerGeneration latest.launch after.launch = false
  cancelled : latest.kind = .child → newerGeneration latest.cancelled after.cancelled = false
  intent : latest.kind = .child → newerGeneration latest.intent after.intent = false

theorem lanes_applyAuthoritative (kind : latest.kind = session.kind)
    (born : latest.createdAt = session.createdAt) :
    Authoritative latest.lanes session.lanes (applyAuthoritativeMetadata session latest).lanes := by
  have fenced := lanes_adoptFence session latest
  obtain ⟨ledger, source, moded⟩ := lanes_adoptRootMode
    (adoptAuthorityIdentity (adoptChildGenerations (adoptActivationFence session latest) latest)
      latest) latest
  have result : (applyAuthoritativeMetadata session latest).lanes =
      { (adoptChildGenerations (adoptActivationFence session latest) latest).lanes with
        ledger := ledger,
        group := takeNewer latest.lanes.group
          (adoptChildGenerations (adoptActivationFence session latest) latest).lanes.group } := by
    unfold applyAuthoritativeMetadata
    simp only [lanes_adoptGroup, lanes_adoptProjectContext, lanes_adoptManagement, moded,
      lanes_adoptIdentity]
  have fencedKind : (adoptActivationFence session latest).kind = session.kind :=
    congrArg Lanes.kind fenced
  have fencedBorn : (adoptActivationFence session latest).createdAt = session.createdAt :=
    congrArg Lanes.createdAt fenced
  have fencedLedger : (adoptActivationFence session latest).lanes.ledger =
      session.lanes.ledger := congrArg Lanes.ledger fenced
  have identified : (adoptAuthorityIdentity (adoptChildGenerations
      (adoptActivationFence session latest) latest) latest).modelContextState =
      (adoptChildGenerations (adoptActivationFence session latest) latest).modelContextState :=
    congrArg Lanes.ledger (lanes_adoptIdentity _ latest)
  rw [identified] at source
  rw [result]
  by_cases child : session.kind = .child
  · have generations := lanes_adoptGenerations (fencedKind.trans child)
      (kind.trans fencedKind.symm) (born.trans fencedBorn.symm)
    have sourced : ledger = session.lanes.ledger ∨ ledger = latest.lanes.ledger := by
      rcases source with own | durable
      · left
        exact own.trans ((congrArg Lanes.ledger generations).trans fencedLedger)
      · exact .inr durable
    rw [generations, fenced]
    refine ⟨rfl, rfl, rfl, later_takeNewer _ _, sourced, rfl, rfl, ?_, ?_, ?_⟩
    · intro _ open_
      have running : closesLaunch (adoptActivationFence session latest) = false := by
        refine Eq.trans ?_ open_
        exact congrArg closes (congrArg Lanes.status fenced)
      rw [if_neg (by simp [running])]
      exact carryGeneration_le _ _
    · intro _
      exact carryGeneration_le _ _
    · intro _
      exact carryGeneration_le _ _
  · have same : adoptChildGenerations (adoptActivationFence session latest) latest =
        adoptActivationFence session latest := lanes_adoptGenerations_root
      (fun isChild => child (fencedKind.symm.trans isChild))
    rw [same] at source ⊢
    have sourced : ledger = session.lanes.ledger ∨ ledger = latest.lanes.ledger := by
      rcases source with own | durable
      · exact .inl (own.trans fencedLedger)
      · exact .inr durable
    rw [fenced]
    refine ⟨rfl, rfl, rfl, later_takeNewer _ _, sourced, rfl, rfl, ?_, ?_, ?_⟩ <;>
      exact fun isChild => absurd (kind.symm.trans isChild) child

/- The admission cursor. -/

def lastAdmitted (admission : Option InboxAdmissionState) : Nat :=
  (admission.map InboxAdmissionState.lastAdmittedSequence).getD 0

theorem mergeFrom_sequence (state other : InboxAdmissionState) :
    other.lastAdmittedSequence ≤ (state.mergeFrom other).lastAdmittedSequence :=
  le_max_right _ _

theorem lanes_mergeAdmission (session durable : Session) :
    ∃ admission, lastAdmitted durable.lanes.admission ≤ lastAdmitted admission ∧
      (mergeSessionInboxAdmission session durable).lanes =
        { session.lanes with admission := admission } := by
  unfold mergeSessionInboxAdmission
  cases found : durable.inboxAdmission with
  | none =>
    simp [Session.lanes, found, lastAdmitted]
  | some durableState =>
    refine ⟨some ((session.runtimeMetadataMut.sessionInboxAdmission.getD
      InboxAdmissionState.default).mergeFrom durableState), ?_, ?_⟩
    · have held : durable.lanes.admission = some durableState := found
      rw [held]
      exact mergeFrom_sequence _ _
    · simp [Session.lanes, Session.inboxAdmission, Session.launchGeneration,
        Session.cancelledGeneration, Session.intentGeneration, Session.lastRunStatus,
        Session.runtimeStr,
        runtimeMetadataMut_field session RuntimeMetadata.childLaunchGeneration rfl,
        runtimeMetadataMut_field session RuntimeMetadata.childCancelledGeneration rfl,
        runtimeMetadataMut_field session RuntimeMetadata.childAutoRunLaunchIntentGeneration rfl,
        runtimeMetadataMut_field session RuntimeMetadata.lastRunStatus rfl]

/- The ledger. -/

def versionedLedger (ledger : Option ModelContextState) : Option (Versioned ModelContextState) :=
  ledger.map (fun state => { version := state.stateRevision, value := state })

/-- The ledger does not go back: it stays, or its revision grows. -/
def LedgerAdvances (durable next : Option ModelContextState) : Prop :=
  LaterOption (versionedLedger durable) (versionedLedger next)

theorem ledger_current (current : ledgerStaleOrConflicting session latest = false) :
    LedgerAdvances latest.modelContextState session.modelContextState := by
  unfold ledgerStaleOrConflicting at current
  unfold LedgerAdvances versionedLedger
  cases held : session.modelContextState with
  | none =>
    cases durable : latest.modelContextState with
    | none => exact laterOption_refl _
    | some state => simp [held, durable] at current
  | some incoming =>
    cases durable : latest.modelContextState with
    | none =>
      intro v absent
      cases absent
    | some state =>
      simp only [held, durable, Bool.or_eq_false_iff, decide_eq_false_iff_not,
        Bool.and_eq_false_iff, not_not] at current
      intro v present
      simp only [Option.map_some, Option.some.injEq] at present
      subst present
      refine ⟨_, rfl, by dsimp only; omega, ?_⟩
      intro equal
      rcases current.2 with apart | same
      · exact absurd equal apart
      · exact same.symm

end Sessions
