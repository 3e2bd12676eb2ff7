import BambooAgent.Sessions.Posture

/- The lanes of a save: each helper carries one lane of the durable session into the copy
   that is about to be written. -/
namespace Sessions
open SortedMaps Compression

inductive ErrorKind where
  | invalidData
  | invalidInput
  | wouldBlock
  | unsupported
  | other
  deriving DecidableEq

/-- The typed cause inside an error. -/
inductive Cause where
  | none
  | authorityConflict
  | directParentTerminalConflict
  deriving DecidableEq

structure IoError where
  kind : ErrorKind
  cause : Cause
  message : String

/-- The display of `SessionAuthorityConflict`. -/
def authorityConflict (kind : ErrorKind) (message : String) : IoError :=
  { kind, cause := .authorityConflict, message := "Session authority conflict: " ++ message }

structure ResponseOccurrence where
  toolCallId : String
  toolResultMessageId : String
  permissionGeneration : Option String
  deriving DecidableEq

/-- A direct-parent question; `rest` is the text of the fields no merge reads. -/
structure ParentQuestion where
  childSessionId : String
  childCreatedAt : Nat
  rootSessionId : String
  projectId : Option String
  toolCallId : String
  rest : String
  deriving DecidableEq

/-- What a save asks of other crates: the JSON, timestamp, uuid and hash libraries, and the
    provider-native transcript lane, which keeps its own merge. -/
structure Codec where
  occurrences : String → Option (List ResponseOccurrence)
  consumedIds : String → Option (List String)
  contentGeneration : String → Option String
  parentQuestion : String → Option ParentQuestion
  parentQuestionResolution : String → Option ParentQuestion
  runtimeState : AgentRuntimeState → Option String
  eventJson : CompressionEvent → String
  summaryJson : ConversationSummary → String
  rfc3339 : String → Bool
  canonicalUuid : String → Bool
  birthToken : String → Nat → AuthorityIdentity → String
  mergeDurablePrefix : ProviderTranscriptState → ProviderTranscriptState → List String →
    ProviderTranscriptState

def authoritativeMetadataKeys : List String :=
  ["gold_config", "workflow.run_ids.v1", "ticket.runtime.dispatch.v1",
    "ticket.runtime.owned_stop.v1"]

def rootProjectContextKeys : List String :=
  ["workspace_source", "workspace_binding_status", "project_context_rendered",
    "project_resources_rendered", "runtime_prompt_snapshot"]

def consumedClarificationIdsKey : String := "clarification.consumed_tool_call_ids"
def consumedResponseOccurrencesKey : String := "clarification.consumed_response_occurrences.v1"
def suspendReasonKey : String := "runtime.suspend_reason"
def runtimeStateKey : String := "agent.runtime.state"
def scopedLoopUncertainKey : String := "runtime.scoped_loop_checkpoint_uncertain"
def parentQuestionRequestKey : String := "runtime.parent_question.request_v1"
def parentQuestionResolutionKey : String := "runtime.parent_question.resolution_v1"
def actorParentQuestionHandoffKey : String := "runtime.actor_parent_question_handoff"

def responseControlMetadataKeys : List String :=
  [consumedClarificationIdsKey, consumedResponseOccurrencesKey, suspendReasonKey,
    "clarification_resume_pending", "conclusion_with_options_resume_pending",
    "execute.startup_handoff_at", "permission.reexecute_tool_call_id",
    "permission.reexecute_request_generation", "retry_resume_pending", "retry_resume_reason",
    "provider_name", "runtime.child_completion_source_v1"]

/-- One key takes the durable value, or goes where the durable session has none. -/
def adoptKey (durable metadata : Metadata) (key : String) : Metadata :=
  match durable.lookup key with
  | some value => metadata.insert key value
  | none => metadata.erase key

def adoptKeys (keys : List String) (durable metadata : Metadata) : Metadata :=
  keys.foldl (adoptKey durable) metadata

/- Which conversation and which release a copy belongs to. -/

def hash64 (value : String) : Bool :=
  decide (value.length = 64) &&
    value.toList.all (fun c => c.isDigit || ('a' ≤ c && c ≤ 'f'))

def validOperationId (codec : Codec) (value : String) (revision : Nat) : Bool :=
  match value.toList.dropWhile (· ≠ ':') with
  | ':' :: uuid =>
    String.ofList (value.toList.takeWhile (· ≠ ':')) == toString revision &&
      codec.canonicalUuid (String.ofList uuid)
  | _ => false

def receiptValid (codec : Codec) (birthToken : String) (receipt : ConversationResetReceipt) :
    Bool :=
  receipt.birthToken == birthToken && hash64 receipt.expectedSnapshotSha256 &&
    validOperationId codec receipt.operationId receipt.previousRevision &&
    decide (receipt.previousRevision < u64Max) &&
    receipt.previousRevision + 1 == receipt.conversationRevision &&
    decide (receipt.retainedSystemMessages ≤ 1)

def receiptsLinked : List ConversationResetReceipt → Bool
  | first :: second :: rest =>
    first.conversationRevision == second.previousRevision && receiptsLinked (second :: rest)
  | _ => true

def ConversationResetState.validFor (codec : Codec) (state : ConversationResetState)
    (birthToken : String) : Bool :=
  state.schemaVersion == 1 && decide (state.receipts.length ≤ 8) &&
    (decide (state.conversationRevision = 0) == state.receipts.isEmpty) &&
    state.receipts.all (receiptValid codec birthToken) &&
    decide (state.receipts.map ConversationResetReceipt.operationId).Nodup &&
    receiptsLinked state.receipts &&
    (state.receipts.getLast?.all
      (fun receipt => receipt.conversationRevision == state.conversationRevision))

def invalidState : String := "Session conversation reset state is invalid or unsupported"
def lifetimeChanged : String := "Session conversation generation belongs to a different lifetime"
def staleGeneration : String :=
  "Session conversation generation changed; reload the complete canonical Session"

def validateConversationState (codec : Codec) (session : Session) : Except String Unit :=
  match session.conversationReset with
  | none => .ok ()
  | some state =>
    if session.kind ≠ .root ∨ session.parentSessionId.isSome ∨
        session.parentCreatedAt.isSome ∨ session.spawnDepth ≠ 0 ∨
        (session.rootSessionId ≠ "" ∧ session.rootSessionId ≠ session.id) ∨
        state.conversationRevision = 0 ∨
        ¬ state.validFor codec
          (codec.birthToken session.id session.createdAt session.authorityIdentity) then
      .error invalidState
    else .ok ()

def checkConversationGeneration (codec : Codec) (session canonical : Session) :
    Except String Unit := do
  validateConversationState codec session
  validateConversationState codec canonical
  if session.conversationReset.isNone ∧ canonical.conversationReset.isNone then .ok ()
  else if session.id ≠ canonical.id ∨ session.createdAt ≠ canonical.createdAt ∨
      session.kind ≠ canonical.kind ∨
      session.authorityIdentity ≠ canonical.authorityIdentity then .error lifetimeChanged
  else if session.conversationReset ≠ canonical.conversationReset then .error staleGeneration
  else .ok ()

def ensureConversationGenerationIsCurrent (codec : Codec) (session latest : Session) :
    Except IoError Unit :=
  match checkConversationGeneration codec session latest with
  | .ok () => .ok ()
  | .error text => .error (authorityConflict .wouldBlock text)

def sameSessionToolContract (left right : Option Nat) : Bool :=
  match left, right with
  | none, none => true
  | none, some 1 => true
  | some 1, none => true
  | some 1, some 1 => true
  | some 2, some 2 => true
  | _, _ => false

def sessionVersionSupported (version : Option Nat) : Bool :=
  version == none || version == some 1 || version == some 2

/-- `execution_allowed`: the compatibility report names no conflict. -/
def Session.executionAllowed (session : Session) : Bool :=
  sessionVersionSupported session.sessionVersion &&
    (session.observedRuntimeSessionVersion.all (fun runtimeVersion =>
      decide (runtimeVersion = session.sessionVersion) ||
        sameSessionToolContract runtimeVersion session.sessionVersion)) &&
    (session.agentRuntimeState.all (fun state => state.version == 1)) &&
    (session.modelContextState.all (fun state => state.schemaVersion == 1))

def ensureSessionExecutionCompatible (session : Session) : Except IoError Unit :=
  if session.executionAllowed then .ok ()
  else .error (authorityConflict .unsupported "session_execution_incompatible")

def ensureScopedLoopCheckpointKnown (session : Session) : Except IoError Unit :=
  if session.metadata.contains scopedLoopUncertainKey then
    .error
      { kind := .wouldBlock, cause := .none,
        message :=
          "scoped Loop checkpoint outcome is uncertain; strict canonical reload required" }
  else .ok ()

/- Transcript. -/

/-- The messages whose ids were not met before, each id once. -/
def unseenMessages : List String → List Message → List Message
  | _, [] => []
  | seen, message :: rest =>
    if message.id ∈ seen then unseenMessages seen rest
    else message :: unseenMessages (message.id :: seen) rest

/-- Durable messages first, then what only the copy holds. -/
def appendMissingRuntimeMessages (codec : Codec) (session durable : Session) : Session :=
  let messages := durable.messages ++
    unseenMessages (durable.messages.map (·.id)) session.messages
  { session with
    messages,
    providerTranscript := codec.mergeDurablePrefix session.providerTranscript
      durable.providerTranscript (messages.map (·.id)) }

def mergeSessionInboxAdmission (session durable : Session) : Session :=
  match durable.inboxAdmission with
  | none => session
  | some durableState =>
    let metadata := session.runtimeMetadataMut
    let held := metadata.sessionInboxAdmission.getD InboxAdmissionState.default
    { session with
      runtimeMetadata :=
        some { metadata with sessionInboxAdmission := some (held.mergeFrom durableState) } }

/-- `SessionMessageId::parse`. -/
def parsesAsMessageId (value : String) : Bool :=
  !(trim value).isEmpty && trim value == value && decide (value.utf8ByteSize ≤ 256) &&
    !value.toList.contains '/' && !value.toList.contains '\\' &&
    !containsText value ".."

def typedMarker (sessionId : String) (message : Message) : Bool :=
  match message.metadata.bind MessageMetadata.sessionMessage with
  | none => false
  | some marker =>
    marker.id == some message.id && marker.targetSessionId == some sessionId &&
      parsesAsMessageId message.id

def positionOf (id : String) (messages : List Message) : Option Nat :=
  messages.findIdx? (fun current => current.id == id)

/-- Behind the nearest predecessor that the copy holds, else before the nearest successor,
    else at the end. -/
def insertionIndex (before after current : List Message) : Nat :=
  ((before.reverse.findSome? (fun predecessor =>
      (positionOf predecessor.id current).map (· + 1))).or
    (after.findSome? (fun successor => positionOf successor.id current))).getD current.length

/-- The walk over the durable messages; `before` is what it has passed. -/
def restoreFrom (sessionId : String) (admission : Option InboxAdmissionState) :
    List Message → List Message → List Message → List Message
  | _, [], current => current
  | before, message :: after, current =>
    let recentCursor := admission.any (fun state => state.contains message.id)
    if !(typedMarker sessionId message || recentCursor) ||
        current.any (fun held => held.id == message.id) then
      restoreFrom sessionId admission (before ++ [message]) after current
    else
      restoreFrom sessionId admission (before ++ [message]) after
        (current.insertIdx (insertionIndex before after current) message)

def restoreMissingAdmittedInboxMessages (session durable : Session) : Session :=
  { session with
    messages :=
      restoreFrom durable.id durable.inboxAdmission [] durable.messages session.messages }

/- Child waits. -/

def childWaitReason : String := "waiting_for_children"

def resumeKinds : List String := ["child_completion_resume", "guardian_review_resume"]

def preserveFinalizedHiddenChildResumes (session latest : Session) (registeredAt : Nat) :
    Session :=
  let missing := latest.messages.filter (fun message =>
    !session.messages.any (fun held => held.id == message.id) &&
      decide (registeredAt ≤ message.createdAt) &&
      (message.metadata.bind MessageMetadata.runtimeKind).any (· ∈ resumeKinds))
  { session with messages := session.messages ++ missing }

/-- The suspension that a cleared wait leaves: none where it was that wait's own. -/
def AgentRuntimeState.withoutWaitSuspension (state : AgentRuntimeState) : AgentRuntimeState :=
  if state.suspension.any (fun s => s.reason == childWaitReason) then
    { state with
      suspension := none,
      status := if state.status = .suspended then .idle else state.status }
  else state

def adoptDurableTaggedChildWait (session latest : Session) : Session × Option Nat :=
  if session.id ≠ latest.id ∨ session.createdAt ≠ latest.createdAt then (session, none)
  else
    match session.agentRuntimeState with
    | none => (session, none)
    | some incoming =>
      match incoming.waitingForChildren with
      | none => (session, none)
      | some wait =>
        if wait.registeredByToolCallId.isNone then (session, none)
        else
          match latest.agentRuntimeState.bind AgentRuntimeState.waitingForChildren with
          | some durableWait =>
            ({ session with
                agentRuntimeState :=
                  some { incoming with waitingForChildren := some durableWait } }, none)
          | none =>
            ({ session with
                metadata :=
                  if session.metadata.lookup suspendReasonKey = some childWaitReason then
                    session.metadata.erase suspendReasonKey
                  else session.metadata,
                agentRuntimeState :=
                  some { incoming with waitingForChildren := none }.withoutWaitSuspension },
              some wait.registeredAt)

/-- The legacy mirror follows the typed state where one exists. -/
def mirrorRuntimeState (codec : Codec) (state : AgentRuntimeState) (metadata : Metadata) :
    Metadata :=
  if metadata.contains runtimeStateKey then
    match codec.runtimeState state with
    | some serialized => metadata.insert runtimeStateKey serialized
    | none => metadata.erase runtimeStateKey
  else metadata

def adoptFinalizedChildWait (codec : Codec) (session latest : Session) :
    Session × Option Nat :=
  match session.agentRuntimeState, latest.agentRuntimeState with
  | some incoming, some durable =>
    if session.metadata.lookup suspendReasonKey ≠ some childWaitReason ∨
        incoming.waitingForChildren.all (fun wait => wait.registeredByToolCallId.isNone) then
      (session, none)
    else
      let registeredAt := incoming.waitingForChildren.map WaitingForChildrenState.registeredAt
      let cleared := durable.waitingForChildren.isNone
      let waiting := { incoming with waitingForChildren := durable.waitingForChildren }
      let state :=
        if cleared then
          { waiting with status := durable.status, suspension := durable.suspension }
        else waiting
      let reasons :=
        if cleared then adoptKey latest.metadata session.metadata suspendReasonKey
        else session.metadata
      let adopted :=
        { session with
          agentRuntimeState := some state,
          metadata := mirrorRuntimeState codec state reasons }
      let finished :=
        if (cleared ∧ ¬ latest.metadata.contains suspendReasonKey) ∧
            adopted.lastRunStatus = some "suspended" then
          adopted.setLastRunStatus "completed"
        else adopted
      (finished, if cleared then registeredAt else none)
  | _, _ => (session, none)

/-- The resumes of a wait that a helper has just cleared. -/
def preserveResumesOf (latest : Session) (outcome : Session × Option Nat) : Session :=
  match outcome.2 with
  | some registeredAt => preserveFinalizedHiddenChildResumes outcome.1 latest registeredAt
  | none => outcome.1

/- Questions and answers. -/

/-- `permission_request_generation`: the message's metadata first, its content after it. -/
def permissionRequestGeneration (codec : Codec) (message : Message) : Option String :=
  ((((message.metadata.bind MessageMetadata.permissionRequestGeneration).map trim).filter
    (fun generation => generation ≠ "")).or
    (((codec.contentGeneration message.content).map trim).filter
      (fun generation => generation ≠ "")))

def latestResponseOccurrence (codec : Codec) (session : Session) (toolCallId : String) :
    Option ResponseOccurrence :=
  (session.messages.reverse.find? (fun message => message.toolCallId == some toolCallId)).map
    (fun message =>
      { toolCallId, toolResultMessageId := message.id,
        permissionGeneration := permissionRequestGeneration codec message })

/-- Whether the durable session has consumed the ask that the copy still carries. -/
def wasConsumed (codec : Codec) (session durable : Session) (toolCallId : String) : Bool :=
  match durable.metadata.lookup consumedResponseOccurrencesKey with
  | some text =>
    match codec.occurrences text with
    | some consumed =>
      (latestResponseOccurrence codec session toolCallId).any (· ∈ consumed)
    | none => false
  | none =>
    let legacy :=
      ((durable.metadata.lookup consumedClarificationIdsKey).bind codec.consumedIds).getD []
    decide (toolCallId ∈ legacy) &&
      (latestResponseOccurrence codec durable toolCallId).any (fun occurrence =>
        decide (latestResponseOccurrence codec session toolCallId = some occurrence))

def adoptProviderName (session durable : Session) : Option RuntimeMetadata :=
  let durableName := durable.runtimeMetadata.bind RuntimeMetadata.providerName
  match session.runtimeMetadata with
  | some metadata => some { metadata with providerName := durableName }
  | none =>
    if durableName.isSome then
      some { RuntimeMetadata.default with providerName := durableName }
    else none

def adoptDurableConsumedClarification (codec : Codec) (session durable : Session) : Session :=
  match session.pendingQuestion with
  | none => session
  | some pending =>
    if !wasConsumed codec session durable pending.toolCallId then session
    else
      let appended := appendMissingRuntimeMessages codec session durable
      { appended with
        pendingQuestion := durable.pendingQuestion,
        metadata := adoptKeys responseControlMetadataKeys durable.metadata session.metadata,
        model := durable.model, modelRef := durable.modelRef,
        reasoningEffort := durable.reasoningEffort,
        agentRuntimeState := durable.agentRuntimeState,
        runtimeMetadata := adoptProviderName session durable }

def asksParent (durable : Session) (question : ParentQuestion) : Bool :=
  (durable.pendingQuestion.any (fun pending =>
    decide (pending.source = .directParent) && pending.toolCallId == question.toolCallId)) &&
    (durable.metadata.lookup suspendReasonKey == some "awaiting_clarification")

/-- The durable request has its resolution. -/
def resolvedByParent (codec : Codec) (durable : Session) (question : ParentQuestion) : Bool :=
  (durable.metadata.lookup parentQuestionResolutionKey).bind codec.parentQuestionResolution ==
    some question

def adoptDurableActorParentQuestionHandoff (codec : Codec) (session durable : Session) :
    Except IoError Session :=
  if session.metadata.lookup actorParentQuestionHandoffKey ≠ some "true" then .ok session
  else
    let request := (durable.metadata.lookup parentQuestionRequestKey).bind codec.parentQuestion
    if session.kind ≠ .child ∨ session.id ≠ durable.id ∨
        session.createdAt ≠ durable.createdAt ∨
        session.parentSessionId ≠ durable.parentSessionId ∨
        session.rootSessionId ≠ durable.rootSessionId ∨
        session.spawnDepth ≠ durable.spawnDepth ∨
        session.projectIdMeta ≠ durable.projectIdMeta ∨
        ¬ request.any (fun question =>
          question.childSessionId == durable.id &&
            question.childCreatedAt == durable.createdAt &&
            question.rootSessionId == durable.rootSessionId &&
            question.projectId == durable.projectIdMeta) ∨
        ¬ request.any (fun question =>
          asksParent durable question || resolvedByParent codec durable question) then
      .error
        { kind := .invalidData, cause := .none,
          message := "canonical direct-parent question handoff is missing or changed" }
    else
      .ok
        { session with
          messages := durable.messages, providerTranscript := durable.providerTranscript,
          pendingQuestion := durable.pendingQuestion,
          metadata :=
            (adoptKeys
              (responseControlMetadataKeys ++
                [parentQuestionRequestKey, parentQuestionResolutionKey])
              durable.metadata session.metadata).erase actorParentQuestionHandoffKey,
          model := durable.model, modelRef := durable.modelRef,
          reasoningEffort := durable.reasoningEffort,
          agentRuntimeState := durable.agentRuntimeState,
          updatedAt := max session.updatedAt durable.updatedAt }

/- Supervised outcomes and task control plane. -/

def adoptDurableSupervisedOutcomes (codec : Codec) (session latest : Session) :
    Except IoError Session :=
  let durable := latest.runtimeMetadata.bind RuntimeMetadata.supervisedRootOutcomes
  let incoming := session.runtimeMetadata.bind RuntimeMetadata.supervisedRootOutcomes
  if durable.isNone ∧ incoming.isNone then .ok session
  else if session.id ≠ latest.id ∨ session.createdAt ≠ latest.createdAt ∨
      session.kind ≠ latest.kind ∨ session.authorityIdentity ≠ latest.authorityIdentity then
    .error (authorityConflict .wouldBlock "Root outcome lifetime changed")
  else do
    ensureConversationGenerationIsCurrent codec session latest
    .ok
      { session with
        runtimeMetadata :=
          match durable with
          | some outcomes =>
            some { session.runtimeMetadataMut with supervisedRootOutcomes := some outcomes }
          | none =>
            session.runtimeMetadata.map (fun m => { m with supervisedRootOutcomes := none }) }

def adoptDurableTaskControlPlane (session durable : Session) : Session :=
  let cleared := Session.pruneRuntimeMetadata
    { session with
      taskList := durable.taskList,
      metadata := session.metadata.erase taskListVersionKey,
      runtimeMetadata := session.runtimeMetadata.map (fun m => { m with taskListVersion := none }) }
  match durable.taskListVersionMeta with
  | some version => cleared.setTaskListVersionMeta version
  | none => cleared

/- The model-context ledger. -/

/-- The ledger of the copy is older than the durable one, or another child of the same
    revision. -/
def ledgerStaleOrConflicting (session latest : Session) : Bool :=
  match session.modelContextState, latest.modelContextState with
  | none, some _ => true
  | some incoming, some durable =>
    decide (incoming.stateRevision < durable.stateRevision) ||
      (decide (durable.stateRevision = incoming.stateRevision) && decide (durable ≠ incoming))
  | _, none => false

def adoptDurableModelContextState (session latest : Session) : Session :=
  { session with modelContextState := latest.modelContextState }

def adoptFresherDurableModelContextState (session latest : Session) : Session :=
  if ledgerStaleOrConflicting session latest then adoptDurableModelContextState session latest
  else session

def ensureModelContextCheckpointIsCurrent (codec : Codec) (session latest : Session) :
    Except IoError Unit := do
  ensureConversationGenerationIsCurrent codec session latest
  if ledgerStaleOrConflicting session latest then
    .error
      { kind := .wouldBlock, cause := .none,
        message := "stale or conflicting model-context ledger checkpoint" }
  else .ok ()

/- Authoritative metadata. -/

def terminalStatuses : List String := ["completed", "cancelled", "error", "timeout", "skipped"]

/-- A terminal writer keeps the launch generation it executed. -/
def closesLaunch (session : Session) : Bool :=
  session.lastRunStatus.any (· ∈ terminalStatuses)

/-- `latest > incoming` on optional generations, where none is the least. -/
def newerGeneration (latest incoming : Option Nat) : Bool :=
  match latest, incoming with
  | some _, none => true
  | some durable, some held => decide (held < durable)
  | none, _ => false

def adoptLaunchGeneration (session latest : Session) : Session :=
  let durable := latest.runtimeMetadata.bind RuntimeMetadata.childLaunchGeneration
  let incoming := session.runtimeMetadata.bind RuntimeMetadata.childLaunchGeneration
  if newerGeneration durable incoming ∧ ¬ closesLaunch session then
    { session with
      runtimeMetadata := some { session.runtimeMetadataMut with childLaunchGeneration := durable } }
  else session

def adoptCancelledGeneration (session latest : Session) : Session :=
  let durable := latest.runtimeMetadata.bind RuntimeMetadata.childCancelledGeneration
  let incoming := session.runtimeMetadata.bind RuntimeMetadata.childCancelledGeneration
  if newerGeneration durable incoming then
    { session with
      runtimeMetadata :=
        some { session.runtimeMetadataMut with childCancelledGeneration := durable } }
  else session

def adoptIntentGeneration (session latest : Session) : Session :=
  let durable := latest.runtimeMetadata.bind RuntimeMetadata.childAutoRunLaunchIntentGeneration
  let incoming := session.runtimeMetadata.bind RuntimeMetadata.childAutoRunLaunchIntentGeneration
  if newerGeneration durable incoming then
    { session with
      runtimeMetadata :=
        some { session.runtimeMetadataMut with childAutoRunLaunchIntentGeneration := durable } }
  else session

def adoptChildGenerations (session latest : Session) : Session :=
  if session.kind = .child ∧ latest.kind = .child ∧ session.createdAt = latest.createdAt then
    adoptIntentGeneration
      (adoptCancelledGeneration (adoptLaunchGeneration session latest) latest) latest
  else session

def adoptActivationFence (session latest : Session) : Session :=
  if session.hostRunId.isSome ∧ session.hostRunId = latest.hostRunId then
    { session with
      metadata :=
        adoptKey latest.metadata session.metadata "runtime.host_prior_activation_fence" }
  else session

def adoptAuthorityIdentity (session latest : Session) : Session :=
  if session.authorityIdentity = .ordinary ∧ session.createdAt = latest.createdAt then
    { session with authorityIdentity := latest.authorityIdentity }
  else session

def Session.rootId (session : Session) : String :=
  if session.kind = .root ∧ session.rootSessionId = "" then session.id else session.rootSessionId

def ProviderTranscriptState.invalidateRepeated (state : ProviderTranscriptState)
    (reason : ProviderTranscriptResetReason) (count : Nat) : ProviderTranscriptState :=
  if count = 0 ∨ state.isEmpty then state
  else
    { state with
      epoch := min (state.epoch + count) u64Max, nextSequence := 0,
      lastResetReason := some reason,
      stateRevision := min (state.stateRevision + count) u64Max }

/-- `adopt_root_tool_authority_from`; a stale or inconsistent pair leaves the copy alone. -/
def adoptRootToolAuthorityFrom (session latest : Session) : Session :=
  if ¬ sameSessionToolContract session.sessionVersion latest.sessionVersion ∨
      session.id ≠ latest.id ∨ session.kind ≠ latest.kind ∨
      session.createdAt ≠ latest.createdAt ∨
      session.authorityIdentity ≠ latest.authorityIdentity ∨
      session.parentSessionId ≠ latest.parentSessionId ∨ session.rootId ≠ latest.rootId ∨
      session.spawnDepth ≠ latest.spawnDepth ∨
      (session.rootOrchestrationOnly ∧ session.rootToolAuthorityRevision = 0) ∨
      (latest.rootOrchestrationOnly ∧ latest.rootToolAuthorityRevision = 0) ∨
      latest.rootToolAuthorityRevision < session.rootToolAuthorityRevision ∨
      (latest.rootToolAuthorityRevision = session.rootToolAuthorityRevision ∧
        latest.rootOrchestrationOnly ≠ session.rootOrchestrationOnly) ∨
      latest.rootModeTransitionEpoch < session.rootModeTransitionEpoch ∨
      (latest.rootModeTransitionEpoch = session.rootModeTransitionEpoch ∧
        latest.rootModeOperations ≠ session.rootModeOperations) then
    session
  else
    let selections := latest.rootToolAuthorityRevision - session.rootToolAuthorityRevision
    { session with
      rootOrchestrationOnly := latest.rootOrchestrationOnly,
      rootToolAuthorityRevision := latest.rootToolAuthorityRevision,
      rootModeTransitionEpoch := latest.rootModeTransitionEpoch,
      rootModeOperations := latest.rootModeOperations,
      modelContextState :=
        if 0 < selections then latest.modelContextState else session.modelContextState,
      providerTranscript :=
        if 0 < selections then
          ProviderTranscriptState.invalidateRepeated session.providerTranscript
            (.other "cache_scope_changed") selections
        else session.providerTranscript }

def adoptRootMode (session latest : Session) : Session :=
  if session.kind = .root ∧ latest.kind = .root then adoptRootToolAuthorityFrom session latest
  else session

def adoptSupervisorManagement (session latest : Session) : Session :=
  if session.kind = .root ∧ latest.kind = .root ∧ session.createdAt = latest.createdAt ∧
      session.authorityIdentity = latest.authorityIdentity then
    { session with supervisorManagement := latest.supervisorManagement }
  else session

def Session.adoptProject (session latest : Session) : Session :=
  match latest.projectIdMeta with
  | some project => session.setProjectIdMeta project
  | none => session.clearProjectIdMeta

def Session.adoptWorkspacePath (session latest : Session) : Session :=
  match latest.workspacePathMeta with
  | some workspace => session.setWorkspacePathMeta workspace
  | none =>
    { session with
      metadata := session.metadata.erase workspacePathKey,
      runtimeMetadata := session.runtimeMetadata.map (fun m => { m with workspacePath := none }) }

/-- A project and its revision are one fence: a copy behind it takes the whole context. -/
def adoptProjectContext (session latest : Session) : Session :=
  if session.kind = .root ∧ latest.kind = .root ∧ session.createdAt = latest.createdAt ∧
      session.metadataVersion ≤ latest.metadataVersion ∧
      (session.metadataVersion < latest.metadataVersion ∨
        latest.projectIdMeta ≠ session.projectIdMeta) then
    let moved := (session.adoptProject latest).adoptWorkspacePath latest
    { moved with
      workspace := latest.workspace,
      metadata := adoptKeys rootProjectContextKeys latest.metadata moved.metadata,
      promptSnapshot := latest.promptSnapshot }
  else session

def adoptMetadataGroup (session latest : Session) : Session :=
  if session.metadataVersion ≤ latest.metadataVersion then
    { session with
      title := latest.title, titleVersion := latest.titleVersion,
      titleGenerated := latest.titleGenerated, pinned := latest.pinned,
      metadata := adoptKeys authoritativeMetadataKeys latest.metadata session.metadata,
      metadataVersion := latest.metadataVersion }
  else session

def applyAuthoritativeMetadata (session latest : Session) : Session :=
  let fenced := adoptActivationFence session latest
  let launched := adoptChildGenerations fenced latest
  let identified := adoptAuthorityIdentity launched latest
  let moded := adoptRootMode identified latest
  let managed := adoptSupervisorManagement moded latest
  let placed := adoptProjectContext managed latest
  adoptMetadataGroup placed latest

end Sessions
