import BambooAgent.Compression.Session
import BambooAgent.Compression.Texts
import BambooAgent.Library.SortedMap

/- A durable session, with the lanes that its writers merge: transcript, metadata group,
   inbox admission, child launches, pending question and model-context ledger. A hash map is
   a sorted map here, and a value that is only copied is its JSON text. -/
namespace Sessions
open SortedMaps Compression

abbrev Metadata := SortedMap String String

/- The fields of a message's metadata object that a merge reads; `rest` is the text of the
   others. -/

/-- The `session_message` object that `to_provider_message` puts on an admitted message. -/
structure SessionMarker where
  id : Option String
  targetSessionId : Option String
  rest : String
  deriving DecidableEq

structure MessageMetadata where
  sessionMessage : Option SessionMarker
  runtimeKind : Option String
  permissionRequestGeneration : Option String
  rest : String
  deriving DecidableEq

structure Message extends Compression.Message where
  createdAt : Nat
  metadata : Option MessageMetadata
  deriving DecidableEq

inductive SessionKind where
  | root
  | child
  deriving DecidableEq

inductive AuthorityIdentity where
  | ordinary
  | supervisor (incarnationId : String)
  deriving DecidableEq

inductive PendingQuestionSource where
  | pauseTool
  | agenticClarification
  | externalAgent
  | gold
  | directParent
  deriving DecidableEq

structure PendingQuestion where
  toolCallId : String
  toolName : String
  question : String
  options : List String
  allowCustom : Bool
  source : PendingQuestionSource
  deriving DecidableEq

structure ConversationSummary where
  createdAt : Nat
  updatedAt : Nat
  content : String
  messageCount : Nat
  tokenCount : Nat
  representedSourceTokens : Nat
  targetTokenCount : Nat
  targetRatio : Float
  budgetClamped : Bool
  budgetClampReason : Option String

inductive AgentStatusState where
  | idle
  | initializing
  | running
  | suspended
  | finalizing
  | completed
  | cancelled
  | failed
  deriving DecidableEq

structure WaitingForChildrenState where
  childSessionIds : List String
  waitFor : String
  registeredAt : Nat
  timeoutAt : Option Nat
  registeredByToolCallId : Option String
  deriving DecidableEq

structure SuspensionState where
  reason : String
  suspendedAt : Nat
  resumable : Bool
  hookPoint : Option String
  deriving DecidableEq

inductive SessionPermissionMode where
  | default
  | bypass
  | auto
  deriving DecidableEq

structure AgentRuntimeState where
  version : Nat
  runId : String
  status : AgentStatusState
  suspension : Option SuspensionState
  waitingForChildren : Option WaitingForChildrenState
  permissionMode : SessionPermissionMode
  bypassPermissions : Bool
  rest : String
  deriving DecidableEq

def AgentRuntimeState.default : AgentRuntimeState :=
  { version := 1, runId := "", status := .idle, suspension := none, waitingForChildren := none,
    permissionMode := .default, bypassPermissions := false, rest := "" }

def AgentRuntimeState.effectivePermissionMode (state : AgentRuntimeState) :
    SessionPermissionMode :=
  if state.permissionMode = .default ∧ state.bypassPermissions then .bypass
  else state.permissionMode

def AgentRuntimeState.setPermissionMode (state : AgentRuntimeState)
    (mode : SessionPermissionMode) : AgentRuntimeState :=
  { state with permissionMode := mode, bypassPermissions := decide (mode ≠ .default) }

/- The admission cursor. -/

structure AdmittedSessionMessage where
  id : String
  sequence : Nat
  deriving DecidableEq

structure InboxAdmissionState where
  admitted : List AdmittedSessionMessage
  lastAdmittedSequence : Nat
  lastObservedSequence : Nat
  deriving DecidableEq

def InboxAdmissionState.default : InboxAdmissionState :=
  { admitted := [], lastAdmittedSequence := 0, lastObservedSequence := 0 }

def inboxAdmittedCapacity : Nat := 4096

def InboxAdmissionState.contains (state : InboxAdmissionState) (id : String) : Bool :=
  state.admitted.any (fun entry => entry.id == id)

def InboxAdmissionState.record (state : InboxAdmissionState) (entry : AdmittedSessionMessage) :
    InboxAdmissionState :=
  let sequenced :=
    { state with
      lastObservedSequence := max state.lastObservedSequence entry.sequence,
      lastAdmittedSequence := max state.lastAdmittedSequence entry.sequence }
  if state.contains entry.id then sequenced
  else
    let grown := state.admitted ++ [entry]
    { sequenced with admitted := grown.drop (grown.length - inboxAdmittedCapacity) }

def InboxAdmissionState.mergeFrom (state other : InboxAdmissionState) : InboxAdmissionState :=
  let recorded := other.admitted.foldl InboxAdmissionState.record state
  { recorded with
    lastAdmittedSequence := max recorded.lastAdmittedSequence other.lastAdmittedSequence,
    lastObservedSequence := max recorded.lastObservedSequence other.lastObservedSequence }

/- Typed runtime metadata. -/

/-- `SessionRuntimeMetadata`; `rest` is the text of the fields that no merge names, none
    when they are all absent. -/
structure RuntimeMetadata where
  lastRunStatus : Option String
  childLaunchGeneration : Option Nat
  childCancelledGeneration : Option Nat
  childAutoRunLaunchIntentGeneration : Option Nat
  providerName : Option String
  taskListVersion : Option String
  workspacePath : Option String
  projectId : Option String
  sessionInboxAdmission : Option InboxAdmissionState
  supervisedRootOutcomes : Option String
  rest : Option String
  deriving DecidableEq

def RuntimeMetadata.default : RuntimeMetadata :=
  { lastRunStatus := none, childLaunchGeneration := none, childCancelledGeneration := none,
    childAutoRunLaunchIntentGeneration := none, providerName := none, taskListVersion := none,
    workspacePath := none, projectId := none, sessionInboxAdmission := none,
    supervisedRootOutcomes := none, rest := none }

structure ConversationResetReceipt where
  operationId : String
  birthToken : String
  expectedSnapshotSha256 : String
  previousRevision : Nat
  conversationRevision : Nat
  retainedSystemMessages : Nat
  resetAt : Nat
  deriving DecidableEq

structure ConversationResetState where
  schemaVersion : Nat
  conversationRevision : Nat
  receipts : List ConversationResetReceipt
  deriving DecidableEq

/-- The fields of `Session` whose JSON texts agree exactly when the values do; `rest` is the
    text of the persisted fields that no modelled function names. -/
structure SessionFields where
  id : String
  sessionVersion : Option Nat
  observedRuntimeSessionVersion : Option (Option Nat)
  title : String
  pinned : Bool
  titleVersion : Nat
  titleGenerated : Bool
  metadataVersion : Nat
  rootOrchestrationOnly : Bool
  rootToolAuthorityRevision : Nat
  rootModeTransitionEpoch : Nat
  rootModeOperations : List String
  kind : SessionKind
  authorityIdentity : AuthorityIdentity
  supervisorManagement : Option String
  conversationReset : Option ConversationResetState
  parentSessionId : Option String
  parentCreatedAt : Option Nat
  rootSessionId : String
  spawnDepth : Nat
  messages : List Message
  createdAt : Nat
  updatedAt : Nat
  taskList : Option String
  pendingQuestion : Option PendingQuestion
  model : String
  modelRef : Option String
  reasoningEffort : Option String
  metadata : Metadata
  tokenUsage : Option TokenBudgetUsage
  promptSnapshot : Option String
  modelContextState : Option ModelContextState
  providerTranscript : ProviderTranscriptState
  agentRuntimeState : Option AgentRuntimeState
  runtimeMetadata : Option RuntimeMetadata
  forceManualCompression : Option String
  workspace : Option String
  rest : String
  deriving DecidableEq

structure Session extends SessionFields where
  conversationSummary : Option ConversationSummary
  compressionEvents : List CompressionEvent

/-- `Session::new`, at a clock reading. -/
def Session.new (id model : String) (now : Nat) : Session :=
  { id, sessionVersion := some 2, observedRuntimeSessionVersion := none,
    title := "New Session", pinned := false, titleVersion := 0, titleGenerated := false,
    metadataVersion := 0, rootOrchestrationOnly := false, rootToolAuthorityRevision := 0,
    rootModeTransitionEpoch := 0, rootModeOperations := [], kind := .root,
    authorityIdentity := .ordinary, supervisorManagement := none, conversationReset := none,
    parentSessionId := none, parentCreatedAt := none, rootSessionId := id, spawnDepth := 0,
    messages := [], createdAt := now, updatedAt := now, taskList := none,
    pendingQuestion := none, model, modelRef := none, reasoningEffort := none,
    metadata := SortedMap.empty, tokenUsage := none, conversationSummary := none,
    promptSnapshot := none, compressionEvents := [], modelContextState := none,
    providerTranscript := (Compression.Session.ofMessages []).providerTranscript,
    agentRuntimeState := none, runtimeMetadata := none, forceManualCompression := none,
    workspace := none, rest := "" }

/- The accessors read the typed field first and the legacy key after it. -/

def Session.runtimeStr (session : Session) (field : RuntimeMetadata → Option String)
    (legacyKey : String) : Option String :=
  (session.runtimeMetadata.bind field).or (session.metadata.lookup legacyKey)

def lastRunStatusKey : String := "last_run_status"
def taskListVersionKey : String := "task_list_version"
def workspacePathKey : String := "workspace_path"
def projectIdKey : String := "project_id"

def Session.lastRunStatus (session : Session) : Option String :=
  session.runtimeStr RuntimeMetadata.lastRunStatus lastRunStatusKey

def Session.taskListVersionMeta (session : Session) : Option String :=
  session.runtimeStr RuntimeMetadata.taskListVersion taskListVersionKey

def Session.workspacePathMeta (session : Session) : Option String :=
  session.runtimeStr RuntimeMetadata.workspacePath workspacePathKey

def Session.projectIdMeta (session : Session) : Option String :=
  session.runtimeStr RuntimeMetadata.projectId projectIdKey

def Session.runtimeMetadataMut (session : Session) : RuntimeMetadata :=
  session.runtimeMetadata.getD RuntimeMetadata.default

def Session.setLastRunStatus (session : Session) (value : String) : Session :=
  { session with
    runtimeMetadata := some { session.runtimeMetadataMut with lastRunStatus := some value },
    metadata := session.metadata.insert lastRunStatusKey value }

def Session.setTaskListVersionMeta (session : Session) (value : String) : Session :=
  { session with
    runtimeMetadata := some { session.runtimeMetadataMut with taskListVersion := some value },
    metadata := session.metadata.insert taskListVersionKey value }

def Session.setWorkspacePathMeta (session : Session) (value : String) : Session :=
  { session with
    runtimeMetadata := some { session.runtimeMetadataMut with workspacePath := some value },
    metadata := session.metadata.insert workspacePathKey value }

def Session.setProjectIdMeta (session : Session) (value : String) : Session :=
  { session with
    runtimeMetadata := some { session.runtimeMetadataMut with projectId := some value },
    metadata := session.metadata.insert projectIdKey value }

def Session.pruneRuntimeMetadata (session : Session) : Session :=
  if session.runtimeMetadata = some RuntimeMetadata.default then
    { session with runtimeMetadata := none }
  else session

def Session.clearProjectIdMeta (session : Session) : Session :=
  Session.pruneRuntimeMetadata
    { session with
      runtimeMetadata := session.runtimeMetadata.map (fun m => { m with projectId := none }),
      metadata := session.metadata.erase projectIdKey }

def Session.inboxAdmission (session : Session) : Option InboxAdmissionState :=
  session.runtimeMetadata.bind RuntimeMetadata.sessionInboxAdmission

def Session.hostRunId (session : Session) : Option String :=
  session.metadata.lookup "runtime.host_run_id"

end Sessions
