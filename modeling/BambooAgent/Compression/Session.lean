import BambooAgent.Compression.Messages

/- The part of a session that context preparation and retrieval-window archiving read and
   write: its messages, its summary, its compression events, its recorded token usage and
   the two lanes that a new model-context epoch resets. -/
namespace Compression

structure CompressionEvent where
  id : String
  kind : CompressionEventKind
  messagesCompressed : Nat
  segmentsRemoved : Nat
  usageBeforePercent : Float
  usageAfterPercent : Float
  summaryTokens : Nat
  actualSummaryTokens : Nat
  triggerType : CompressionTriggerType
  compressionRatio : Float
  modelUsed : Option String
  latencyMs : Nat
  sourceTokens : Nat
  fixedPromptTokens : Nat
  targetSummaryTokens : Nat
  summaryTargetRatio : Float
  actualSummaryRatio : Float
  summaryBudgetClamped : Bool
  summaryBudgetClampReason : Option String
  summarizationMapCalls : Nat
  summarizationReduceCalls : Nat
  summarizationFallbackUsed : Bool
  retrievalActiveTokensBefore : Nat
  retrievalActiveMessageCountBefore : Nat
  retrievalActiveStateSha256 : Option String
  retrievalTokenAccountingSha256 : Option String
  retrievalActiveTokensAfter : Nat
  retrievalTargetTokens : Nat
  retrievalTargetUsagePercent : Nat
  retrievalArchivedGroupCount : Nat
  retrievalArchivedUserTurnCount : Nat
  retrievalArchivedMessageTokens : Nat
  retrievalBoundaryReclaimedTokens : Nat
  retrievalSystemMessageTokens : Nat
  retrievalContextWindowTokens : Nat
  retrievalRequestInputLimitTokens : Nat
  retrievalMinRecentUserTurns : Nat
  retrievalRetainedRecentUserTurnCount : Nat
  retrievalRetainedUserTurnCount : Nat
  retrievalOldestRetainedMessageId : Option String
  retrievalOldestRetainedUserMessageId : Option String
  retrievalProviderMessageTokenOverrideCount : Nat
  retrievalProtectedActiveTokens : Nat
  retrievalIncompleteProtocolGroupCount : Nat

def CompressionEvent.new (id : String) (messagesCompressed segmentsRemoved : Nat)
    (usageBeforePercent usageAfterPercent : Float) (summaryTokens : Nat)
    (triggerType : CompressionTriggerType) (compressionRatio : Float)
    (modelUsed : Option String) (latencyMs : Nat) : CompressionEvent :=
  { id, kind := .summary, messagesCompressed, segmentsRemoved, usageBeforePercent,
    usageAfterPercent, summaryTokens, actualSummaryTokens := 0, triggerType, compressionRatio,
    modelUsed, latencyMs, sourceTokens := 0, fixedPromptTokens := 0, targetSummaryTokens := 0,
    summaryTargetRatio := 0.0, actualSummaryRatio := 0.0, summaryBudgetClamped := false,
    summaryBudgetClampReason := none, summarizationMapCalls := 0,
    summarizationReduceCalls := 0, summarizationFallbackUsed := false,
    retrievalActiveTokensBefore := 0, retrievalActiveMessageCountBefore := 0,
    retrievalActiveStateSha256 := none, retrievalTokenAccountingSha256 := none,
    retrievalActiveTokensAfter := 0, retrievalTargetTokens := 0,
    retrievalTargetUsagePercent := 0, retrievalArchivedGroupCount := 0,
    retrievalArchivedUserTurnCount := 0, retrievalArchivedMessageTokens := 0,
    retrievalBoundaryReclaimedTokens := 0, retrievalSystemMessageTokens := 0,
    retrievalContextWindowTokens := 0, retrievalRequestInputLimitTokens := 0,
    retrievalMinRecentUserTurns := 0, retrievalRetainedRecentUserTurnCount := 0,
    retrievalRetainedUserTurnCount := 0, retrievalOldestRetainedMessageId := none,
    retrievalOldestRetainedUserMessageId := none,
    retrievalProviderMessageTokenOverrideCount := 0, retrievalProtectedActiveTokens := 0,
    retrievalIncompleteProtocolGroupCount := 0 }

inductive ModelContextResetReason where
  | compression
  | hardTruncation
  | cacheScopeChanged
  | retentionLimit
  | rollback
  | explicitHistoryRewrite
  deriving DecidableEq

structure ContextBlockBaseline where
  blockType : String
  revision : Nat
  contentSha256 : String
  deriving DecidableEq

structure ModelContextEvent where
  id : String
  epoch : Nat
  sequence : Nat
  renderedText : String
  deriving DecidableEq

structure ModelContextState where
  schemaVersion : Nat
  stateRevision : Nat
  prefixEpoch : Nat
  nextSequence : Nat
  baselines : List ContextBlockBaseline
  events : List ModelContextEvent
  cacheScopeSha256 : Option String
  transcriptItemSha256 : List String
  lastResetReason : Option ModelContextResetReason
  deriving DecidableEq

def ModelContextState.default : ModelContextState :=
  { schemaVersion := 1, stateRevision := 0, prefixEpoch := 0, nextSequence := 0,
    baselines := [], events := [], cacheScopeSha256 := none, transcriptItemSha256 := [],
    lastResetReason := none }

def u64Max : Nat := 2 ^ 64 - 1

def ModelContextState.advanceStateRevision (state : ModelContextState) : ModelContextState :=
  { state with stateRevision := min (state.stateRevision + 1) u64Max }

def ModelContextState.resetEpoch (state : ModelContextState)
    (reason : ModelContextResetReason) : ModelContextState :=
  let advanced := { state with schemaVersion := 1 }.advanceStateRevision
  { advanced with
    prefixEpoch := min (state.prefixEpoch + 1) u64Max, nextSequence := 0, baselines := [],
    events := [], cacheScopeSha256 := none, transcriptItemSha256 := [],
    lastResetReason := some reason }

inductive ProviderTranscriptResetReason where
  | compression
  | other (reason : String)
  deriving DecidableEq

structure ProviderTranscriptState where
  stateRevision : Nat
  epoch : Nat
  nextSequence : Nat
  activeFamily : Option String
  activeProtocol : Option String
  activeProviderBoundarySha256 : Option String
  groups : List String
  lastResetReason : Option ProviderTranscriptResetReason
  deriving DecidableEq

def ProviderTranscriptState.isEmpty (state : ProviderTranscriptState) : Bool :=
  state.stateRevision == 0 && state.epoch == 0 && state.nextSequence == 0 &&
    state.activeFamily.isNone && state.activeProtocol.isNone &&
    state.activeProviderBoundarySha256.isNone && state.groups.isEmpty &&
    state.lastResetReason.isNone

def ProviderTranscriptState.invalidate (state : ProviderTranscriptState)
    (reason : ProviderTranscriptResetReason) : ProviderTranscriptState :=
  if state.isEmpty then state
  else
    { state with
      epoch := min (state.epoch + 1) u64Max, nextSequence := 0,
      lastResetReason := some reason,
      stateRevision := min (state.stateRevision + 1) u64Max }

structure Session where
  messages : List Message
  conversationSummary : Option ConversationSummary
  compressionEvents : List CompressionEvent
  tokenUsage : Option TokenBudgetUsage
  modelContextState : Option ModelContextState
  providerTranscript : ProviderTranscriptState
  updatedAt : Nat

/-- A session that holds these messages and nothing else. -/
def Session.ofMessages (messages : List Message) : Session :=
  { messages, conversationSummary := none, compressionEvents := [], tokenUsage := none,
    modelContextState := none,
    providerTranscript :=
      { stateRevision := 0, epoch := 0, nextSequence := 0, activeFamily := none,
        activeProtocol := none, activeProviderBoundarySha256 := none, groups := [],
        lastResetReason := none },
    updatedAt := 0 }

/-- `reset_model_context_epoch(Compression)`: both lanes start anew; a reset that no
    request has used yet is taken over by the new one. -/
def Session.resetModelContextEpoch (session : Session) : Session :=
  let state := session.modelContextState.getD ModelContextState.default
  let resetIsPending := state.cacheScopeSha256.isNone && state.baselines.isEmpty &&
    state.events.isEmpty && state.transcriptItemSha256.isEmpty && state.lastResetReason.isSome
  let next :=
    if resetIsPending then
      if state.lastResetReason ≠ some .compression then
        { state with lastResetReason := some .compression }.advanceStateRevision
      else state
    else state.resetEpoch .compression
  { session with
    modelContextState := some next,
    providerTranscript := session.providerTranscript.invalidate .compression }

def activeMessages (session : Session) : List Message :=
  session.messages.filter (fun message => !message.compressed)

end Compression
