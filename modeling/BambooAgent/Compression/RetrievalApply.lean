import BambooAgent.Compression.RetrievalPlan

/- Committing a retrieval-window plan to a session: the checks in their order, the replay of
   a boundary that is already there, and the commit. -/
namespace Compression
open SortedMaps Checks

inductive RetrievalWindowApplyError where
  | emptyCandidateSet
  | emptyCandidateId (index : Nat)
  | duplicateCandidateId (messageId : String)
  | missingCandidateMessage (messageId : String)
  | duplicateSessionMessageId (messageId : String)
  | candidateOrderMismatch (messageId : String)
  | inconsistentPlan (field : String)
  | preExistingConversationSummary
  | partialApplication
  | activeCandidateAlreadyCorrelated (messageId : String)
  | systemMessageCandidate (messageId : String)
  | neverCompressCandidate (messageId : String)
  | incompleteLogicalGroup
  | unsafeToolProtocol
  | protectedSkillChain
  | recentUserTurnProtected
  | stalePlan (invariant : String)
  | mixedArchiveEvents
  | missingOrDuplicateArchiveEvent (eventId : String)
  | archiveEventKindConflict (eventId : String)
  | archiveEventEvidenceMismatch (eventId field : String)
  | tokenAccountingOverflow
  deriving DecidableEq

abbrev Applying (α : Type) := Except RetrievalWindowApplyError α

structure RetrievalWindowApplyResult where
  eventId : String
  newlyArchivedMessageCount : Nat
  idempotentReplay : Bool
  deriving DecidableEq

structure ValidatedRetrievalWindowUsage where
  systemTokens : Nat
  windowTokens : Nat

def validateApplyPlanArithmetic (plan : RetrievalWindowCandidatePlan) :
    Applying ValidatedRetrievalWindowUsage := do
  refuse (plan.messageIdsToArchive = []) .emptyCandidateSet
  refuse (plan.archiveMessageCount ≠ plan.messageIdsToArchive.length)
    (.inconsistentPlan "archive_message_count")
  refuse (plan.archiveGroupCount = 0 ∨ plan.archiveMessageCount < plan.archiveGroupCount)
    (.inconsistentPlan "archive_group_count")
  refuse (plan.archiveGroupCount < plan.archiveUserTurnCount)
    (.inconsistentPlan "archive_user_turn_count")
  refuse (plan.activeMessageCount < plan.archiveMessageCount)
    (.inconsistentPlan "active_message_count")
  refuse (plan.targetUsagePercent < 1 ∨ 100 < plan.targetUsagePercent)
    (.inconsistentPlan "target_usage_percent")
  refuse (plan.minRecentUserTurns = 0) (.inconsistentPlan "min_recent_user_turns")
  refuse (plan.contextWindowTokens = 0 ∨ plan.requestInputLimitTokens = 0 ∨
      plan.contextWindowTokens < plan.requestInputLimitTokens)
    (.inconsistentPlan "request_input_limit_tokens")
  let expectedTarget := effectiveTargetTokens plan.contextWindowTokens
    plan.requestInputLimitTokens plan.targetUsagePercent
  let protectedWithFixed ← checkedAdd .tokenAccountingOverflow plan.fixedPromptTokens
    plan.protectedActiveTokens
  -- a full archive may exceed the configured target by landing on the protected footprint
  refuse (expectedTarget < plan.targetTokens ∧
      ¬ (protectedWithFixed ≤ plan.requestInputLimitTokens ∧
        plan.targetTokens = protectedWithFixed ∧
        plan.projectedActiveTokensAfter = protectedWithFixed))
    (.inconsistentPlan "target_tokens")
  refuse (plan.activeTokensBefore ≤ plan.targetTokens ∨
      plan.targetTokens < plan.projectedActiveTokensAfter ∨ plan.archiveMessageTokens = 0 ∨
      ¬ (plan.boundaryReclaimableTokens ≤ plan.activeTokensBefore ∧
        plan.archiveMessageTokens ≤ plan.activeTokensBefore - plan.boundaryReclaimableTokens ∧
        plan.activeTokensBefore - plan.boundaryReclaimableTokens - plan.archiveMessageTokens =
          plan.projectedActiveTokensAfter))
    (.inconsistentPlan "active_token_arithmetic")
  refuse (plan.retainedUserTurnCount < plan.retainedRecentUserTurnCount)
    (.inconsistentPlan "retained_recent_user_turn_count")
  refuse (plan.protectedActiveTokens < plan.systemMessageTokens)
    (.inconsistentPlan "protected_active_tokens")
  let systemTokens ← checkedAdd .tokenAccountingOverflow plan.fixedPromptTokens
    plan.systemMessageTokens
  refuse (plan.projectedActiveTokensAfter < systemTokens ∨
      plan.projectedActiveTokensAfter < protectedWithFixed)
    (.inconsistentPlan "projected_active_tokens_after")
  let windowTokens ← checkedSub .tokenAccountingOverflow plan.projectedActiveTokensAfter
    systemTokens
  return { systemTokens, windowTokens }

def validateCurrentPolicy (plan : RetrievalWindowCandidatePlan)
    (currentPolicy : RetrievalWindowPolicy) : Applying Unit :=
  refuse (currentPolicy.minRecentUserTurns ≠ plan.minRecentUserTurns ∨
      currentPolicy.targetUsagePercent ≠ plan.targetUsagePercent)
    (.stalePlan "retrieval_window_policy")

def validateCurrentTokenBudget (plan : RetrievalWindowCandidatePlan)
    (currentBudget : TokenBudget) : Applying Unit :=
  refuse (currentBudget.maxContextTokens ≠ plan.contextWindowTokens ∨
      currentBudget.maxRequestInputTokens ≠ plan.requestInputLimitTokens)
    (.stalePlan "token_budget")

def validateCurrentTokenAccounting (digests : Digests) (plan : RetrievalWindowCandidatePlan)
    (currentAccounting : RetrievalWindowTokenAccounting) : Applying Unit :=
  refuse (currentAccounting.fixedPromptTokens ≠ plan.fixedPromptTokens ∨
      digests.tokenAccounting currentAccounting ≠ plan.tokenAccountingSha256)
    (.stalePlan "token_accounting_sha256")

def validatePlanEvidence (digests : Digests) (plan : RetrievalWindowCandidatePlan) :
    Applying Unit :=
  refuse (planEvidenceSha256 digests plan ≠ plan.evidenceSha256)
    (.stalePlan "plan_evidence_sha256")

def checkCandidateIds : List (String × Nat) → List String → Applying Unit
  | [], _ => .ok ()
  | (messageId, index) :: rest, seen => do
    refuse (messageId.isEmpty = true) (.emptyCandidateId index)
    refuse (messageId ∈ seen) (.duplicateCandidateId messageId)
    checkCandidateIds rest (messageId :: seen)

def indexesOf (session : Session) (messageId : String) : List Nat :=
  ((session.messages.map (·.id)).zipIdx.filter (fun entry => entry.1 = messageId)).map (·.2)

def resolveIndexes (session : Session) : List String → Option Nat → Applying (List Nat)
  | [], _ => .ok []
  | messageId :: rest, previousIndex => do
    let index ← match indexesOf session messageId with
      | [] => .error (.missingCandidateMessage messageId)
      | [index] => .ok index
      | _ => .error (.duplicateSessionMessageId messageId)
    refuse (∃ previous ∈ previousIndex, index ≤ previous) (.candidateOrderMismatch messageId)
    let indexes ← resolveIndexes session rest (some index)
    return index :: indexes

def resolveCandidateIndexes (session : Session) (plan : RetrievalWindowCandidatePlan) :
    Applying (List Nat) := do
  checkCandidateIds plan.messageIdsToArchive.zipIdx []
  resolveIndexes session plan.messageIdsToArchive none

def messagesAt (session : Session) (indexes : List Nat) : List Message :=
  indexes.filterMap (fun index => session.messages[index]?)

def validateCandidate (message : Message) : Applying Unit := do
  refuse (message.compressedByEventId.isSome = true)
    (.activeCandidateAlreadyCorrelated message.id)
  refuse (message.role = .system) (.systemMessageCandidate message.id)
  refuse (message.neverCompress = true) (.neverCompressCandidate message.id)

/-- The groups that the candidates cover, each of them whole and archivable. -/
def selectedGroups (candidateIds : List String) :
    List (LogicalGroup × Nat) → Applying (List Nat)
  | [] => .ok []
  | (group, groupIndex) :: rest => do
    let selectedMessageCount :=
      group.messages.countP (fun indexed => candidateIds.contains indexed.message.id)
    if selectedMessageCount = 0 then selectedGroups candidateIds rest
    else
      refuse (selectedMessageCount ≠ group.messages.length) .incompleteLogicalGroup
      refuse (group.protocolSafe = false) .unsafeToolProtocol
      refuse (logicalGroupHasProtectedSkill group = true) .protectedSkillChain
      refuse (group.isProtected = true) .recentUserTurnProtected
      let selected ← selectedGroups candidateIds rest
      return groupIndex :: selected

/-- The checks of a plan's counts and order against the selected groups. -/
def validateSelection (digests : Digests) (session : Session)
    (plan : RetrievalWindowCandidatePlan) (groups : List LogicalGroup) (selected : List Nat) :
    Applying Unit := do
  refuse (incompleteProtocolGroups groups ≠ plan.incompleteProtocolGroupCount)
    (.stalePlan "incomplete_protocol_group_count")
  refuse (selected.length ≠ plan.archiveGroupCount) (.stalePlan "archive_group_count")
  let covered := groups.zipIdx.filter (fun entry => selected.contains entry.2)
  refuse (covered.flatMap (fun entry => entry.1.messages.map (·.message.id)) ≠
      plan.messageIdsToArchive)
    (.stalePlan "candidate_group_order")
  match selected.getLast? with
  | none => .error .incompleteLogicalGroup
  | some lastSelected =>
    refuse ((groups.zipIdx.take (lastSelected + 1)).any
        (fun entry => !entry.1.isProtected && !selected.contains entry.2) = true)
      (.stalePlan "oldest_first_selection")
    refuse (selected.countP (fun index =>
        (groups[index]?.bind (·.userMessageId)).isSome) ≠ plan.archiveUserTurnCount)
      (.stalePlan "archive_user_turn_count")
    refuse (retainedUserTurnCount groups selected ≠ plan.retainedUserTurnCount)
      (.stalePlan "retained_user_turn_count")
    refuse (oldestRetainedMessageId groups selected ≠ plan.oldestRetainedMessageId)
      (.stalePlan "oldest_retained_message_id")
    refuse (oldestRetainedUserMessageId groups selected ≠ plan.oldestRetainedUserMessageId)
      (.stalePlan "oldest_retained_user_message_id")
    refuse (activeStateSha256 digests session ≠ plan.activeStateSha256)
      (.stalePlan "active_state_sha256")

def validateActivePlanStructure (digests : Digests) (session : Session)
    (plan : RetrievalWindowCandidatePlan) : Applying Unit := do
  let grouping := buildLogicalGroups session
  refuse (grouping.activeMessageCount ≠ plan.activeMessageCount)
    (.stalePlan "active_message_count")
  refuse (grouping.activeMessageCount < plan.providerMessageTokenOverrideCount)
    (.inconsistentPlan "provider_message_token_override_count")
  let safe := markProtocolSafety grouping.groups
  refuse (plan.retainedRecentUserTurnCount ≠
      min (safe.countP (fun group => group.userMessageId.isSome)) plan.minRecentUserTurns)
    (.inconsistentPlan "retained_recent_user_turn_count")
  let groups := markProtectedGroups safe plan.minRecentUserTurns
  let selected ← selectedGroups plan.messageIdsToArchive groups.zipIdx
  validateSelection digests session plan groups selected

def usagePercentage (tokens limit : Nat) : Float :=
  if limit = 0 then 0.0 else Float.ofNat tokens / Float.ofNat limit * 100.0

/-- What the replay demands of the recorded event, in the order of the checks. -/
def eventEvidence (event : CompressionEvent) (plan : RetrievalWindowCandidatePlan)
    (triggerType : CompressionTriggerType) : List (Bool × String) :=
  [(event.messagesCompressed == plan.archiveMessageCount, "messages_compressed"),
    (event.segmentsRemoved == plan.archiveGroupCount, "segments_removed"),
    (event.summaryTokens == 0, "summary_tokens"),
    (event.actualSummaryTokens == 0, "actual_summary_tokens"),
    (event.triggerType == triggerType, "trigger_type"),
    (event.compressionRatio.toBits == Float.toBits 0.0, "compression_ratio"),
    (event.modelUsed == none, "model_used"),
    (event.latencyMs == 0, "latency_ms"),
    (event.sourceTokens == plan.archiveMessageTokens, "source_tokens"),
    (event.fixedPromptTokens == plan.fixedPromptTokens, "fixed_prompt_tokens"),
    (event.targetSummaryTokens == 0, "target_summary_tokens"),
    (event.summaryTargetRatio.toBits == Float.toBits 0.0, "summary_target_ratio"),
    (event.actualSummaryRatio.toBits == Float.toBits 0.0, "actual_summary_ratio"),
    (event.summaryBudgetClamped == false, "summary_budget_clamped"),
    (event.summaryBudgetClampReason == none, "summary_budget_clamp_reason"),
    (event.summarizationMapCalls == 0, "summarization_map_calls"),
    (event.summarizationReduceCalls == 0, "summarization_reduce_calls"),
    (event.summarizationFallbackUsed == false, "summarization_fallback_used"),
    (event.retrievalActiveTokensBefore == plan.activeTokensBefore,
      "retrieval_active_tokens_before"),
    (event.retrievalActiveMessageCountBefore == plan.activeMessageCount,
      "retrieval_active_message_count_before"),
    (event.retrievalActiveStateSha256 == some plan.activeStateSha256,
      "retrieval_active_state_sha256"),
    (event.retrievalTokenAccountingSha256 == some plan.tokenAccountingSha256,
      "retrieval_token_accounting_sha256"),
    (event.retrievalActiveTokensAfter == plan.projectedActiveTokensAfter,
      "retrieval_active_tokens_after"),
    (event.retrievalTargetTokens == plan.targetTokens, "retrieval_target_tokens"),
    (event.retrievalTargetUsagePercent == plan.targetUsagePercent,
      "retrieval_target_usage_percent"),
    (event.retrievalArchivedGroupCount == plan.archiveGroupCount,
      "retrieval_archived_group_count"),
    (event.retrievalArchivedUserTurnCount == plan.archiveUserTurnCount,
      "retrieval_archived_user_turn_count"),
    (event.retrievalArchivedMessageTokens == plan.archiveMessageTokens,
      "retrieval_archived_message_tokens"),
    (event.retrievalBoundaryReclaimedTokens == plan.boundaryReclaimableTokens,
      "retrieval_boundary_reclaimed_tokens"),
    (event.retrievalSystemMessageTokens == plan.systemMessageTokens,
      "retrieval_system_message_tokens"),
    (event.retrievalContextWindowTokens == plan.contextWindowTokens,
      "retrieval_context_window_tokens"),
    (event.retrievalRequestInputLimitTokens == plan.requestInputLimitTokens,
      "retrieval_request_input_limit_tokens"),
    (event.retrievalMinRecentUserTurns == plan.minRecentUserTurns,
      "retrieval_min_recent_user_turns"),
    (event.retrievalRetainedRecentUserTurnCount == plan.retainedRecentUserTurnCount,
      "retrieval_retained_recent_user_turn_count"),
    (event.retrievalRetainedUserTurnCount == plan.retainedUserTurnCount,
      "retrieval_retained_user_turn_count"),
    (event.retrievalOldestRetainedMessageId == plan.oldestRetainedMessageId,
      "retrieval_oldest_retained_message_id"),
    (event.retrievalOldestRetainedUserMessageId == plan.oldestRetainedUserMessageId,
      "retrieval_oldest_retained_user_message_id"),
    (event.retrievalProviderMessageTokenOverrideCount == plan.providerMessageTokenOverrideCount,
      "retrieval_provider_message_token_override_count"),
    (event.retrievalProtectedActiveTokens == plan.protectedActiveTokens,
      "retrieval_protected_active_tokens"),
    (event.retrievalIncompleteProtocolGroupCount == plan.incompleteProtocolGroupCount,
      "retrieval_incomplete_protocol_group_count"),
    (event.usageBeforePercent.toBits ==
      (usagePercentage plan.activeTokensBefore plan.contextWindowTokens).toBits,
      "usage_before_percent"),
    (event.usageAfterPercent.toBits ==
      (usagePercentage plan.projectedActiveTokensAfter plan.contextWindowTokens).toBits,
      "usage_after_percent")]

def requireEvidence (eventId : String) (checks : List (Bool × String)) : Applying Unit :=
  match checks.find? (fun check => !check.1) with
  | some check => .error (.archiveEventEvidenceMismatch eventId check.2)
  | none => .ok ()

def validateIdempotentReplay (session : Session) (plan : RetrievalWindowCandidatePlan)
    (candidateIndexes : List Nat) (triggerType : CompressionTriggerType) :
    Applying RetrievalWindowApplyResult :=
  match (messagesAt session candidateIndexes).head?.bind (·.compressedByEventId) with
  | none => .error .mixedArchiveEvents
  | some eventId => do
    refuse (∃ message ∈ messagesAt session candidateIndexes,
        message.compressedByEventId ≠ some eventId)
      .mixedArchiveEvents
    match session.compressionEvents.filter (fun event => event.id = eventId) with
    | [event] =>
      refuse (event.kind ≠ .retrievalWindow) (.archiveEventKindConflict eventId)
      refuse ((session.messages.filter (fun message =>
          message.compressedByEventId = some eventId)).map (·.id) ≠ plan.messageIdsToArchive)
        (.archiveEventEvidenceMismatch eventId "message_correlation")
      requireEvidence eventId (eventEvidence event plan triggerType)
      return { eventId, newlyArchivedMessageCount := 0, idempotentReplay := true }
    | _ => .error (.missingOrDuplicateArchiveEvent eventId)

/-- The event that a commit records. -/
def boundaryEvent (eventId : String) (plan : RetrievalWindowCandidatePlan)
    (triggerType : CompressionTriggerType) : CompressionEvent :=
  { CompressionEvent.new eventId plan.archiveMessageCount plan.archiveGroupCount
      (usagePercentage plan.activeTokensBefore plan.contextWindowTokens)
      (usagePercentage plan.projectedActiveTokensAfter plan.contextWindowTokens)
      0 triggerType 0.0 none 0 with
    kind := .retrievalWindow,
    sourceTokens := plan.archiveMessageTokens,
    fixedPromptTokens := plan.fixedPromptTokens,
    retrievalActiveTokensBefore := plan.activeTokensBefore,
    retrievalActiveMessageCountBefore := plan.activeMessageCount,
    retrievalActiveStateSha256 := some plan.activeStateSha256,
    retrievalTokenAccountingSha256 := some plan.tokenAccountingSha256,
    retrievalActiveTokensAfter := plan.projectedActiveTokensAfter,
    retrievalTargetTokens := plan.targetTokens,
    retrievalTargetUsagePercent := plan.targetUsagePercent,
    retrievalArchivedGroupCount := plan.archiveGroupCount,
    retrievalArchivedUserTurnCount := plan.archiveUserTurnCount,
    retrievalArchivedMessageTokens := plan.archiveMessageTokens,
    retrievalBoundaryReclaimedTokens := plan.boundaryReclaimableTokens,
    retrievalSystemMessageTokens := plan.systemMessageTokens,
    retrievalContextWindowTokens := plan.contextWindowTokens,
    retrievalRequestInputLimitTokens := plan.requestInputLimitTokens,
    retrievalMinRecentUserTurns := plan.minRecentUserTurns,
    retrievalRetainedRecentUserTurnCount := plan.retainedRecentUserTurnCount,
    retrievalRetainedUserTurnCount := plan.retainedUserTurnCount,
    retrievalOldestRetainedMessageId := plan.oldestRetainedMessageId,
    retrievalOldestRetainedUserMessageId := plan.oldestRetainedUserMessageId,
    retrievalProviderMessageTokenOverrideCount := plan.providerMessageTokenOverrideCount,
    retrievalProtectedActiveTokens := plan.protectedActiveTokens,
    retrievalIncompleteProtocolGroupCount := plan.incompleteProtocolGroupCount }

def archiveMessage (eventId : String) (message : Message) : Message :=
  { message with compressed := true, compressedByEventId := some eventId }

def boundaryUsage (session : Session) (plan : RetrievalWindowCandidatePlan)
    (usage : ValidatedRetrievalWindowUsage) : TokenBudgetUsage :=
  { systemTokens := usage.systemTokens, summaryTokens := 0, windowTokens := usage.windowTokens,
    totalTokens := plan.projectedActiveTokensAfter,
    maxContextTokens := plan.contextWindowTokens, budgetLimit := plan.requestInputLimitTokens,
    truncationOccurred := false, segmentsRemoved := plan.archiveGroupCount,
    promptCachedToolOutputs := 0, promptCachedToolTokensSaved := 0, thinkingTokens := 0,
    cacheReadInputTokens := (session.tokenUsage.map (·.cacheReadInputTokens)).getD 0,
    providerPromptUsage := (session.tokenUsage.bind (·.providerPromptUsage)).map
      (fun usage => { usage with retainedFromPreviousCall := true }) }

def commitBoundary (session : Session) (plan : RetrievalWindowCandidatePlan)
    (usage : ValidatedRetrievalWindowUsage) (candidateIndexes : List Nat)
    (triggerType : CompressionTriggerType) (eventId : String) (now : Nat) : Session :=
  let marked : Session :=
    { session with
      messages := candidateIndexes.foldl
        (fun messages index => messages.modify index (archiveMessage eventId)) session.messages,
      compressionEvents := session.compressionEvents ++ [boundaryEvent eventId plan triggerType],
      tokenUsage := some (boundaryUsage session plan usage) }
  { marked.resetModelContextEpoch with updatedAt := now }

/-- What the checks decide: nothing is left to do, or these indexes are to be archived. -/
inductive ApplyDecision where
  | replay (result : RetrievalWindowApplyResult)
  | commit (usage : ValidatedRetrievalWindowUsage) (candidateIndexes : List Nat)

def decideApply (digests : Digests) (session : Session) (plan : RetrievalWindowCandidatePlan)
    (currentPolicy : RetrievalWindowPolicy) (currentBudget : TokenBudget)
    (currentAccounting : RetrievalWindowTokenAccounting)
    (triggerType : CompressionTriggerType) : Applying ApplyDecision := do
  let usage ← validateApplyPlanArithmetic plan
  refuse (session.conversationSummary.isSome = true) .preExistingConversationSummary
  validateCurrentPolicy plan currentPolicy
  validateCurrentTokenBudget plan currentBudget
  validateCurrentTokenAccounting digests plan currentAccounting
  let candidateIndexes ← resolveCandidateIndexes session plan
  let activeCount := (messagesAt session candidateIndexes).countP (fun m => !m.compressed)
  let archivedCount := candidateIndexes.length - activeCount
  refuse (0 < activeCount ∧ 0 < archivedCount) .partialApplication
  if archivedCount = candidateIndexes.length then
    validatePlanEvidence digests plan
    let result ← validateIdempotentReplay session plan candidateIndexes triggerType
    return .replay result
  else
    (messagesAt session candidateIndexes).forM validateCandidate
    validateActivePlanStructure digests session plan
    validatePlanEvidence digests plan
    return .commit usage candidateIndexes

/-- `apply_retrieval_window_plan_with_trigger`: the session it leaves and what it returns.
    `eventId` and `now` are the id and the time that a commit draws. -/
def applyRetrievalWindowPlanWithTrigger (digests : Digests) (session : Session)
    (plan : RetrievalWindowCandidatePlan) (currentPolicy : RetrievalWindowPolicy)
    (currentBudget : TokenBudget) (currentAccounting : RetrievalWindowTokenAccounting)
    (triggerType : CompressionTriggerType) (eventId : String) (now : Nat) :
    Session × Applying RetrievalWindowApplyResult :=
  match decideApply digests session plan currentPolicy currentBudget currentAccounting
    triggerType with
  | .error error => (session, .error error)
  | .ok (.replay result) => (session, .ok result)
  | .ok (.commit usage candidateIndexes) =>
    (commitBoundary session plan usage candidateIndexes triggerType eventId now,
      .ok { eventId, newlyArchivedMessageCount := plan.archiveMessageCount,
            idempotentReplay := false })

def applyRetrievalWindowPlan (digests : Digests) (session : Session)
    (plan : RetrievalWindowCandidatePlan) (currentPolicy : RetrievalWindowPolicy)
    (currentBudget : TokenBudget) (currentAccounting : RetrievalWindowTokenAccounting)
    (eventId : String) (now : Nat) : Session × Applying RetrievalWindowApplyResult :=
  applyRetrievalWindowPlanWithTrigger digests session plan currentPolicy currentBudget
    currentAccounting .auto eventId now

end Compression
