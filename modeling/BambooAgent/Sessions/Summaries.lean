import BambooAgent.Compression.Preparation
import BambooAgent.Compression.RetrievalApply
import BambooAgent.Sessions.Staged

/- Message summaries: the choice of what to archive, the check of the finished summary and the
   rewrite of the session. -/
namespace Sessions
open SortedMaps Compression Checks

inductive CompressionPlanError where
  | noActiveMessages
  | nothingToCompress (nonSystemCount : Nat)
  | protectedContentExceedsTarget (projectedTokens targetTokens : Nat)
  | candidateSetChanged
  | messageSummaryToolProtocol (reason : String)
  | emptyMessageSummary
  | summaryExceedsTarget (projectedTokens targetTokens : Nat)

structure CompressionCandidatePlan where
  kind : CompressionEventKind
  mergeExistingSummary : Bool
  compressedMessageIds : List String
  messagesToSummarize : List Message
  sourceTokens : Nat
  previousRepresentedSourceTokens : Nat
  representedSourceTokens : Nat
  targetSummaryTokens : Nat
  summaryTargetRatio : Float
  activeUsageBeforePercent : Float
  projectedUsageAfterPercent : Float
  triggerPercent : Nat
  targetPercent : Nat
  segmentsRemoved : Nat
  triggerType : CompressionTriggerType
  additionalFixedTokens : Nat
  retainedInputTokens : Nat
  contextWindow : Nat
  targetLimit : Nat
  messageSummarySnapshot : Option String
  summaryBudgetClamped : Bool

structure CompressionPlan where
  kind : CompressionEventKind
  logicalPassId : Option String
  fixedPromptTokens : Nat
  compressedMessageIds : List String
  messagesToSummarize : List Message
  summaryTokens : Nat
  summaryContent : String
  activeUsageBeforePercent : Float
  activeUsageAfterPercent : Float
  triggerPercent : Nat
  targetPercent : Nat
  segmentsRemoved : Nat
  triggerType : CompressionTriggerType
  compressionRatio : Float
  modelUsed : Option String
  latencyMs : Nat
  sourceTokens : Nat
  representedSourceTokens : Nat
  targetSummaryTokens : Nat
  actualSummaryContentTokens : Nat
  summaryTargetRatio : Float
  summaryBudgetClamped : Bool
  summaryBudgetClampReason : Option String
  summarizationMapCalls : Nat
  summarizationReduceCalls : Nat
  summarizationFallbackUsed : Bool

/-- The tokenizer and the JSON text that a plan keeps of the session it was made from. -/
structure SummaryTools where
  counter : TokenCounter
  messageSummarySnapshot : List Message → Option ConversationSummary → List CompressionEvent →
    Option String

section Counting
variable (tools : SummaryTools)

def SummaryTools.countMessages (messages : List Message) : Nat :=
  tools.counter.countMessages (messages.map (·.toMessage))

/-- `compression_summary_message` as the counter sees it; its id and time do not count. -/
def SummaryTools.countSummary (content : String) : Nat :=
  tools.counter.countMessages [.system "" (compressionSummaryContent content)]

end Counting

/- Ratios. -/

def defaultSummaryTargetRatio : Float := 0.20

def normalizedSummaryTargetRatio (value : Float) : Float :=
  if value.isFinite && 0.0 < value then
    if value < 0.01 then 0.01 else if 0.50 < value then 0.50 else value
  else defaultSummaryTargetRatio

/-- `x.ceil() as u32`. -/
def ceilTokens (value : Float) : Nat := value.ceil.toUInt32.toNat

def contextWindowUsagePercent (totalTokens contextWindowTokens : Nat) : Float :=
  if contextWindowTokens = 0 then 0.0
  else Float.ofNat totalTokens / Float.ofNat contextWindowTokens * 100.0

def effectiveTriggerPercent (budget : TokenBudget) : Nat :=
  if budget.maxContextTokens = 0 then 0
  else budget.compressionTriggerContextTokens * 100 / budget.maxContextTokens % 256

/-- The summary size and the source that the summary before it stands for. -/
def targetSummaryContentTokens (tools : SummaryTools) (session : Session)
    (newlyRepresentedTokens : Nat) (ratio : Float) : Nat × Nat :=
  let targetRatio := normalizedSummaryTargetRatio ratio
  match session.conversationSummary with
  | some summary =>
    if 0 < summary.representedSourceTokens then
      let represented := saturatingAdd summary.representedSourceTokens newlyRepresentedTokens
      (ceilTokens (Float.ofNat represented * targetRatio), summary.representedSourceTokens)
    else
      let existingTokens := tools.counter.countText summary.content
      (saturatingAdd existingTokens
          (ceilTokens (Float.ofNat newlyRepresentedTokens * targetRatio)),
        ceilTokens (Float.ofNat existingTokens / targetRatio))
  | none => (ceilTokens (Float.ofNat newlyRepresentedTokens * targetRatio), 0)

def capSummaryToContextTarget (desiredSummaryTokens requiredTokens targetLimit : Nat) :
    Except CompressionPlanError Nat :=
  let available := targetLimit - requiredTokens
  if targetLimit < requiredTokens ∨ (0 < desiredSummaryTokens ∧ available = 0) then
    .error (.protectedContentExceedsTarget
      (saturatingAdd requiredTokens (if 0 < desiredSummaryTokens then 1 else 0)) targetLimit)
  else .ok (min desiredSummaryTokens available)

def retainedInputTokens (messages : List Message) (inputCosts : SortedMap String Nat) : Nat :=
  (messages.filterMap (fun message => inputCosts.lookup message.id)).foldl saturatingAdd 0

/- The tool protocol. -/

def activeMessagesForBudget (session : Session) : List Message :=
  session.messages.filter (fun message => !message.compressed)

/-- The usage that the exposure estimate reports, of the recorded one and the counted one. -/
def activeUsagePercent (tools : SummaryTools) (session : Session) (budget : TokenBudget)
    (additionalFixedTokens : Nat) : Float :=
  let summaryTokens :=
    (session.conversationSummary.map (fun summary => tools.countSummary summary.content)).getD 0
  let activeTokens := saturatingAdd
    (saturatingAdd (tools.countMessages (activeMessagesForBudget session)) summaryTokens)
    additionalFixedTokens
  let estimated := contextWindowUsagePercent activeTokens budget.maxContextTokens
  let recorded := session.tokenUsage.bind (fun usage =>
    let denominator :=
      if 0 < usage.maxContextTokens then usage.maxContextTokens
      else if 0 < usage.budgetLimit then usage.budgetLimit
      else budget.maxContextTokens
    if 0 < denominator then some (contextWindowUsagePercent usage.totalTokens denominator)
    else none)
  match recorded with
  | some persisted => if persisted < estimated then estimated else persisted
  | none => estimated

def isPostCompactionRecovery (message : Message) : Bool :=
  decide (message.role = .assistant) &&
    startsWith message.content "[post-compaction-recovery]\n"

def messageContentSource (message : Message) : Option Message :=
  if (trim message.content).isEmpty || isPostCompactionRecovery message then none
  else
    match message.role with
    | .user =>
      some { Compression.Message.user message.id message.content with
              phase := none, createdAt := 0, metadata := none }
    | .assistant =>
      some { Compression.Message.assistant message.id message.content none with
              phase := none, createdAt := 0, metadata := none }
    | _ => none

def invalidToolProtocol (reason : String) : CompressionPlanError :=
  .messageSummaryToolProtocol reason

def insertCalls : List String → List ToolCall → Except CompressionPlanError (List String)
  | calls, [] => .ok calls
  | calls, call :: rest =>
    if call.id = "" ∨ call.id ∈ calls then
      .error (invalidToolProtocol "tool calls have an empty or duplicate identifier")
    else insertCalls (call.id :: calls) rest

def insertResult (results : List String) (message : Message) :
    Except CompressionPlanError (List String) :=
  if message.role = .tool then
    match message.toolCallId.filter (fun id => id ≠ "") with
    | none => .error (invalidToolProtocol "a tool result has no call identifier")
    | some id =>
      if id ∈ results then .error (invalidToolProtocol "a tool call has duplicate results")
      else .ok (id :: results)
  else if message.toolCallId.isSome then
    .error (invalidToolProtocol "a tool result identifier has a non-tool role")
  else .ok results

/-- One message of the scan, on the calls and results before it. -/
def scanProtocol (scan : List String × List String) (message : Message) :
    Except CompressionPlanError (List String × List String) := do
  let hasCalls := hasToolCalls message.toMessage
  let hasToolProtocol := hasCalls || message.toolCallId.isSome || decide (message.role = .tool)
  refuse (message.neverCompress ∧ hasToolProtocol)
    (invalidToolProtocol "a tool-chain record is marked never_compress")
  refuse (hasCalls ∧ message.role ≠ .assistant)
    (invalidToolProtocol "tool calls have a non-assistant role")
  let calls ← insertCalls scan.1 (callsOf message.toMessage)
  let results ← insertResult scan.2 message
  return (calls, results)

def validateMessageSummaryToolProtocol (messages : List Message) :
    Except CompressionPlanError Unit := do
  let scan ← messages.foldlM scanProtocol ([], [])
  refuse (¬ sameIds scan.1 scan.2)
    (invalidToolProtocol "tool calls and results are incomplete or orphaned")

/- The candidate. -/

/-- The id of the request that stays: the newest active user message. -/
def latestActiveUser (active : List Message) : Option String :=
  (active.reverse.find? (fun message => decide (message.role = .user))).map (·.id)

def isArchived (latestUserId : Option String) (message : Message) : Bool :=
  decide (message.role ≠ .system) && decide (some message.id ≠ latestUserId) &&
    (!message.neverCompress || isPostCompactionRecovery message)

/-- The last event that is no retrieval window, and the windows after it. -/
def sinceLatestSummary (events : List CompressionEvent) :
    Option CompressionEvent × List CompressionEvent :=
  let windows := events.reverse.takeWhile (fun event => decide (event.kind = .retrievalWindow))
  ((events.reverse.drop windows.length).head?, windows.reverse)

def messagesToSummarize (session : Session) (archivedIds : List String)
    (mergeExistingSummary : Bool) (interveningIds : List String) : List Message :=
  (session.messages.filter (fun message =>
    decide (message.id ∈ archivedIds) ||
      (message.compressed && !message.neverCompress &&
        (!mergeExistingSummary ||
          message.compressedByEventId.any (fun id => decide (id ∈ interveningIds)))))).filterMap
    messageContentSource

def buildMessageSummaryCandidatePlanWithInputCosts (tools : SummaryTools) (session : Session)
    (budget : TokenBudget) (summaryTargetRatio : Float) (triggerType : CompressionTriggerType)
    (additionalFixedTokens : Nat) (inputCosts : SortedMap String Nat) :
    Except CompressionPlanError CompressionCandidatePlan := do
  let active := activeMessagesForBudget session
  refuse (active = []) .noActiveMessages
  validateMessageSummaryToolProtocol active
  let archived := active.filter (isArchived (latestActiveUser active))
  refuse (archived = [])
    (.nothingToCompress (active.filter (fun message => message.role ≠ .system)).length)
  let compressedMessageIds := archived.map (·.id)
  let (latestSummary, windows) := sinceLatestSummary session.compressionEvents
  let mergeExistingSummary := session.conversationSummary.isSome &&
    latestSummary.any (fun event => decide (event.kind = .messageSummary))
  let sources := messagesToSummarize session compressedMessageIds mergeExistingSummary
    (windows.map (·.id))
  let sourceTokens := tools.countMessages sources
  let ratio := normalizedSummaryTargetRatio summaryTargetRatio
  let (desired, previous) :=
    if mergeExistingSummary then targetSummaryContentTokens tools session sourceTokens ratio
    else (ceilTokens (Float.ofNat sourceTokens * ratio), 0)
  let remaining := active.filter (fun message => decide (message.id ∉ compressedMessageIds))
  let envelope := if 0 < desired then tools.countSummary "" else 0
  let retained := retainedInputTokens remaining inputCosts
  let required := saturatingAdd (saturatingAdd
    (saturatingAdd (tools.countMessages remaining) retained) additionalFixedTokens) envelope
  let targetLimit := budget.compressionThresholds.targetTokens
  let target ← capSummaryToContextTarget desired required targetLimit
  match tools.messageSummarySnapshot session.messages session.conversationSummary
    session.compressionEvents with
  | none => .error .candidateSetChanged
  | some snapshot =>
    .ok
      { kind := .messageSummary, mergeExistingSummary, compressedMessageIds,
        messagesToSummarize := sources, sourceTokens,
        previousRepresentedSourceTokens := previous,
        representedSourceTokens := saturatingAdd previous sourceTokens,
        targetSummaryTokens := target, summaryTargetRatio := ratio,
        activeUsageBeforePercent := activeUsagePercent tools session budget additionalFixedTokens,
        projectedUsageAfterPercent :=
          contextWindowUsagePercent (saturatingAdd required target) budget.maxContextTokens,
        triggerPercent := effectiveTriggerPercent budget,
        targetPercent := budget.compressionThresholds.targetUsagePercent,
        segmentsRemoved := (segment (archived.map (·.toMessage))).length, triggerType,
        additionalFixedTokens, retainedInputTokens := retained,
        contextWindow := budget.maxContextTokens, targetLimit,
        messageSummarySnapshot := some snapshot,
        summaryBudgetClamped := decide (target < desired) }

/- The plan. -/

def summaryPromptTokens (tools : SummaryTools) (kind : CompressionEventKind)
    (content : String) : Nat :=
  if kind = .messageSummary ∧ (trim content).isEmpty then 0 else tools.countSummary content

/-- `finalize_compression_candidate_plan`; `recoveryTokens` counts the recovery note that the
    other kinds of summary leave. -/
def finalizeCompressionCandidatePlan (tools : SummaryTools)
    (recoveryTokens : List Message → Session → Nat) (session : Session)
    (candidate : CompressionCandidatePlan) (summaryContent : String) :
    Except CompressionPlanError CompressionPlan := do
  refuse (candidate.kind = .messageSummary ∧ 0 < candidate.targetSummaryTokens ∧
    (trim summaryContent).isEmpty) .emptyMessageSummary
  refuse (candidate.messageSummarySnapshot.isSome ∧
    candidate.messageSummarySnapshot ≠ tools.messageSummarySnapshot session.messages
      session.conversationSummary session.compressionEvents) .candidateSetChanged
  let active := activeMessagesForBudget session
  refuse (∃ id ∈ candidate.compressedMessageIds, id ∉ active.map (·.id)) .candidateSetChanged
  let summaryTokens := summaryPromptTokens tools candidate.kind summaryContent
  let recovery :=
    if candidate.kind = .messageSummary then 0
    else recoveryTokens candidate.messagesToSummarize session
  let remaining := active.filter (fun message =>
    decide (message.id ∉ candidate.compressedMessageIds))
  let projected := saturatingAdd (saturatingAdd (saturatingAdd (saturatingAdd
    (tools.countMessages remaining) candidate.additionalFixedTokens)
    candidate.retainedInputTokens) summaryTokens) recovery
  refuse (candidate.targetLimit < projected)
    (.summaryExceedsTarget projected candidate.targetLimit)
  return {
    kind := candidate.kind, logicalPassId := none,
    fixedPromptTokens := candidate.additionalFixedTokens,
    compressedMessageIds := candidate.compressedMessageIds,
    messagesToSummarize := candidate.messagesToSummarize, summaryTokens, summaryContent,
    activeUsageBeforePercent := candidate.activeUsageBeforePercent,
    activeUsageAfterPercent := contextWindowUsagePercent projected candidate.contextWindow,
    triggerPercent := candidate.triggerPercent, targetPercent := candidate.targetPercent,
    segmentsRemoved := candidate.segmentsRemoved, triggerType := candidate.triggerType,
    compressionRatio := 0.0, modelUsed := none, latencyMs := 0,
    sourceTokens := candidate.sourceTokens,
    representedSourceTokens := candidate.representedSourceTokens,
    targetSummaryTokens := candidate.targetSummaryTokens,
    actualSummaryContentTokens := tools.counter.countText summaryContent,
    summaryTargetRatio := candidate.summaryTargetRatio,
    summaryBudgetClamped := candidate.summaryBudgetClamped,
    summaryBudgetClampReason :=
      if candidate.summaryBudgetClamped then some "context_target_budget" else none,
    summarizationMapCalls := 0, summarizationReduceCalls := 0,
    summarizationFallbackUsed := false }

/- The rewrite. -/

/-- What a rewrite draws: the id of its event, and the times of the summary and the update. -/
structure Stamp where
  eventId : String
  summarizedAt : Nat
  updatedAt : Nat

def archiveIds (ids : List String) (eventId : String) (message : Message) : Message :=
  if message.compressed || decide (message.id ∉ ids) then message
  else { message with compressed := true, compressedByEventId := some eventId }

def CompressionPlan.event (plan : CompressionPlan) (stamp : Stamp) (changed : Nat) :
    CompressionEvent :=
  { CompressionEvent.new (plan.logicalPassId.getD stamp.eventId) changed plan.segmentsRemoved
      plan.activeUsageBeforePercent plan.activeUsageAfterPercent plan.summaryTokens
      plan.triggerType plan.compressionRatio plan.modelUsed plan.latencyMs with
    kind := plan.kind, sourceTokens := plan.sourceTokens,
    fixedPromptTokens := plan.fixedPromptTokens,
    actualSummaryTokens := plan.actualSummaryContentTokens,
    targetSummaryTokens := plan.targetSummaryTokens,
    summaryTargetRatio := plan.summaryTargetRatio,
    actualSummaryRatio :=
      if plan.representedSourceTokens = 0 then 0.0
      else Float.ofNat plan.actualSummaryContentTokens / Float.ofNat plan.representedSourceTokens,
    summaryBudgetClamped := plan.summaryBudgetClamped,
    summaryBudgetClampReason := plan.summaryBudgetClampReason,
    summarizationMapCalls := plan.summarizationMapCalls,
    summarizationReduceCalls := plan.summarizationReduceCalls,
    summarizationFallbackUsed := plan.summarizationFallbackUsed }

def CompressionPlan.summary (plan : CompressionPlan) (stamp : Stamp) :
    Option ConversationSummary :=
  if plan.kind = .messageSummary ∧ (trim plan.summaryContent).isEmpty then none
  else
    some
      { createdAt := stamp.summarizedAt, updatedAt := stamp.summarizedAt,
        content := plan.summaryContent, messageCount := plan.compressedMessageIds.length,
        tokenCount := plan.summaryTokens,
        representedSourceTokens := plan.representedSourceTokens,
        targetTokenCount := plan.targetSummaryTokens, targetRatio := plan.summaryTargetRatio,
        budgetClamped := plan.summaryBudgetClamped,
        budgetClampReason := plan.summaryBudgetClampReason }

/-- The recovery note goes behind the last active user message. -/
def insertRecovery (messages : List Message) (recovery : Message) : List Message :=
  match messages.reverse.findIdx? (fun message =>
    decide (message.role = .user) && !message.compressed) with
  | some fromEnd => messages.insertIdx (messages.length - fromEnd) recovery
  | none => messages ++ [recovery]

def usageAfterSummary (tools : SummaryTools) (session : Session) (plan : CompressionPlan) :
    TokenBudgetUsage :=
  let active := activeMessagesForBudget session
  let systemTokens := saturatingAdd
    (tools.countMessages (active.filter (fun message => decide (message.role = .system))))
    plan.fixedPromptTokens
  let windowTokens :=
    tools.countMessages (active.filter (fun message => decide (message.role ≠ .system)))
  { systemTokens, summaryTokens := plan.summaryTokens, windowTokens,
    totalTokens := saturatingAdd (saturatingAdd systemTokens plan.summaryTokens) windowTokens,
    maxContextTokens := (session.tokenUsage.map (·.maxContextTokens)).getD 0,
    budgetLimit :=
      (session.tokenUsage.map (fun usage =>
        if 0 < usage.budgetLimit then usage.budgetLimit else usage.maxContextTokens)).getD 0,
    truncationOccurred := false, segmentsRemoved := 0, promptCachedToolOutputs := 0,
    promptCachedToolTokensSaved := 0, thinkingTokens := 0,
    cacheReadInputTokens := (session.tokenUsage.map (·.cacheReadInputTokens)).getD 0,
    providerPromptUsage :=
      (session.tokenUsage.bind (·.providerPromptUsage)).map (fun usage =>
        { usage with retainedFromPreviousCall := true }) }

/-- `apply_compression_plan`; `recovery` is the note that the other kinds of summary leave. -/
def applyCompressionPlan (tools : SummaryTools)
    (recovery : List Message → Session → Option Message) (session : Session)
    (plan : CompressionPlan) (stamp : Stamp) : Session × Nat :=
  let changed := session.messages.countP (fun message =>
    !message.compressed && decide (message.id ∈ plan.compressedMessageIds))
  if changed = 0 then (session, 0)
  else
    let event := plan.event stamp changed
    let archived :=
      { session with
        messages := session.messages.map (archiveIds plan.compressedMessageIds event.id),
        compressionEvents := session.compressionEvents ++ [event],
        conversationSummary := plan.summary stamp }
    let note :=
      if plan.kind = .messageSummary then none
      else
        recovery (archived.messages.filter (fun message =>
          decide (message.id ∈ plan.compressedMessageIds))) archived
    let noted :=
      match note with
      | some message => { archived with messages := insertRecovery archived.messages message }
      | none => archived
    let counted := { noted with tokenUsage := some (usageAfterSummary tools noted plan) }
    ({ counted.resetModelContextEpoch with updatedAt := stamp.updatedAt },
      plan.compressedMessageIds.length)

/-- The session that `commit_message_summary_plan` hands to the checkpoint. -/
def stageMessageSummary (tools : SummaryTools)
    (recovery : List Message → Session → Option Message) (session : Session)
    (plan : CompressionPlan) (stamp : Stamp) : Session :=
  let staged := (applyCompressionPlan tools recovery session plan stamp).1
  { staged with
    metadata := staged.metadata.erase previousResponseIdKey, forceManualCompression := none }

/- The retrieval window on the whole session. -/

/-- The part of the session that the archive of a retrieval window reads and writes. -/
def Session.contextPart (session : Session) : Compression.Session :=
  { messages := session.messages.map (·.toMessage),
    conversationSummary :=
      session.conversationSummary.map (fun summary => { content := summary.content }),
    compressionEvents := session.compressionEvents, tokenUsage := session.tokenUsage,
    modelContextState := session.modelContextState,
    providerTranscript := session.providerTranscript, updatedAt := session.updatedAt }

/-- The part written back; the archive reads the summary only. -/
def Session.withContextPart (session : Session) (part : Compression.Session) : Session :=
  { session with
    messages := List.zipWith (fun message rewritten => { message with toMessage := rewritten })
      session.messages part.messages,
    compressionEvents := part.compressionEvents, tokenUsage := part.tokenUsage,
    modelContextState := part.modelContextState,
    providerTranscript := part.providerTranscript, updatedAt := part.updatedAt }

def applyRetrievalWindowPlanWithTrigger (digests : Digests) (session : Session)
    (plan : RetrievalWindowCandidatePlan) (currentPolicy : RetrievalWindowPolicy)
    (currentBudget : TokenBudget) (currentAccounting : RetrievalWindowTokenAccounting)
    (triggerType : CompressionTriggerType) (eventId : String) (now : Nat) :
    Session × Applying RetrievalWindowApplyResult :=
  let applied := Compression.applyRetrievalWindowPlanWithTrigger digests session.contextPart
    plan currentPolicy currentBudget currentAccounting triggerType eventId now
  (session.withContextPart applied.1, applied.2)

end Sessions
