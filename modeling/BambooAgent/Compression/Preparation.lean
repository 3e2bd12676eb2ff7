import BambooAgent.Library.Shedding
import BambooAgent.Compression.PromptCache
import BambooAgent.Compression.Segmenter
import BambooAgent.Compression.ToolNames

/- Fitting a session's active messages into the request input limit. -/
namespace Compression
open Shedding

def segmentContainsUser (segment : MessageSegment) : Bool :=
  segment.messages.any (fun message => message.role = .user)

def segmentContainsAssistantText (segment : MessageSegment) : Bool :=
  segment.messages.any (fun message =>
    message.role = .assistant && !(trim message.content).isEmpty && !hasToolCalls message)

def segmentContainsSkillToolChain (segment : MessageSegment) : Bool :=
  segment.messages.any (fun message =>
    message.role = .assistant &&
      (callsOf message).any (fun call => isSkillToolName call.function.name .exact))

/-- A segment with its protected flag. -/
abbrev Anchored := MessageSegment × Bool

/-- `segments.iter().rposition(..)`. -/
def lastIndex (test : MessageSegment → Bool) (segments : List MessageSegment) : Option Nat :=
  (segments.reverse.findIdx? test).map (fun index => segments.length - 1 - index)

/-- The segments that the first three phases leave alone: the first and the last one with
    a user message and the last one with assistant text. -/
def protectSegments (segments : List MessageSegment) : List Anchored :=
  let anchors := [segments.findIdx? segmentContainsUser, lastIndex segmentContainsUser segments,
    lastIndex segmentContainsAssistantText segments]
  segments.zipIdx.map (fun entry => (entry.1, anchors.contains (some entry.2)))

def phaseToolChains (anchored : Anchored) : Bool :=
  !anchored.2 && anchored.1.isToolChain && !segmentContainsSkillToolChain anchored.1

def phaseOtherSegments (anchored : Anchored) : Bool := !anchored.2 && !anchored.1.isToolChain

def phaseUnprotected (anchored : Anchored) : Bool := !anchored.2

def phaseProtected (anchored : Anchored) : Bool := anchored.2

def estimateOf (anchored : Anchored) : Nat := anchored.1.tokenEstimate

structure SegmentSelectionResult where
  selected : List MessageSegment
  removed : List MessageSegment

/-- `fold(0u32, saturating_add)` over the estimates. -/
def sumEstimates (segments : List MessageSegment) : Nat :=
  segments.foldl (fun acc segment => saturatingAdd acc segment.tokenEstimate) 0

/-- The running weight and the flags after the four removal phases. -/
def removalPhases (limit : Nat) (start : Nat × List (Flagged Anchored)) :
    Nat × List (Flagged Anchored) :=
  let first := pass phaseToolChains estimateOf limit start.1 start.2
  let second := pass phaseOtherSegments estimateOf limit first.1 first.2
  let third := pass phaseUnprotected estimateOf limit second.1 second.2
  pass phaseProtected estimateOf limit third.1 third.2

def selectSegmentsWithinBudget (segments : List MessageSegment) (remainingBudget : Nat) :
    SegmentSelectionResult :=
  let totalTokens := sumEstimates segments
  if totalTokens ≤ remainingBudget then { selected := segments, removed := [] }
  else
    let flagged := (protectSegments segments).map (fun anchored => (anchored, true))
    let flags := (removalPhases remainingBudget (totalTokens, flagged)).2
    { selected := (kept flags).map (·.1), removed := (Shedding.removed flags).map (·.1) }

structure PreparedContext where
  messages : List Message
  tokenUsage : TokenUsageBreakdown
  truncationOccurred : Bool
  segmentsRemoved : Nat
  compressedMessageIds : List String
  promptCachedToolOutputs : Nat
  promptCachedToolTokensSaved : Nat

inductive BudgetError where
  | systemPromptTooLarge (systemTokens availableTokens : Nat)

/-- The summary message, with the id that `Message::system` draws for it. -/
def summaryMessage (session : Session) (summaryId : String) : Option Message :=
  session.conversationSummary.map (fun summary =>
    .system summaryId (compressionSummaryContent summary.content))

def summaryTokens (session : Session) (counter : TokenCounter) (summaryId : String) : Nat :=
  ((summaryMessage session summaryId).map (fun message => counter.countMessages [message])).getD 0

/-- The active messages after both excerpting rewrites, and the record of the first. -/
def excerptedMessages (session : Session) (budget : TokenBudget) (counter : TokenCounter)
    (additionalFixedTokens : Nat) (summaryId : String) :
    PromptCacheCompactionResult × List Message :=
  let promptCacheResult := maybeCompactOldToolOutputsForPrompt (activeMessages session) budget
    counter (saturatingAdd (summaryTokens session counter summaryId) additionalFixedTokens)
  (promptCacheResult,
    maybeCompactOldAssistantAnalysis promptCacheResult.messages budget
      promptCacheResult.totalTokensAfter)

def estimateSegment (counter : TokenCounter) (segment : MessageSegment) : MessageSegment :=
  { segment with tokenEstimate := counter.countMessages segment.messages }

def fitWindow (session : Session) (budget : TokenBudget) (counter : TokenCounter)
    (excerpted : PromptCacheCompactionResult × List Message) (systemTokens : Nat)
    (summaryId : String) : PreparedContext :=
  let summaryTokens := summaryTokens session counter summaryId
  let hardLimit := budget.maxRequestInputTokens
  let hardRemainingBudget := hardLimit - systemTokens - summaryTokens
  let estimated := (segmentWithSystem excerpted.2).2.map (estimateSegment counter)
  let selection := selectSegmentsWithinBudget estimated hardRemainingBudget
  let windowTokens := sumEstimates selection.selected
  { messages := (segmentWithSystem excerpted.2).1 ++ (summaryMessage session summaryId).toList ++
      selection.selected.flatMap (·.messages),
    tokenUsage := {
      systemTokens, summaryTokens, windowTokens,
      totalTokens := saturatingAdd (saturatingAdd systemTokens summaryTokens) windowTokens,
      budgetLimit := hardLimit },
    truncationOccurred := 0 < selection.removed.length,
    segmentsRemoved := selection.removed.length,
    compressedMessageIds := (selection.removed.flatMap (·.messages)).map (·.id),
    promptCachedToolOutputs := excerpted.1.compactedToolOutputs,
    promptCachedToolTokensSaved := excerpted.1.tokensSaved }

def prepareHybridContextWithFixedTokens (session : Session) (budget : TokenBudget)
    (counter : TokenCounter) (additionalFixedTokens : Nat) (summaryId : String) :
    Except BudgetError PreparedContext :=
  let excerpted := excerptedMessages session budget counter additionalFixedTokens summaryId
  let systemTokens := saturatingAdd
    (counter.countMessages (segmentWithSystem excerpted.2).1) additionalFixedTokens
  let hardLimit := budget.maxRequestInputTokens
  let requiredPromptTokens := saturatingAdd systemTokens
    (summaryTokens session counter summaryId)
  if hardLimit < requiredPromptTokens then
    .error (.systemPromptTooLarge requiredPromptTokens hardLimit)
  else .ok (fitWindow session budget counter excerpted systemTokens summaryId)

def prepareHybridContext (session : Session) (budget : TokenBudget) (counter : TokenCounter)
    (summaryId : String) : Except BudgetError PreparedContext :=
  prepareHybridContextWithFixedTokens session budget counter 0 summaryId

end Compression
