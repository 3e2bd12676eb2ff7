import BambooAgent.Compression.Session
import BambooAgent.Compression.Texts
import Mathlib.Data.List.Sort

/- The two excerpting rewrites before segmentation: old tool outputs and old analyses. -/
namespace Compression

structure PromptCachePolicy where
  minToolOutputChars : Nat
  headChars : Nat
  tailChars : Nat
  recentUserTurns : Nat
  recentToolChains : Nat

def promptCachePolicyFromBudget (budget : TokenBudget) : PromptCachePolicy :=
  { minToolOutputChars := min budget.promptCacheMinToolOutputChars 200000,
    headChars := min budget.promptCacheHeadChars promptCacheMaxExcerptChars,
    tailChars := min budget.promptCacheTailChars promptCacheMaxExcerptChars,
    recentUserTurns := min budget.promptCacheRecentUserTurns 64,
    recentToolChains := min budget.promptCacheRecentToolChains 64 }

structure PromptCacheCandidate where
  index : Nat
  cachedSummary : String
  oldTokens : Nat
  newTokens : Nat
  savedTokens : Nat

def userIndices (messages : List Message) : List Nat :=
  (messages.zipIdx.filter (fun entry => entry.1.role = .user)).map (·.2)

def recentUserTurnStartIndex (messages : List Message) (keepRecentTurns : Nat) : Option Nat :=
  if keepRecentTurns = 0 then some 0
  else if (userIndices messages).length < keepRecentTurns then none
  else (userIndices messages)[(userIndices messages).length - keepRecentTurns]?

/-- The tool name of every call id, the last call of an id first. -/
def toolCallNameIndex (messages : List Message) : List (String × String) :=
  messages.foldl
    (fun index message =>
      if message.role ≠ .assistant then index
      else (callsOf message).foldl
        (fun index call =>
          if (trim call.id).isEmpty then index else (call.id, call.function.name) :: index)
        index)
    []

/-- The inner loop over one message's calls, newest first; `true` once enough are found. -/
def collectCallIds (keepRecentCalls : Nat) : List ToolCall → List String → List String × Bool
  | [], result => (result, false)
  | call :: rest, result =>
    let grown := if (trim call.id).isEmpty then result else result.insert call.id
    if keepRecentCalls ≤ grown.length then (grown, true)
    else collectCallIds keepRecentCalls rest grown

def collectFromMessages (keepRecentCalls : Nat) : List Message → List String → List String
  | [], result => result
  | message :: rest, result =>
    if message.role ≠ .assistant then collectFromMessages keepRecentCalls rest result
    else
      let found := collectCallIds keepRecentCalls (callsOf message).reverse result
      if found.2 then found.1 else collectFromMessages keepRecentCalls rest found.1

def collectRecentToolCallIds (messages : List Message) (keepRecentCalls : Nat) : List String :=
  if keepRecentCalls = 0 then [] else collectFromMessages keepRecentCalls messages.reverse []

def isCacheableToolName (toolName : String) : Bool :=
  ["Read", "Grep", "Bash", "BashOutput", "WebFetch"].contains toolName

def promptCacheCandidate (protectedTurnStart : Nat) (protectedRecentCalls : List String)
    (toolCallNames : List (String × String)) (policy : PromptCachePolicy)
    (counter : TokenCounter) (entry : Message × Nat) : Option PromptCacheCandidate := do
  let (message, index) := entry
  if protectedTurnStart ≤ index ∨ message.role ≠ .tool then none
  else
    let toolCallId ← message.toolCallId
    if toolCallId ∈ protectedRecentCalls then none
    else
      let toolName ← toolCallNames.lookup toolCallId
      if !isCacheableToolName toolName then none
      else if charCount message.content < policy.minToolOutputChars then none
      else
        let cachedSummary := buildCachedToolOutputSummary toolName message.content
          policy.headChars policy.tailChars
        if charCount message.content ≤ charCount cachedSummary then none
        else
          let oldTokens := counter.countMessage message
          if oldTokens = 0 then none
          else
            let newTokens := counter.countMessage { message with content := cachedSummary }
            if oldTokens ≤ newTokens then none
            else
              some { index, cachedSummary, oldTokens, newTokens,
                     savedTokens := oldTokens - newTokens }

def buildPromptCacheCandidates (messages : List Message) (protectedTurnStart : Nat)
    (protectedRecentCalls : List String) (toolCallNames : List (String × String))
    (policy : PromptCachePolicy) (counter : TokenCounter) : List PromptCacheCandidate :=
  messages.zipIdx.filterMap
    (promptCacheCandidate protectedTurnStart protectedRecentCalls toolCallNames policy counter)

/-- Highest yield first, ties by position. -/
def sortPromptCacheCandidates (candidates : List PromptCacheCandidate) :
    List PromptCacheCandidate :=
  candidates.mergeSort
    (fun a b => b.savedTokens < a.savedTokens ||
      (a.savedTokens == b.savedTokens && decide (a.index ≤ b.index)))

structure PromptCacheCompactionResult where
  messages : List Message
  compactedToolOutputs : Nat
  tokensSaved : Nat
  totalTokensAfter : Nat

def setContent (messages : List Message) (index : Nat) (content : String) : List Message :=
  messages.modify index (fun message => { message with content })

/-- The compaction loop: it stops as soon as the total is within the trigger. -/
def compactCandidates (triggerLimit : Nat) :
    List PromptCacheCandidate → PromptCacheCompactionResult → PromptCacheCompactionResult
  | [], result => result
  | candidate :: rest, result =>
    if result.totalTokensAfter ≤ triggerLimit then result
    else
      compactCandidates triggerLimit rest
        { messages := setContent result.messages candidate.index candidate.cachedSummary,
          compactedToolOutputs := result.compactedToolOutputs + 1,
          tokensSaved := saturatingAdd result.tokensSaved candidate.savedTokens,
          totalTokensAfter :=
            saturatingAdd (result.totalTokensAfter - candidate.oldTokens) candidate.newTokens }

def maybeCompactOldToolOutputsForPrompt (activeMessages : List Message) (budget : TokenBudget)
    (counter : TokenCounter) (summaryTokens : Nat) : PromptCacheCompactionResult :=
  let totalTokens := saturatingAdd (counter.countMessages activeMessages) summaryTokens
  let noOp : PromptCacheCompactionResult :=
    { messages := activeMessages, compactedToolOutputs := 0, tokensSaved := 0,
      totalTokensAfter := totalTokens }
  if activeMessages.isEmpty then noOp
  else
    let policy := promptCachePolicyFromBudget budget
    if budget.maxContextTokens = 0 then noOp
    else
      match recentUserTurnStartIndex activeMessages policy.recentUserTurns with
      | none => noOp
      | some protectedTurnStart =>
        let triggerLimit := budget.compressionTriggerContextTokens
        if totalTokens ≤ triggerLimit then noOp
        else
          let candidates := buildPromptCacheCandidates activeMessages protectedTurnStart
            (collectRecentToolCallIds activeMessages policy.recentToolChains)
            (toolCallNameIndex activeMessages) policy counter
          if candidates.isEmpty then noOp
          else compactCandidates triggerLimit (sortPromptCacheCandidates candidates) noOp

def compactAnalysis (protectedTurnStart : Nat) (entry : Message × Nat) : Message :=
  let (message, index) := entry
  if protectedTurnStart ≤ index then message
  else if message.role ≠ .assistant then message
  else if hasToolCalls message then message
  else if charCount message.content < 2000 then message
  else { message with content := compactedAnalysis message.content }

def maybeCompactOldAssistantAnalysis (messages : List Message) (budget : TokenBudget)
    (totalTokens : Nat) : List Message :=
  if totalTokens ≤ budget.compressionTriggerContextTokens then messages
  else
    match recentUserTurnStartIndex messages budget.promptCacheRecentUserTurns with
    | none => messages
    | some protectedTurnStart => messages.zipIdx.map (compactAnalysis protectedTurnStart)

end Compression
