import Mathlib.Algebra.Ring.Nat
import Mathlib.Data.List.Basic

/- Messages, sessions and token budgets, as the compression crate reads them. u32 values
   are Nat with the saturating and wrapping operations written out. -/
namespace Compression

def u32Max : Nat := 2 ^ 32 - 1

def saturatingAdd (a b : Nat) : Nat := min (a + b) u32Max

inductive Role where
  | system
  | user
  | assistant
  | tool
  deriving DecidableEq

inductive MessagePhase where
  | commentary
  | finalAnswer
  deriving DecidableEq

structure FunctionCall where
  name : String
  arguments : String
  deriving DecidableEq

structure ToolCall where
  id : String
  toolType : String
  function : FunctionCall
  deriving DecidableEq

structure ImageUrlRef where
  url : String
  detail : Option String
  deriving DecidableEq

inductive MessagePart where
  | text (text : String)
  | imageUrl (imageUrl : ImageUrlRef)
  deriving DecidableEq

structure ImageOcrLine where
  text : String
  left : Int
  top : Int
  width : Int
  height : Int
  deriving DecidableEq

structure ImageOcrResult where
  imageUrl : String
  lines : List ImageOcrLine
  error : Option String
  deriving DecidableEq

structure Message where
  id : String
  role : Role
  content : String
  reasoning : Option String
  reasoningSignature : Option String
  contentParts : Option (List MessagePart)
  imageOcr : Option (List ImageOcrResult)
  phase : Option MessagePhase
  toolCalls : Option (List ToolCall)
  toolCallId : Option String
  toolSuccess : Option Bool
  compressed : Bool
  compressedByEventId : Option String
  neverCompress : Bool
  compressionLevel : Nat
  deriving DecidableEq

/-- `Message::system`, with the id that the call draws. -/
def Message.system (id content : String) : Message :=
  { id, role := .system, content, reasoning := none, reasoningSignature := none,
    contentParts := none, imageOcr := none, phase := none, toolCalls := none,
    toolCallId := none, toolSuccess := none, compressed := false,
    compressedByEventId := none, neverCompress := false, compressionLevel := 0 }

def Message.user (id content : String) : Message :=
  { Message.system id content with role := .user }

def Message.assistant (id content : String) (toolCalls : Option (List ToolCall)) : Message :=
  { Message.system id content with
    role := .assistant, toolCalls,
    phase := some (if (toolCalls.getD []).isEmpty then .finalAnswer else .commentary) }

def Message.toolResult (id toolCallId content : String) : Message :=
  { Message.system id content with
    role := .tool, toolCallId := some toolCallId, toolSuccess := some true }

def hasToolCalls (message : Message) : Bool :=
  match message.toolCalls with
  | some calls => !calls.isEmpty
  | none => false

def callsOf (message : Message) : List ToolCall := message.toolCalls.getD []

structure ConversationSummary where
  content : String

structure TokenBudget where
  maxContextTokens : Nat
  maxOutputTokens : Nat
  safetyMargin : Nat
  compressionTriggerPercent : Nat
  compressionTargetPercent : Nat
  workingReserveTokens : Nat
  fallbackTriggerPercent : Nat
  promptCacheMinToolOutputChars : Nat
  promptCacheHeadChars : Nat
  promptCacheTailChars : Nat
  promptCacheRecentUserTurns : Nat
  promptCacheRecentToolChains : Nat

/-- A budget with the source's default percentages and excerpt sizes. -/
def TokenBudget.withSafetyMargin (maxContextTokens maxOutputTokens safetyMargin : Nat) :
    TokenBudget :=
  { maxContextTokens, maxOutputTokens, safetyMargin, compressionTriggerPercent := 80,
    compressionTargetPercent := 25, workingReserveTokens := 0, fallbackTriggerPercent := 75,
    promptCacheMinToolOutputChars := 1200, promptCacheHeadChars := 280,
    promptCacheTailChars := 180, promptCacheRecentUserTurns := 2,
    promptCacheRecentToolChains := 2 }

def TokenBudget.maxRequestInputTokens (budget : TokenBudget) : Nat :=
  budget.maxContextTokens - budget.maxOutputTokens - budget.safetyMargin

structure CompressionThresholds where
  inputLimit : Nat
  headroom : Nat
  triggerTokens : Nat
  targetTokens : Nat
  targetUsagePercent : Nat
  deriving DecidableEq

def normalizeTriggerPercent (value : Nat) : Nat :=
  if value = 0 then 100 else if value ≤ 100 then value else 100

def normalizeTargetPercent (value : Nat) : Nat :=
  let raw := if value = 0 then 25 else if value ≤ 100 then value else 25
  min (max raw 1) 99

def TokenBudget.compressionThresholds (budget : TokenBudget) : CompressionThresholds :=
  let window := budget.maxContextTokens
  let inputLimit := budget.maxRequestInputTokens
  let headroom := min (max (max budget.maxOutputTokens budget.safetyMargin) 1)
    (max (inputLimit / 5) 1)
  let unavailable : CompressionThresholds :=
    { inputLimit, headroom, triggerTokens := 0, targetTokens := 0, targetUsagePercent := 0 }
  if window = 0 ∨ inputLimit ≤ 1 then unavailable
  else
    let percentageTokens := fun percent => window * percent / 100
    let percentTrigger := min
      (percentageTokens (normalizeTriggerPercent budget.compressionTriggerPercent))
      (inputLimit - headroom)
    let trigger :=
      if 0 < budget.workingReserveTokens then
        let legacyTrigger :=
          if min (budget.workingReserveTokens * 2) u32Max ≤ window then
            window - budget.workingReserveTokens
          else percentageTokens (normalizeTriggerPercent budget.fallbackTriggerPercent)
        min percentTrigger legacyTrigger
      else percentTrigger
    if trigger ≤ 1 then unavailable
    else
      let largestTargetPercent := (trigger - 1) * 100 / window
      let targetUsagePercent :=
        min (normalizeTargetPercent budget.compressionTargetPercent) largestTargetPercent
      let targetTokens := percentageTokens targetUsagePercent
      if targetUsagePercent = 0 ∨ targetTokens = 0 then unavailable
      else { inputLimit, headroom, triggerTokens := trigger, targetTokens, targetUsagePercent }

def TokenBudget.compressionTriggerContextTokens (budget : TokenBudget) : Nat :=
  budget.compressionThresholds.triggerTokens

-- a window of 1000 that keeps 300 for output and margin starts compacting at 560
example :
    { TokenBudget.withSafetyMargin 1000 200 100 with
      compressionTriggerPercent := 0 }.compressionTriggerContextTokens = 560 := by
  decide

structure TokenCounter where
  countMessage : Message → Nat
  countMessages : List Message → Nat
  countText : String → Nat

/-- A counter that has the trait's own `count_messages`: a `sum` over u32, which wraps in a
    release build. -/
def TokenCounter.perMessage (countMessage : Message → Nat) (countText : String → Nat) :
    TokenCounter :=
  { countMessage, countText,
    countMessages := fun messages => (messages.map countMessage).sum % (u32Max + 1) }

inductive CompressionTriggerType where
  | auto
  | manual
  | criticalOverflow
  deriving DecidableEq

inductive CompressionEventKind where
  | summary
  | messageSummary
  | retrievalWindow
  deriving DecidableEq

structure TokenUsageBreakdown where
  systemTokens : Nat
  summaryTokens : Nat
  windowTokens : Nat
  totalTokens : Nat
  budgetLimit : Nat

structure ProviderPromptUsage where
  inputTokens : Nat
  cacheCreationInputTokens : Nat
  cacheReadInputTokens : Nat
  retainedFromPreviousCall : Bool
  deriving DecidableEq

structure TokenBudgetUsage where
  systemTokens : Nat
  summaryTokens : Nat
  windowTokens : Nat
  totalTokens : Nat
  maxContextTokens : Nat
  budgetLimit : Nat
  truncationOccurred : Bool
  segmentsRemoved : Nat
  promptCachedToolOutputs : Nat
  promptCachedToolTokensSaved : Nat
  thinkingTokens : Nat
  cacheReadInputTokens : Nat
  providerPromptUsage : Option ProviderPromptUsage
  deriving DecidableEq

end Compression
