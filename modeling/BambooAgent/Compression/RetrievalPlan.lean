import BambooAgent.Library.Checks
import BambooAgent.Library.SortedMap
import BambooAgent.Compression.LogicalGroups

/- Planning which logical turns a retrieval-window boundary archives. -/
namespace Compression
open SortedMaps Checks

structure RetrievalWindowPolicy where
  minRecentUserTurns : Nat
  targetUsagePercent : Nat

structure RetrievalWindowTokenAccounting where
  fixedPromptTokens : Nat
  boundaryReclaimableTokens : Nat
  providerMessageTokens : SortedMap String Nat

structure RetrievalWindowCandidatePlan where
  messageIdsToArchive : List String
  archiveMessageCount : Nat
  archiveGroupCount : Nat
  archiveUserTurnCount : Nat
  archiveMessageTokens : Nat
  activeMessageCount : Nat
  activeStateSha256 : String
  tokenAccountingSha256 : String
  activeTokensBefore : Nat
  projectedActiveTokensAfter : Nat
  contextWindowTokens : Nat
  requestInputLimitTokens : Nat
  targetTokens : Nat
  targetUsagePercent : Nat
  minRecentUserTurns : Nat
  fixedPromptTokens : Nat
  boundaryReclaimableTokens : Nat
  systemMessageTokens : Nat
  providerMessageTokenOverrideCount : Nat
  protectedActiveTokens : Nat
  retainedRecentUserTurnCount : Nat
  retainedUserTurnCount : Nat
  oldestRetainedMessageId : Option String
  oldestRetainedUserMessageId : Option String
  incompleteProtocolGroupCount : Nat
  evidenceSha256 : String

inductive RetrievalWindowPlanError where
  | invalidRecentUserTurnFloor
  | invalidTargetUsagePercent (targetUsagePercent : Nat)
  | invalidTokenBudget (contextWindowTokens maxRequestInputTokens : Nat)
  | tokenAccountingOverflow
  | missingProviderMessageTokenEstimate (messageId : String)
  | noActiveMessages
  | targetAlreadySatisfied (activeTokens targetTokens : Nat)
  | nothingToArchive (activeTokens targetTokens protectedActiveTokens : Nat)
      (incompleteProtocolGroupCount : Nat)
  | protectedContentExceedsTarget (projectedTokens targetTokens protectedActiveTokens : Nat)
      (fixedPromptTokens incompleteProtocolGroupCount : Nat)

/-- The three digests, each a SHA-256 over the JSON of its argument. -/
structure Digests where
  activeState : List Message → String
  tokenAccounting : RetrievalWindowTokenAccounting → String
  planEvidence : RetrievalWindowCandidatePlan → String

/-- The fields of a message that the active-state digest covers. -/
def digestedMessage (message : Message) : Message :=
  { message with compressed := false, compressedByEventId := none }

def activeStateSha256 (digests : Digests) (session : Session) : String :=
  digests.activeState ((activeMessages session).map digestedMessage)

/-- The seal covers every field of the plan but itself. -/
def planEvidenceSha256 (digests : Digests) (plan : RetrievalWindowCandidatePlan) : String :=
  digests.planEvidence { plan with evidenceSha256 := "" }

abbrev Planning (α : Type) := Except RetrievalWindowPlanError α

def checkedAdd {ε : Type} (overflow : ε) (a b : Nat) : Except ε Nat :=
  if a + b ≤ u32Max then .ok (a + b) else .error overflow

def checkedSub {ε : Type} (overflow : ε) (a b : Nat) : Except ε Nat :=
  if b ≤ a then .ok (a - b) else .error overflow

def checkedSum (values : List Nat) : Planning Nat :=
  values.foldlM (checkedAdd .tokenAccountingOverflow) 0

def countParts (counter : TokenCounter) (messageId : String) :
    List MessagePart → Nat → Planning Nat
  | [], tokens => .ok tokens
  | .text text :: rest, tokens => do
    let tokens ← checkedAdd .tokenAccountingOverflow tokens (counter.countText text)
    countParts counter messageId rest tokens
  | .imageUrl _ :: _, _ => .error (.missingProviderMessageTokenEstimate messageId)

def countProviderVisibleMessageTokens (message : Message)
    (accounting : RetrievalWindowTokenAccounting) (counter : TokenCounter) : Planning Nat :=
  match accounting.providerMessageTokens.lookup message.id with
  | some providerTokens => .ok providerTokens
  | none => do
    let tokens := counter.countMessage message
    let tokens ←
      match message.role, message.reasoning with
      | .assistant, some reasoning =>
        if reasoning.isEmpty then .ok tokens
        else checkedAdd .tokenAccountingOverflow tokens (counter.countText reasoning)
      | _, _ => .ok tokens
    countParts counter message.id (message.contentParts.getD []) tokens

def countIndexedMessages (messages : List IndexedMessage)
    (accounting : RetrievalWindowTokenAccounting) (counter : TokenCounter) : Planning Nat :=
  messages.foldlM
    (fun total indexed => do
      let tokens ← countProviderVisibleMessageTokens indexed.message accounting counter
      checkedAdd .tokenAccountingOverflow total tokens)
    0

def validateInputs (budget : TokenBudget) (policy : RetrievalWindowPolicy) : Planning Unit := do
  refuse (policy.minRecentUserTurns = 0) .invalidRecentUserTurnFloor
  refuse (policy.targetUsagePercent < 1 ∨ 100 < policy.targetUsagePercent)
    (.invalidTargetUsagePercent policy.targetUsagePercent)
  refuse (budget.maxContextTokens = 0 ∨ budget.maxRequestInputTokens = 0)
    (.invalidTokenBudget budget.maxContextTokens budget.maxRequestInputTokens)

def effectiveTargetTokens (contextWindowTokens requestInputLimitTokens targetUsagePercent : Nat) :
    Nat :=
  min (max (contextWindowTokens * targetUsagePercent / 100) 1) requestInputLimitTokens

def effectiveRetrievalWindowTargetTokens (budget : TokenBudget) (targetUsagePercent : Nat) : Nat :=
  effectiveTargetTokens budget.maxContextTokens budget.maxRequestInputTokens targetUsagePercent

def countGroup (accounting : RetrievalWindowTokenAccounting) (counter : TokenCounter)
    (group : LogicalGroup) : Planning LogicalGroup := do
  let tokenCount ← countIndexedMessages group.messages accounting counter
  return { group with tokenCount }

/-- The state of the selection loop. -/
structure Selection where
  selectedGroupIndexes : List Nat
  messageIdsToArchive : List String
  archiveMessageTokens : Nat
  projectedActiveTokensAfter : Nat
  archiveUserTurnCount : Nat

/-- Oldest groups first, until the target is met and something is selected. -/
def selectGroups (targetTokens : Nat) : List (LogicalGroup × Nat) → Selection → Planning Selection
  | [], selection => .ok selection
  | (group, groupIndex) :: rest, selection =>
    if selection.projectedActiveTokensAfter ≤ targetTokens ∧
        selection.messageIdsToArchive ≠ [] then
      .ok selection
    else if group.isProtected then selectGroups targetTokens rest selection
    else do
      let archiveMessageTokens ← checkedAdd .tokenAccountingOverflow
        selection.archiveMessageTokens group.tokenCount
      let projectedActiveTokensAfter ← checkedSub .tokenAccountingOverflow
        selection.projectedActiveTokensAfter group.tokenCount
      selectGroups targetTokens rest
        { selectedGroupIndexes := selection.selectedGroupIndexes ++ [groupIndex],
          messageIdsToArchive := selection.messageIdsToArchive ++
            group.messages.map (fun indexed => indexed.message.id),
          archiveMessageTokens, projectedActiveTokensAfter,
          archiveUserTurnCount :=
            if group.userMessageId.isSome then selection.archiveUserTurnCount + 1
            else selection.archiveUserTurnCount }

/-- The groups that a selection leaves active, with their indexes. -/
def retainedGroups (groups : List LogicalGroup) (selected : List Nat) :
    List (LogicalGroup × Nat) :=
  groups.zipIdx.filter (fun entry => !selected.contains entry.2)

/-- `min_by_key(session_index)`: the first of the messages with the least index. -/
def minBySessionIndex : List IndexedMessage → Option IndexedMessage
  | [] => none
  | indexed :: rest =>
    match minBySessionIndex rest with
    | some other => if other.sessionIndex < indexed.sessionIndex then some other else some indexed
    | none => some indexed

def oldestRetainedMessageId (groups : List LogicalGroup) (selected : List Nat) : Option String :=
  (minBySessionIndex ((retainedGroups groups selected).flatMap (fun entry => entry.1.messages))).map
    (fun indexed => indexed.message.id)

def oldestRetainedUserMessageId (groups : List LogicalGroup) (selected : List Nat) :
    Option String :=
  ((retainedGroups groups selected).find? (fun entry => entry.1.userMessageId.isSome)).bind
    (fun entry => entry.1.userMessageId)

def retainedUserTurnCount (groups : List LogicalGroup) (selected : List Nat) : Nat :=
  (retainedGroups groups selected).countP (fun entry => entry.1.userMessageId.isSome)

/-- Everything the planner derives from the session before it selects. -/
structure Measured where
  grouping : Grouping
  groups : List LogicalGroup
  systemTokens : Nat
  postBoundaryActiveTokens : Nat
  activeTokensBefore : Nat
  protectedActiveTokens : Nat
  minimumProjectedActiveTokens : Nat

def incompleteProtocolGroups (groups : List LogicalGroup) : Nat :=
  groups.countP (fun group => !group.protocolSafe)

def measure (session : Session) (policy : RetrievalWindowPolicy)
    (accounting : RetrievalWindowTokenAccounting) (counter : TokenCounter) :
    Planning Measured := do
  let grouping := buildLogicalGroups session
  refuse (grouping.activeMessageCount = 0) .noActiveMessages
  let systemTokens ← countIndexedMessages grouping.systemMessages accounting counter
  let counted ← grouping.groups.mapM (countGroup accounting counter)
  let groupTokens ← checkedSum (counted.map (·.tokenCount))
  let withSystem ← checkedAdd .tokenAccountingOverflow accounting.fixedPromptTokens systemTokens
  let postBoundaryActiveTokens ← checkedAdd .tokenAccountingOverflow withSystem groupTokens
  let activeTokensBefore ← checkedAdd .tokenAccountingOverflow postBoundaryActiveTokens
    accounting.boundaryReclaimableTokens
  let groups := markProtectedGroups (markProtocolSafety counted) policy.minRecentUserTurns
  let protectedGroupTokens ← checkedSum
    ((groups.filter (·.isProtected)).map (·.tokenCount))
  let protectedActiveTokens ← checkedAdd .tokenAccountingOverflow systemTokens
    protectedGroupTokens
  let minimumProjectedActiveTokens ← checkedAdd .tokenAccountingOverflow
    accounting.fixedPromptTokens protectedActiveTokens
  return { grouping, groups, systemTokens, postBoundaryActiveTokens, activeTokensBefore,
           protectedActiveTokens, minimumProjectedActiveTokens }

def sealPlan (digests : Digests) (session : Session) (budget : TokenBudget)
    (policy : RetrievalWindowPolicy) (accounting : RetrievalWindowTokenAccounting)
    (measured : Measured) (targetTokens : Nat) (selection : Selection) :
    RetrievalWindowCandidatePlan :=
  let groups := measured.groups
  let selected := selection.selectedGroupIndexes
  let plan : RetrievalWindowCandidatePlan :=
    { messageIdsToArchive := selection.messageIdsToArchive,
      archiveMessageCount := selection.messageIdsToArchive.length,
      archiveGroupCount := selected.length,
      archiveUserTurnCount := selection.archiveUserTurnCount,
      archiveMessageTokens := selection.archiveMessageTokens,
      activeMessageCount := measured.grouping.activeMessageCount,
      activeStateSha256 := activeStateSha256 digests session,
      tokenAccountingSha256 := digests.tokenAccounting accounting,
      activeTokensBefore := measured.activeTokensBefore,
      projectedActiveTokensAfter := selection.projectedActiveTokensAfter,
      contextWindowTokens := budget.maxContextTokens,
      requestInputLimitTokens := budget.maxRequestInputTokens,
      targetTokens,
      targetUsagePercent := policy.targetUsagePercent,
      minRecentUserTurns := policy.minRecentUserTurns,
      fixedPromptTokens := accounting.fixedPromptTokens,
      boundaryReclaimableTokens := accounting.boundaryReclaimableTokens,
      systemMessageTokens := measured.systemTokens,
      providerMessageTokenOverrideCount :=
        (measured.grouping.systemMessages ++ groups.flatMap (·.messages)).countP
          (fun indexed => accounting.providerMessageTokens.contains indexed.message.id),
      protectedActiveTokens := measured.protectedActiveTokens,
      retainedRecentUserTurnCount :=
        min (groups.countP (fun group => group.userMessageId.isSome)) policy.minRecentUserTurns,
      retainedUserTurnCount := retainedUserTurnCount groups selected,
      oldestRetainedMessageId := oldestRetainedMessageId groups selected,
      oldestRetainedUserMessageId := oldestRetainedUserMessageId groups selected,
      incompleteProtocolGroupCount := incompleteProtocolGroups groups,
      evidenceSha256 := "" }
  { plan with evidenceSha256 := planEvidenceSha256 digests plan }

def buildRetrievalWindowCandidatePlanWithCounter (digests : Digests) (session : Session)
    (budget : TokenBudget) (policy : RetrievalWindowPolicy)
    (accounting : RetrievalWindowTokenAccounting) (archiveAllEligible : Bool)
    (counter : TokenCounter) : Planning RetrievalWindowCandidatePlan := do
  validateInputs budget policy
  let measured ← measure session policy accounting counter
  let incomplete := incompleteProtocolGroups measured.groups
  refuse (archiveAllEligible = true ∧
      budget.maxRequestInputTokens < measured.minimumProjectedActiveTokens)
    (.protectedContentExceedsTarget measured.minimumProjectedActiveTokens
      budget.maxRequestInputTokens measured.protectedActiveTokens accounting.fixedPromptTokens
      incomplete)
  let targetTokens :=
    if archiveAllEligible then measured.minimumProjectedActiveTokens
    else effectiveRetrievalWindowTargetTokens budget policy.targetUsagePercent
  refuse (measured.activeTokensBefore ≤ targetTokens)
    (.targetAlreadySatisfied measured.activeTokensBefore targetTokens)
  let selection ← selectGroups targetTokens measured.groups.zipIdx
    { selectedGroupIndexes := [], messageIdsToArchive := [], archiveMessageTokens := 0,
      projectedActiveTokensAfter := measured.postBoundaryActiveTokens, archiveUserTurnCount := 0 }
  refuse (selection.messageIdsToArchive = [])
    (.nothingToArchive measured.activeTokensBefore targetTokens measured.protectedActiveTokens
      incomplete)
  refuse (targetTokens < selection.projectedActiveTokensAfter)
    (.protectedContentExceedsTarget selection.projectedActiveTokensAfter targetTokens
      measured.protectedActiveTokens accounting.fixedPromptTokens incomplete)
  return sealPlan digests session budget policy accounting measured targetTokens selection

end Compression
