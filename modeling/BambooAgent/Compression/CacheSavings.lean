import BambooAgent.Compression.Accounting

/- The estimate of what the compaction of old tool outputs would save, against the compaction. -/
namespace Compression
open List

variable {counter : TokenCounter}

def estimateCandidates (triggerLimit : Nat) : List PromptCacheCandidate → Nat → Nat → Nat
  | [], _, savedTokensTotal => savedTokensTotal
  | candidate :: rest, totalTokens, savedTokensTotal =>
    if totalTokens ≤ triggerLimit then savedTokensTotal
    else
      estimateCandidates triggerLimit rest
        (saturatingAdd (totalTokens - candidate.oldTokens) candidate.newTokens)
        (saturatingAdd savedTokensTotal candidate.savedTokens)

def estimatePromptCacheSavingsWithFixedTokens (session : Session) (budget : TokenBudget)
    (counter : TokenCounter) (summaryTokens additionalFixedTokens : Nat) : Nat :=
  let messages := activeMessages session
  if messages.isEmpty then 0
  else
    let policy := promptCachePolicyFromBudget budget
    if budget.maxContextTokens = 0 then 0
    else
      match recentUserTurnStartIndex messages policy.recentUserTurns with
      | none => 0
      | some protectedTurnStart =>
        let triggerLimit := budget.compressionTriggerContextTokens
        let totalTokens := saturatingAdd
          (saturatingAdd (counter.countMessages messages) summaryTokens) additionalFixedTokens
        if totalTokens ≤ triggerLimit then 0
        else
          estimateCandidates triggerLimit
            (sortPromptCacheCandidates (buildPromptCacheCandidates messages protectedTurnStart
              (collectRecentToolCallIds messages policy.recentToolChains)
              (toolCallNameIndex messages) policy counter)) totalTokens 0

theorem estimateCandidates_eq (candidates : List PromptCacheCandidate)
    (result : PromptCacheCompactionResult) :
    estimateCandidates triggerLimit candidates result.totalTokensAfter result.tokensSaved =
      (compactCandidates triggerLimit candidates result).tokensSaved := by
  induction candidates generalizing result with
  | nil => rfl
  | cons candidate rest ih =>
    rw [estimateCandidates, compactCandidates]
    split
    · rfl
    · exact ih ⟨setContent result.messages candidate.index candidate.cachedSummary,
        result.compactedToolOutputs + 1, _, _⟩

theorem saturatingAdd_assoc (a b c : Nat) :
    saturatingAdd (saturatingAdd a b) c = saturatingAdd a (saturatingAdd b c) := by
  unfold saturatingAdd
  omega

theorem estimate_eq_saved (session : Session) (budget : TokenBudget) (counter : TokenCounter)
    (summaryTokens additionalFixedTokens : Nat) :
    estimatePromptCacheSavingsWithFixedTokens session budget counter summaryTokens
        additionalFixedTokens =
      (maybeCompactOldToolOutputsForPrompt (activeMessages session) budget counter
        (saturatingAdd summaryTokens additionalFixedTokens)).tokensSaved := by
  unfold estimatePromptCacheSavingsWithFixedTokens maybeCompactOldToolOutputsForPrompt
  simp only [saturatingAdd_assoc]
  split
  · rfl
  split
  · rfl
  cases recentUserTurnStartIndex (activeMessages session)
    (promptCachePolicyFromBudget budget).recentUserTurns with
  | none => rfl
  | some protectedTurnStart =>
    dsimp only
    split
    · rfl
    split
    · rename_i none_
      rw [isEmpty_iff.1 none_, sortPromptCacheCandidates, mergeSort_nil]
      rfl
    · exact estimateCandidates_eq _ ⟨_, 0, 0, _⟩

/- What is left to count. -/

theorem sum_modify {α : Type} (cost : α → Nat) (edit : α → α) {items : List α} {item : α}
    (there : items[index]? = some item) :
    ((items.modify index edit).map cost).sum + cost item =
        (items.map cost).sum + cost (edit item) ∧ cost item ≤ (items.map cost).sum := by
  induction items generalizing index with
  | nil => cases there
  | cons first rest ih =>
    cases index with
    | zero =>
      cases there
      simp only [modify_zero_cons, map_cons, sum_cons]
      omega
    | succ index =>
      have later := ih there
      simp only [modify_succ_cons, map_cons, sum_cons]
      omega

/-- A candidate knows the cost of the message where it stands, before and after. -/
def Priced (counter : TokenCounter) (messages : List Message) (candidate : PromptCacheCandidate) :
    Prop :=
  ∃ message, messages[candidate.index]? = some message ∧
    candidate.oldTokens = counter.countMessage message ∧
    candidate.newTokens = counter.countMessage { message with content := candidate.cachedSummary } ∧
    candidate.newTokens < candidate.oldTokens

theorem compactCandidates_total
    (priced : ∀ candidate ∈ candidates, Priced counter result.messages candidate)
    (apart : (candidates.map PromptCacheCandidate.index).Nodup)
    (fits : result.totalTokensAfter ≤ u32Max)
    (total : result.totalTokensAfter =
      (result.messages.map counter.countMessage).sum + reserves) :
    let compacted := compactCandidates triggerLimit candidates result
    compacted.totalTokensAfter ≤ u32Max ∧ compacted.totalTokensAfter =
      (compacted.messages.map counter.countMessage).sum + reserves := by
  induction candidates generalizing result with
  | nil => exact ⟨fits, total⟩
  | cons candidate rest ih =>
    rw [compactCandidates]
    split
    · exact ⟨fits, total⟩
    obtain ⟨message, there, old, new, less⟩ := priced candidate mem_cons_self
    obtain ⟨other, apart⟩ := nodup_cons.1 apart
    obtain ⟨recount, within⟩ := sum_modify counter.countMessage
      (fun message => { message with content := candidate.cachedSummary }) there
    apply ih
    · intro next member
      obtain ⟨message, there, prices⟩ := priced next (mem_cons_of_mem _ member)
      refine ⟨message, ?_, prices⟩
      have elsewhere : candidate.index ≠ next.index :=
        fun same => other (same ▸ mem_map_of_mem member)
      simpa [setContent, List.getElem?_modify, elsewhere] using there
    · exact apart
    · exact min_le_right _ _
    · unfold saturatingAdd setContent
      dsimp only
      omega

theorem candidates_priced :
    ∀ candidate ∈ buildPromptCacheCandidates messages start recent names policy counter,
      Priced counter messages candidate := by
  intro candidate member
  obtain ⟨⟨message, index⟩, listed, found⟩ := mem_filterMap.1 member
  obtain ⟨_, rfl, prices⟩ := promptCacheCandidate_eq_some found
  exact ⟨message, mem_zipIdx_iff_getElem?.mp listed, prices⟩

theorem candidates_apart :
    ((buildPromptCacheCandidates messages start recent names policy counter).map
      PromptCacheCandidate.index).Nodup := by
  have positions : (messages.zipIdx.map Prod.snd).Nodup := by
    rw [zipIdx_map_snd]
    exact nodup_range'
  refine pairwise_map.2 (pairwise_filterMap.2 ?_)
  refine (pairwise_map.1 positions).imp ?_
  intro first second apart candidate found candidate' found'
  rw [(promptCacheCandidate_eq_some found).2.1, (promptCacheCandidate_eq_some found').2.1]
  exact apart

theorem compacted_total
    (counted : counter.countMessages messages = (messages.map counter.countMessage).sum)
    (fits : (messages.map counter.countMessage).sum + reserves ≤ u32Max) :
    let result := maybeCompactOldToolOutputsForPrompt messages budget counter reserves
    result.totalTokensAfter ≤ u32Max ∧ result.totalTokensAfter =
      (result.messages.map counter.countMessage).sum + reserves := by
  have start : saturatingAdd (counter.countMessages messages) reserves =
      (messages.map counter.countMessage).sum + reserves := by
    rw [counted]
    exact min_eq_left fits
  unfold maybeCompactOldToolOutputsForPrompt
  simp only [start]
  split
  · exact ⟨fits, rfl⟩
  split
  · exact ⟨fits, rfl⟩
  split
  · exact ⟨fits, rfl⟩
  split
  · exact ⟨fits, rfl⟩
  split
  · exact ⟨fits, rfl⟩
  · apply compactCandidates_total
    · exact fun candidate member => candidates_priced candidate (mem_mergeSort.1 member)
    · exact ((mergeSort_perm _ _).map _).nodup_iff.2 candidates_apart
    · exact fits
    · rfl

theorem cache_savings_exact (session : Session) (budget : TokenBudget)
    (countMessage : Message → Nat) (countText : String → Nat)
    (summaryTokens additionalFixedTokens : Nat) :
    let counter := TokenCounter.perMessage countMessage countText
    let result := maybeCompactOldToolOutputsForPrompt (activeMessages session) budget counter
      (saturatingAdd summaryTokens additionalFixedTokens)
    estimatePromptCacheSavingsWithFixedTokens session budget counter summaryTokens
        additionalFixedTokens = result.tokensSaved ∧
      (((activeMessages session).map countMessage).sum + summaryTokens + additionalFixedTokens ≤
          u32Max →
        result.totalTokensAfter =
          counter.countMessages result.messages + summaryTokens + additionalFixedTokens) := by
  refine ⟨estimate_eq_saved .., fun fits => ?_⟩
  have reserves : saturatingAdd summaryTokens additionalFixedTokens =
      summaryTokens + additionalFixedTokens := Nat.min_eq_left (by omega)
  have whole : ∀ sum ≤ u32Max, sum % (u32Max + 1) = sum :=
    fun sum small => Nat.mod_eq_of_lt (Nat.lt_succ_of_le small)
  obtain ⟨small, total⟩ := @compacted_total (.perMessage countMessage countText) _
    (saturatingAdd summaryTokens additionalFixedTokens) budget (whole _ (by omega))
    (reserves ▸ Nat.add_assoc .. ▸ fits)
  have unwrapped := whole _ ((Nat.le_add_right ..).trans (total ▸ small))
  have recounted := congrArg₂ (· + ·) unwrapped.symm reserves
  exact total.trans (recounted.trans (Nat.add_assoc ..).symm)

theorem cache_savings_exact_toolTurn :
    let counter := TokenCounter.perMessage (fun m => charCount m.content) charCount
    let result := maybeCompactOldToolOutputsForPrompt (activeMessages Sample.toolTurn)
      Sample.tightBudget counter (saturatingAdd 2 1)
    result.totalTokensAfter = counter.countMessages result.messages + 2 + 1 :=
  (cache_savings_exact Sample.toolTurn Sample.tightBudget (fun m => charCount m.content) charCount
    2 1).2 (by decide)

end Compression
