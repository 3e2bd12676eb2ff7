import BambooAgent.Library.Splits
import BambooAgent.Compression.RetrievalChecks

/- What the planner has computed once it returns a plan: the sums behind its token counts and
   the groups that its selection loop took. -/
namespace Compression
open Checks Splits List

theorem checkedAdd_eq_ok {overflow : ε} :
    checkedAdd overflow a b = .ok total ↔ a + b ≤ u32Max ∧ total = a + b := by
  unfold checkedAdd
  split
  case isTrue fits =>
    constructor
    · intro run
      exact ⟨fits, (Except.ok.inj run).symm⟩
    · intro ⟨_, same⟩
      rw [same]
  case isFalse overrun =>
    constructor
    · intro run
      cases run
    · intro ⟨fits, _⟩
      exact absurd fits overrun

theorem checkedSub_eq_ok {overflow : ε} :
    checkedSub overflow a b = .ok left ↔ b ≤ a ∧ left = a - b := by
  unfold checkedSub
  split
  case isTrue fits =>
    constructor
    · intro run
      exact ⟨fits, (Except.ok.inj run).symm⟩
    · intro ⟨_, same⟩
      rw [same]
  case isFalse overrun =>
    constructor
    · intro run
      cases run
    · intro ⟨fits, _⟩
      exact absurd fits overrun

theorem checkedSum_from (values : List Nat) :
    ∀ start total, values.foldlM
      (checkedAdd RetrievalWindowPlanError.tokenAccountingOverflow) start = .ok total →
      total = start + values.sum := by
  induction values with
  | nil =>
    intro start total run
    rw [foldlM_nil, pure_eq_ok] at run
    rw [sum_nil, add_zero, run]
  | cons value rest ih =>
    intro start total run
    obtain ⟨next, added, run⟩ := bind_eq_ok.1 run
    rw [ih next total run, (checkedAdd_eq_ok.1 added).2, sum_cons, add_assoc]

theorem checkedSum_ok (run : checkedSum values = .ok total) : total = values.sum := by
  have whole := checkedSum_from values 0 total run
  rw [zero_add] at whole
  exact whole

section Counting
variable {accounting : RetrievalWindowTokenAccounting} {counter : TokenCounter}

def CostsToken (accounting : RetrievalWindowTokenAccounting) (counter : TokenCounter)
    (message : Message) : Prop :=
  ∀ tokens, countProviderVisibleMessageTokens message accounting counter = .ok tokens →
    1 ≤ tokens

theorem countIndexedMessages_from (messages : List IndexedMessage)
    (costs : ∀ indexed ∈ messages, CostsToken accounting counter indexed.message) :
    ∀ start total, messages.foldlM
      (fun total indexed => do
        let tokens ← countProviderVisibleMessageTokens indexed.message accounting counter
        checkedAdd .tokenAccountingOverflow total tokens) start = .ok total →
      start + messages.length ≤ total := by
  induction messages with
  | nil =>
    intro start total run
    rw [foldlM_nil, pure_eq_ok] at run
    rw [length_nil, add_zero, run]
  | cons indexed rest ih =>
    intro start total run
    obtain ⟨next, added, run⟩ := bind_eq_ok.1 run
    obtain ⟨tokens, counted, added⟩ := bind_eq_ok.1 added
    have cost := costs indexed mem_cons_self tokens counted
    have above := ih (fun other member => costs other (mem_cons_of_mem _ member)) next total run
    have sum := (checkedAdd_eq_ok.1 added).2
    rw [length_cons]
    omega

theorem countIndexedMessages_length
    (costs : ∀ indexed ∈ messages, CostsToken accounting counter indexed.message)
    (run : countIndexedMessages messages accounting counter = .ok total) :
    messages.length ≤ total := by
  have above := countIndexedMessages_from messages costs 0 total run
  omega

theorem countGroup_ok (run : countGroup accounting counter group = .ok counted) :
    ∃ tokenCount, countIndexedMessages group.messages accounting counter = .ok tokenCount ∧
      counted = { group with tokenCount } := by
  obtain ⟨tokenCount, total, same⟩ := bind_eq_ok.1 run
  exact ⟨tokenCount, total, (pure_eq_ok.1 same).symm⟩

end Counting

def groupTokens (groups : List LogicalGroup) : Nat := (groups.map (·.tokenCount)).sum

/-- What the planner measured. -/
structure MeasuredFacts (session : Session) (policy : RetrievalWindowPolicy)
    (accounting : RetrievalWindowTokenAccounting) (counter : TokenCounter)
    (measured : Measured) (counted : List LogicalGroup) : Prop where
  grouping : measured.grouping = buildLogicalGroups session
  counts : List.Forall₂ (fun group result => countGroup accounting counter group = .ok result)
    (buildLogicalGroups session).groups counted
  groups : measured.groups = markedGroups counted policy.minRecentUserTurns
  postBoundary : measured.postBoundaryActiveTokens =
    accounting.fixedPromptTokens + measured.systemTokens + groupTokens measured.groups
  before : measured.activeTokensBefore =
    measured.postBoundaryActiveTokens + accounting.boundaryReclaimableTokens
  protectedTokens : measured.protectedActiveTokens =
    measured.systemTokens + groupTokens (measured.groups.filter (·.isProtected))
  minimum : accounting.fixedPromptTokens + measured.protectedActiveTokens ≤ u32Max ∧
    measured.minimumProjectedActiveTokens =
      accounting.fixedPromptTokens + measured.protectedActiveTokens

theorem measure_ok (run : measure session policy accounting counter = .ok measured) :
    ∃ counted, MeasuredFacts session policy accounting counter measured counted := by
  obtain ⟨_, _, run⟩ := bind_eq_ok.1 run
  obtain ⟨systemTokens, _, run⟩ := bind_eq_ok.1 run
  obtain ⟨counted, related, run⟩ := bind_eq_ok.1 run
  obtain ⟨total, groupSum, run⟩ := bind_eq_ok.1 run
  obtain ⟨withSystem, system, run⟩ := bind_eq_ok.1 run
  obtain ⟨post, postSum, run⟩ := bind_eq_ok.1 run
  obtain ⟨before, beforeSum, run⟩ := bind_eq_ok.1 run
  obtain ⟨protectedGroups, protectedSum, run⟩ := bind_eq_ok.1 run
  obtain ⟨protectedTokens, protectedTotal, run⟩ := bind_eq_ok.1 run
  obtain ⟨minimum, minimumSum, run⟩ := bind_eq_ok.1 run
  cases pure_eq_ok.1 run
  refine ⟨counted, rfl, (mapM_eq_ok _ _).1 related, rfl, ?_, (checkedAdd_eq_ok.1 beforeSum).2,
    ?_, checkedAdd_eq_ok.1 minimumSum⟩
  · rw [groupTokens, ← markedGroups, markedGroups_map (fun _ _ _ => rfl),
      (checkedAdd_eq_ok.1 postSum).2, (checkedAdd_eq_ok.1 system).2, checkedSum_ok groupSum]
  · rw [(checkedAdd_eq_ok.1 protectedTotal).2, checkedSum_ok protectedSum]
    rfl

section Loop

/-- The unprotected entries, which the selection loop takes as far as it runs. -/
def eligible (entries : List (LogicalGroup × Nat)) : List (LogicalGroup × Nat) :=
  entries.filter (fun entry => !entry.1.isProtected)

/-- A selection extended by these entries. -/
structure Extended (start : Selection) (taken : List (LogicalGroup × Nat)) (result : Selection) :
    Prop where
  indexes : result.selectedGroupIndexes = start.selectedGroupIndexes ++ taken.map (·.2)
  messageIds : result.messageIdsToArchive = start.messageIdsToArchive ++
    taken.flatMap (fun entry => entry.1.messages.map (fun indexed => indexed.message.id))
  archived : result.archiveMessageTokens =
    start.archiveMessageTokens + groupTokens (taken.map (·.1))
  projected : result.projectedActiveTokensAfter + groupTokens (taken.map (·.1)) =
    start.projectedActiveTokensAfter
  userTurns : result.archiveUserTurnCount = start.archiveUserTurnCount +
    taken.countP (fun entry => entry.1.userMessageId.isSome)

theorem extended_nothing (start : Selection) : Extended start [] start where
  indexes := (append_nil _).symm
  messageIds := (append_nil _).symm
  archived := rfl
  projected := rfl
  userTurns := rfl

theorem selectGroups_ok (targetTokens : Nat) (entries : List (LogicalGroup × Nat)) :
    ∀ start result, selectGroups targetTokens entries start = .ok result →
      ∃ before after, entries = before ++ after ∧ Extended start (eligible before) result := by
  induction entries with
  | nil =>
    intro start result run
    cases Except.ok.inj run
    exact ⟨[], [], rfl, extended_nothing start⟩
  | cons entry rest ih =>
    obtain ⟨group, groupIndex⟩ := entry
    intro start result run
    rw [selectGroups] at run
    split at run
    · cases Except.ok.inj run
      exact ⟨[], (group, groupIndex) :: rest, rfl, extended_nothing start⟩
    split at run
    case isTrue fixed =>
      obtain ⟨before, after, whole, extended⟩ := ih _ _ run
      refine ⟨(group, groupIndex) :: before, after, by rw [whole, cons_append], ?_⟩
      have skipped : eligible ((group, groupIndex) :: before) = eligible before := by
        simp [eligible, fixed]
      rw [skipped]
      exact extended
    case isFalse free =>
      obtain ⟨archived, added, run⟩ := bind_eq_ok.1 run
      obtain ⟨projected, removed, run⟩ := bind_eq_ok.1 run
      obtain ⟨before, after, whole, extended⟩ := ih _ _ run
      refine ⟨(group, groupIndex) :: before, after, by rw [whole, cons_append], ?_⟩
      have taken : eligible ((group, groupIndex) :: before) =
          (group, groupIndex) :: eligible before := by
        simp [eligible, free]
      have gain := (checkedAdd_eq_ok.1 added).2
      have loss := checkedSub_eq_ok.1 removed
      have tokens : groupTokens (((group, groupIndex) :: eligible before).map (·.1)) =
          group.tokenCount + groupTokens ((eligible before).map (·.1)) := rfl
      have archivedSum := extended.archived
      have projectedSum := extended.projected
      have turns := extended.userTurns
      dsimp only at archivedSum projectedSum turns
      rw [taken]
      refine ⟨?_, ?_, by omega, by omega, ?_⟩
      · rw [extended.indexes, append_assoc]
        rfl
      · rw [extended.messageIds, flatMap_cons, append_assoc]
      · rw [countP_cons, turns]
        split <;> omega

end Loop

end Compression
