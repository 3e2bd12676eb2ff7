import BambooAgent.Compression.PromptCache
import BambooAgent.Compression.Segmenter

/- What the two rewrites leave of a message: everything but the content, and the content
   too where the message is neither a tool output nor an analysis. -/
namespace Compression
open List

/-- A message as a rewrite may return it. -/
structure Excerpted (original message : Message) : Prop where
  shape : message = { original with content := message.content }
  untouched : original.role = .system ∨ original.role = .user → message = original

theorem excerpted_refl (message : Message) : Excerpted message message :=
  ⟨rfl, fun _ => rfl⟩

theorem excerpted_content (before : Excerpted original message)
    (rewritable : original.role = .tool ∨ original.role = .assistant) :
    Excerpted original { message with content } := by
  constructor
  · rw [before.shape]
  · intro fixed
    cases fixed with
    | inl system => rw [system] at rewritable; simp at rewritable
    | inr user => rw [user] at rewritable; simp at rewritable

section Fields
variable {original message : Message} (excerpt : Excerpted original message)
include excerpt

theorem excerpted_role : message.role = original.role := by
  rw [excerpt.shape]

theorem excerpted_toolCalls : message.toolCalls = original.toolCalls := by
  rw [excerpt.shape]

theorem excerpted_toolCallId : message.toolCallId = original.toolCallId := by
  rw [excerpt.shape]

end Fields

abbrev ExcerptedList (originals messages : List Message) : Prop :=
  List.Forall₂ Excerpted originals messages

theorem excerptedList_refl (messages : List Message) : ExcerptedList messages messages :=
  forall₂_same.2 (fun message _ => excerpted_refl message)

theorem forall₂_modify {α β : Type} {R : α → β → Prop} {f : β → β} {as : List α}
    {bs : List β} (related : List.Forall₂ R as bs) :
    ∀ index, (∀ a b, as[index]? = some a → R a b → R a (f b)) →
      List.Forall₂ R as (bs.modify index f) := by
  induction related with
  | nil =>
    intro index _
    rw [modify_nil]
    exact .nil
  | cons first rest ih =>
    intro index keeps
    cases index with
    | zero => exact .cons (keeps _ _ rfl first) rest
    | succ index => exact .cons first (ih index (fun a b found => keeps a b found))

def ToolOutputAt (messages : List Message) (candidate : PromptCacheCandidate) : Prop :=
  ∀ message, messages[candidate.index]? = some message → message.role = .tool

theorem promptCacheCandidate_eq_some
    (found : promptCacheCandidate start recent names policy counter (message, index) =
      some candidate) :
    message.role = .tool ∧ candidate.index = index ∧
      candidate.oldTokens = counter.countMessage message ∧
      candidate.newTokens =
        counter.countMessage { message with content := candidate.cachedSummary } ∧
      candidate.newTokens < candidate.oldTokens := by
  simp only [promptCacheCandidate] at found
  split at found
  · cases found
  · next within =>
    have tool : message.role = .tool := by
      by_contra other
      exact within (.inr other)
    refine ⟨tool, ?_⟩
    simp only [Option.bind_eq_bind, Option.bind_eq_some_iff] at found
    obtain ⟨id, _, found⟩ := found
    split at found
    · cases found
    · simp only [Option.bind_eq_some_iff] at found
      obtain ⟨name, _, found⟩ := found
      repeat' split at found
      all_goals first
        | cases found; exact ⟨rfl, rfl, rfl, Nat.lt_of_not_le ‹_›⟩
        | cases found

theorem candidates_toolOutputs :
    ∀ candidate ∈ buildPromptCacheCandidates messages start recent names policy counter,
      ToolOutputAt messages candidate := by
  intro candidate member message here
  obtain ⟨entry, listed, found⟩ := mem_filterMap.1 member
  obtain ⟨tool, same, _⟩ := promptCacheCandidate_eq_some found
  have there := mem_zipIdx_iff_getElem?.mp listed
  rw [same, there] at here
  cases here
  exact tool

theorem compactCandidates_excerpted (candidates : List PromptCacheCandidate) :
    ∀ result, (∀ candidate ∈ candidates, ToolOutputAt originals candidate) →
      ExcerptedList originals result.messages →
      ExcerptedList originals (compactCandidates limit candidates result).messages := by
  induction candidates with
  | nil =>
    intro result _ sofar
    exact sofar
  | cons candidate rest ih =>
    intro result outputs sofar
    rw [compactCandidates]
    split
    · exact sofar
    · apply ih
      · intro other member
        exact outputs other (mem_cons_of_mem candidate member)
      · apply forall₂_modify sofar
        intro original message here before
        exact excerpted_content before (.inl (outputs candidate mem_cons_self original here))

theorem toolOutputs_excerpted (messages : List Message) (budget : TokenBudget)
    (counter : TokenCounter) (summaryTokens : Nat) :
    ExcerptedList messages
      (maybeCompactOldToolOutputsForPrompt messages budget counter summaryTokens).messages := by
  simp only [maybeCompactOldToolOutputsForPrompt]
  split
  · exact excerptedList_refl messages
  split
  · exact excerptedList_refl messages
  split
  · exact excerptedList_refl messages
  split
  · exact excerptedList_refl messages
  split
  · exact excerptedList_refl messages
  · apply compactCandidates_excerpted
    · intro candidate member
      exact candidates_toolOutputs candidate (mem_mergeSort.1 member)
    · exact excerptedList_refl messages

theorem compactAnalysis_excerpted (start : Nat) (entry : Message × Nat)
    (before : Excerpted original entry.1) : Excerpted original (compactAnalysis start entry) := by
  simp only [compactAnalysis]
  split
  · exact before
  split
  · exact before
  · next assistant =>
    split
    · exact before
    split
    · exact before
    · apply excerpted_content before
      rw [← excerpted_role before]
      exact .inr (by simpa using assistant)

theorem analyses_excerpted (budget : TokenBudget) (totalTokens : Nat)
    (before : ExcerptedList originals messages) :
    ExcerptedList originals (maybeCompactOldAssistantAnalysis messages budget totalTokens) := by
  rw [maybeCompactOldAssistantAnalysis]
  split
  · exact before
  split
  · exact before
  · next start _ =>
    have same : messages.zipIdx.map (·.1) = messages := zipIdx_map_fst 0 messages
    have listed : ExcerptedList originals (messages.zipIdx.map (·.1)) := by
      rw [same]
      exact before
    have paired := forall₂_map_right_iff.1 listed
    apply forall₂_map_right_iff.2
    exact paired.imp (fun original entry => compactAnalysis_excerpted start entry)

section Filters
variable {originals messages : List Message}

theorem excerpted_systems (excerpts : ExcerptedList originals messages) :
    systemsOf messages = systemsOf originals := by
  unfold systemsOf
  induction excerpts with
  | nil => rfl
  | @cons original message _ _ excerpt _ ih =>
    rw [filter_cons, filter_cons, excerpted_role excerpt, ih]
    split
    · next system =>
      rw [excerpt.untouched (.inl (of_decide_eq_true system))]
    · rfl

theorem excerpted_conversation (excerpts : ExcerptedList originals messages) :
    ExcerptedList (conversationOf originals) (conversationOf messages) := by
  unfold conversationOf
  induction excerpts with
  | nil => exact .nil
  | @cons original message _ _ excerpt _ ih =>
    rw [filter_cons, filter_cons, excerpted_role excerpt]
    split
    · exact .cons excerpt ih
    · exact ih

end Filters

end Compression
