import BambooAgent.Compression.Preparation
import BambooAgent.Compression.Excerpts
import BambooAgent.Compression.Segments
import Mathlib.Algebra.Order.BigOperators.Group.List
import Mathlib.Algebra.Order.Group.Nat

/- A prepared context is what it says it is: its total is the count of its messages and the
   reserve, it is within the limit, and nothing of the window is lost or repeated. -/
namespace Compression
open Shedding Splits List

def exactSum (countMessage : Message → Nat) (messages : List Message) : Nat :=
  (messages.map countMessage).sum

theorem sumEstimates_from (segments : List MessageSegment) :
    ∀ start, start + (segments.map (·.tokenEstimate)).sum ≤ u32Max →
      segments.foldl (fun acc segment => saturatingAdd acc segment.tokenEstimate) start =
        start + (segments.map (·.tokenEstimate)).sum := by
  induction segments with
  | nil =>
    intro start _
    rfl
  | cons segment rest ih =>
    intro start fits
    rw [map_cons, sum_cons] at fits ⊢
    have exact : saturatingAdd start segment.tokenEstimate = start + segment.tokenEstimate := by
      unfold saturatingAdd
      omega
    rw [foldl_cons, ih _ (by omega)]
    omega

theorem sumEstimates_exact (fits : (segments.map (·.tokenEstimate)).sum ≤ u32Max) :
    sumEstimates segments = (segments.map (·.tokenEstimate)).sum := by
  have whole := sumEstimates_from segments 0 (by omega)
  rw [zero_add] at whole
  exact whole

theorem protectSegments_segments (segments : List MessageSegment) :
    (protectSegments segments).map (·.1) = segments := by
  rw [protectSegments, map_map]
  exact zipIdx_map_fst 0 segments

section Phases
variable (limit : Nat) (start : Nat × List (Flagged Anchored))

theorem removalPhases_items :
    (removalPhases limit start).2.map (·.1) = start.2.map (·.1) := by
  simp only [removalPhases, pass_items]

theorem removalPhases_weight (exact : start.1 = keptWeight estimateOf start.2) :
    (removalPhases limit start).1 = keptWeight estimateOf (removalPhases limit start).2 := by
  exact pass_keptWeight (pass_keptWeight (pass_keptWeight (pass_keptWeight exact)))

/-- After the third phase only protected segments may be left over the limit, and the
    fourth one takes those. -/
theorem removalPhases_within (exact : start.1 = keptWeight estimateOf start.2) :
    (removalPhases limit start).1 ≤ limit := by
  have weight := removalPhases_weight limit start exact
  simp only [removalPhases] at weight ⊢
  generalize pass phaseOtherSegments estimateOf limit
    (pass phaseToolChains estimateOf limit start.1 start.2).1
    (pass phaseToolChains estimateOf limit start.1 start.2).2 = second at weight
  have third := pass_ends phaseUnprotected estimateOf limit second.2 second.1
  generalize pass phaseUnprotected estimateOf limit second.1 second.2 = left at weight third
  cases third with
  | inl within =>
    rw [pass_within left.2 within]
    exact within
  | inr anchored =>
    cases pass_ends phaseProtected estimateOf limit left.2 left.1 with
    | inl within => exact within
    | inr out =>
      have nothing : kept (pass phaseProtected estimateOf limit left.1 left.2).2 = [] := by
        apply eq_nil_iff_forall_not_mem.2
        intro segment member
        have free := out segment member
        have held := anchored segment ((pass_kept left.2 left.1).subset member)
        unfold phaseProtected at free
        unfold phaseUnprotected at held
        rw [free] at held
        cases held
      rw [weight, keptWeight, nothing]
      exact Nat.zero_le limit

def Light (anchored : Anchored) : Prop := estimateOf anchored ≤ 1

theorem removalPhases_above (light : ∀ entry ∈ start.2, Light entry.1)
    (above : limit ≤ start.1) : limit ≤ (removalPhases limit start).1 := by
  apply pass_above
  · exact pass_forall Light (pass_forall Light (pass_forall Light light))
  apply pass_above
  · exact pass_forall Light (pass_forall Light light)
  apply pass_above
  · exact pass_forall Light light
  exact pass_above _ _ light above

end Phases

section Selection
variable {segments : List MessageSegment} (remaining : Nat)

/-- The segments as the phases start on them, all kept. -/
def flaggedSegments (segments : List MessageSegment) : List (Flagged Anchored) :=
  (protectSegments segments).map (fun anchored => (anchored, true))

theorem flaggedSegments_items :
    (flaggedSegments segments).map (·.1) = protectSegments segments := by
  rw [flaggedSegments, map_map]
  exact map_id _

theorem flaggedSegments_weight :
    keptWeight estimateOf (flaggedSegments segments) = (segments.map (·.tokenEstimate)).sum := by
  rw [keptWeight, flaggedSegments, kept_all]
  conv_rhs => rw [← protectSegments_segments segments]
  rw [map_map]
  rfl

theorem selectSegments_shares :
    SharedOut (selectSegmentsWithinBudget segments remaining).selected
      (selectSegmentsWithinBudget segments remaining).removed segments := by
  unfold selectSegmentsWithinBudget
  dsimp only
  split
  · exact sharedOut_left segments
  · have shares := kept_sharedOut_removed (removalPhases remaining
      (sumEstimates segments, flaggedSegments segments)).2
    rw [removalPhases_items, flaggedSegments_items] at shares
    have mapped := sharedOut_map (·.1) shares
    rw [protectSegments_segments] at mapped
    exact mapped

variable (fits : (segments.map (·.tokenEstimate)).sum ≤ u32Max)
include fits

theorem selected_weight (overrun : ¬ sumEstimates segments ≤ remaining) :
    ((selectSegmentsWithinBudget segments remaining).selected.map (·.tokenEstimate)).sum =
      (removalPhases remaining (sumEstimates segments, flaggedSegments segments)).1 := by
  have exact : sumEstimates segments = keptWeight estimateOf (flaggedSegments segments) := by
    rw [flaggedSegments_weight, sumEstimates_exact fits]
  have weight := removalPhases_weight remaining (sumEstimates segments, flaggedSegments segments)
    exact
  rw [weight, selectSegmentsWithinBudget]
  rw [if_neg overrun, map_map]
  rfl

theorem selectSegments_within :
    ((selectSegmentsWithinBudget segments remaining).selected.map (·.tokenEstimate)).sum ≤
      remaining := by
  by_cases within : sumEstimates segments ≤ remaining
  · rw [selectSegmentsWithinBudget]
    rw [if_pos within]
    rw [sumEstimates_exact fits] at within
    exact within
  · rw [selected_weight remaining fits within]
    apply removalPhases_within
    rw [flaggedSegments_weight, sumEstimates_exact fits]

theorem selectSegments_above (light : ∀ segment ∈ segments, segment.tokenEstimate ≤ 1)
    (above : remaining ≤ (segments.map (·.tokenEstimate)).sum) :
    remaining ≤
      ((selectSegmentsWithinBudget segments remaining).selected.map (·.tokenEstimate)).sum := by
  by_cases within : sumEstimates segments ≤ remaining
  · rw [selectSegmentsWithinBudget]
    rw [if_pos within]
    exact above
  · rw [selected_weight remaining fits within]
    apply removalPhases_above
    · intro entry member
      have listed : entry.1.1 ∈ (protectSegments segments).map (·.1) := by
        rw [← flaggedSegments_items, map_map]
        exact mem_map_of_mem member
      rw [protectSegments_segments] at listed
      exact light entry.1.1 listed
    · omega

end Selection

def estimatedSegments (session : Session) (budget : TokenBudget) (counter : TokenCounter)
    (reserve : Nat) (summaryId : String) : List MessageSegment :=
  (segment (conversationOf
    (excerptedMessages session budget counter reserve summaryId).2)).map (estimateSegment counter)

theorem excerptedMessages_excerpted (session : Session) (budget : TokenBudget)
    (counter : TokenCounter) (reserve : Nat) (summaryId : String) :
    ExcerptedList (activeMessages session)
      (excerptedMessages session budget counter reserve summaryId).2 := by
  exact analyses_excerpted budget _ (toolOutputs_excerpted (activeMessages session) budget _ _)

theorem fitWindow_messages (session : Session) (budget : TokenBudget) (counter : TokenCounter)
    (reserve systemTokens : Nat) (summaryId : String) :
    (fitWindow session budget counter (excerptedMessages session budget counter reserve summaryId)
      systemTokens summaryId).messages =
      systemsOf (activeMessages session) ++ (summaryMessage session summaryId).toList ++
        flatten (selectSegmentsWithinBudget
          (estimatedSegments session budget counter reserve summaryId)
          (budget.maxRequestInputTokens - systemTokens -
            summaryTokens session counter summaryId)).selected := by
  rw [← excerpted_systems
    (excerptedMessages_excerpted session budget counter reserve summaryId)]
  rfl

section Prepared
variable (session : Session) (budget : TokenBudget) (countMessage : Message → Nat)
  (countText : String → Nat) (reserve : Nat) (summaryId : String)

/-- The active messages as the window is cut from them. -/
def windowMessages : List Message :=
  (excerptedMessages session budget (.perMessage countMessage countText) reserve summaryId).2

/-- The sums over the active messages, as stored and as excerpted, together with the summary
    and the reserve, are exact in u32. -/
structure SumsFit : Prop where
  stored : exactSum countMessage (activeMessages session) +
    exactSum countMessage (summaryMessage session summaryId).toList + reserve ≤ u32Max
  excerpted :
    exactSum countMessage (windowMessages session budget countMessage countText reserve summaryId) +
      exactSum countMessage (summaryMessage session summaryId).toList + reserve ≤ u32Max

/-- What every preparation sends: the active system messages, the summary and the reserve. -/
def requiredTokens : Nat :=
  exactSum countMessage (systemsOf (activeMessages session)) +
    exactSum countMessage (summaryMessage session summaryId).toList + reserve

theorem perMessage_exact (fits : exactSum countMessage messages ≤ u32Max) :
    (TokenCounter.perMessage countMessage countText).countMessages messages =
      exactSum countMessage messages := by
  have less : exactSum countMessage messages < u32Max + 1 := by omega
  exact Nat.mod_eq_of_lt less

theorem windowMessages_excerpted :
    ExcerptedList (activeMessages session)
      (windowMessages session budget countMessage countText reserve summaryId) := by
  exact excerptedMessages_excerpted session budget _ reserve summaryId

theorem exactSum_systems (messages : List Message) :
    exactSum countMessage (systemsOf messages) + exactSum countMessage (conversationOf messages) =
      exactSum countMessage messages := by
  have shares := sharedOut_filter (fun message : Message => decide (message.role = .system)) messages
  simp only [← decide_not] at shares
  exact sharedOut_sum countMessage shares

/-- The context accounts for every active message: the window is shared out in order into
    what it keeps and what it names as left out, and its total is exact and within the limit. -/
def Accounted (context : PreparedContext) : Prop :=
  ∃ window kept left, ExcerptedList (conversationOf (activeMessages session)) window ∧
    SharedOut kept left window ∧
    context.messages = systemsOf (activeMessages session) ++
      (summaryMessage session summaryId).toList ++ kept ∧
    context.compressedMessageIds = left.map (·.id) ∧
    context.tokenUsage.totalTokens = exactSum countMessage context.messages + reserve ∧
    context.tokenUsage.totalTokens ≤ budget.maxRequestInputTokens

theorem exactSum_append (first second : List Message) :
    exactSum countMessage (first ++ second) =
      exactSum countMessage first + exactSum countMessage second := by
  rw [exactSum, map_append, sum_append]
  rfl

theorem exactSum_sublist (inside : part.Sublist whole) :
    exactSum countMessage part ≤ exactSum countMessage whole := by
  exact (inside.map countMessage).sum_le_sum (fun _ _ => Nat.zero_le _)

theorem exactSum_flatten (segments : List MessageSegment) :
    exactSum countMessage (flatten segments) =
      (segments.map (fun segment => exactSum countMessage segment.messages)).sum := by
  induction segments with
  | nil => rfl
  | cons segment rest ih =>
    rw [map_cons, sum_cons, ← ih]
    exact exactSum_append countMessage segment.messages (flatten rest)

theorem flatten_estimated (counter : TokenCounter) (segments : List MessageSegment) :
    flatten (segments.map (estimateSegment counter)) = flatten segments := by
  rw [flatten, flatMap_map]
  rfl

variable {session budget countMessage countText reserve summaryId}

theorem summaryTokens_exact
    (fits : exactSum countMessage (summaryMessage session summaryId).toList ≤ u32Max) :
    summaryTokens session (.perMessage countMessage countText) summaryId =
      exactSum countMessage (summaryMessage session summaryId).toList := by
  unfold summaryTokens
  cases summary : summaryMessage session summaryId with
  | none => rfl
  | some message =>
    rw [summary] at fits
    exact perMessage_exact countMessage countText fits

section Estimated
variable {segments : List MessageSegment} (countText : String → Nat) (remaining : Nat)
  (fits : exactSum countMessage (flatten segments) ≤ u32Max)
include fits

theorem estimated_sum {chosen : List MessageSegment}
    (inside : chosen.Sublist (segments.map (estimateSegment (.perMessage countMessage countText)))) :
    (chosen.map (·.tokenEstimate)).sum = exactSum countMessage (flatten chosen) := by
  rw [exactSum_flatten]
  congr 1
  apply map_congr_left
  intro segment member
  obtain ⟨plain, listed, same⟩ := mem_map.1 (inside.subset member)
  subst same
  refine perMessage_exact countMessage countText ?_
  have part : plain.messages.Sublist (flatten segments) :=
    sublist_flatten_of_mem (mem_map_of_mem listed)
  exact (exactSum_sublist countMessage part).trans fits

theorem estimated_total :
    ((segments.map (estimateSegment (.perMessage countMessage countText))).map
      (·.tokenEstimate)).sum = exactSum countMessage (flatten segments) := by
  rw [estimated_sum countText fits (List.Sublist.refl _), flatten_estimated]

/-- The selection among exactly estimated segments, said about their messages. -/
theorem selection_messages :
    let selection := selectSegmentsWithinBudget
      (segments.map (estimateSegment (.perMessage countMessage countText))) remaining
    SharedOut (flatten selection.selected) (flatten selection.removed) (flatten segments) ∧
      sumEstimates selection.selected = exactSum countMessage (flatten selection.selected) ∧
      exactSum countMessage (flatten selection.selected) ≤ remaining := by
  intro selection
  have total := estimated_total countText fits
  have shares : SharedOut selection.selected selection.removed
      (segments.map (estimateSegment (.perMessage countMessage countText))) :=
    selectSegments_shares remaining
  have within := selectSegments_within remaining (total.trans_le fits)
  have parts := sharedOut_flatMap (·.messages) shares
  have whole : SharedOut (flatten selection.selected) (flatten selection.removed)
      (flatten segments) := by
    rw [← flatten_estimated (.perMessage countMessage countText) segments]
    exact parts
  have own := estimated_sum countText fits (sharedOut_sublist shares)
  have small : (selection.selected.map (·.tokenEstimate)).sum ≤ u32Max := by
    rw [own]
    exact (exactSum_sublist countMessage (sharedOut_sublist whole)).trans fits
  refine ⟨whole, ?_, ?_⟩
  · rw [sumEstimates_exact small, own]
  · rw [← own]
    exact within

theorem selection_above
    (light : ∀ segment ∈ segments, exactSum countMessage segment.messages ≤ 1)
    (above : remaining ≤ exactSum countMessage (flatten segments)) :
    remaining ≤ exactSum countMessage (flatten (selectSegmentsWithinBudget
      (segments.map (estimateSegment (.perMessage countMessage countText)))
        remaining).selected) := by
  have total := estimated_total countText fits
  rw [← estimated_sum countText fits (sharedOut_sublist (selectSegments_shares remaining))]
  apply selectSegments_above remaining (total.trans_le fits)
  · intro segment member
    have one := estimated_sum countText fits (singleton_sublist.2 member)
    obtain ⟨plain, listed, same⟩ := mem_map.1 member
    have bound := light plain listed
    rw [map_singleton, sum_singleton, flatten_single] at one
    rw [one, ← same]
    exact bound
  · rw [total]
    exact above

end Estimated

section
variable (fits : SumsFit session budget countMessage countText reserve summaryId)
include fits

theorem window_parts :
    requiredTokens session countMessage reserve summaryId +
      exactSum countMessage (conversationOf
        (windowMessages session budget countMessage countText reserve summaryId)) ≤ u32Max := by
  have excerpts := windowMessages_excerpted session budget countMessage countText reserve summaryId
  have parts := exactSum_systems countMessage
    (windowMessages session budget countMessage countText reserve summaryId)
  rw [excerpted_systems excerpts] at parts
  have whole := fits.excerpted
  unfold requiredTokens
  omega

/-- What the preparation counts before it looks at the window. -/
theorem required_exact : let counter := TokenCounter.perMessage countMessage countText
    saturatingAdd (counter.countMessages (systemsOf
        (windowMessages session budget countMessage countText reserve summaryId))) reserve =
      exactSum countMessage (systemsOf (activeMessages session)) + reserve ∧
    summaryTokens session counter summaryId =
      exactSum countMessage (summaryMessage session summaryId).toList ∧
    saturatingAdd (exactSum countMessage (systemsOf (activeMessages session)) + reserve)
      (exactSum countMessage (summaryMessage session summaryId).toList) =
      requiredTokens session countMessage reserve summaryId := by
  have bound := window_parts fits
  unfold requiredTokens at bound ⊢
  refine ⟨?_, ?_, ?_⟩
  · rw [excerpted_systems (windowMessages_excerpted session budget countMessage countText reserve
      summaryId), perMessage_exact countMessage countText (by omega), saturatingAdd]
    omega
  · apply summaryTokens_exact
    omega
  · unfold saturatingAdd
    omega

theorem fitWindow_accounted
    (within : requiredTokens session countMessage reserve summaryId ≤ budget.maxRequestInputTokens) :
    Accounted session budget countMessage reserve summaryId
      (fitWindow session budget (.perMessage countMessage countText)
        (excerptedMessages session budget (.perMessage countMessage countText) reserve summaryId)
        (exactSum countMessage (systemsOf (activeMessages session)) + reserve) summaryId) := by
  have bound := window_parts fits
  have excerpts := windowMessages_excerpted session budget countMessage countText reserve summaryId
  obtain ⟨_, summary, required⟩ := required_exact fits
  have flat := segment_flatten (conversationOf_spoken
    (windowMessages session budget countMessage countText reserve summaryId))
  have small : exactSum countMessage (flatten (segment (conversationOf
      (windowMessages session budget countMessage countText reserve summaryId)))) ≤ u32Max := by
    rw [flat]
    omega
  obtain ⟨shares, estimate, room⟩ := selection_messages countText
    (budget.maxRequestInputTokens -
      (exactSum countMessage (systemsOf (activeMessages session)) + reserve) -
      exactSum countMessage (summaryMessage session summaryId).toList) small
  rw [flat] at shares
  have part := exactSum_sublist countMessage (sharedOut_sublist shares)
  have messages := fitWindow_messages session budget (.perMessage countMessage countText) reserve
    (exactSum countMessage (systemsOf (activeMessages session)) + reserve) summaryId
  have estimated : estimatedSegments session budget (.perMessage countMessage countText) reserve
      summaryId = (segment (conversationOf
        (windowMessages session budget countMessage countText reserve summaryId))).map
          (estimateSegment (.perMessage countMessage countText)) := rfl
  rw [summary, estimated] at messages
  have total : (fitWindow session budget (.perMessage countMessage countText)
      (excerptedMessages session budget (.perMessage countMessage countText) reserve summaryId)
      (exactSum countMessage (systemsOf (activeMessages session)) + reserve)
      summaryId).tokenUsage.totalTokens =
      saturatingAdd (saturatingAdd
        (exactSum countMessage (systemsOf (activeMessages session)) + reserve)
        (exactSum countMessage (summaryMessage session summaryId).toList))
      (sumEstimates (selectSegmentsWithinBudget ((segment (conversationOf
          (windowMessages session budget countMessage countText reserve summaryId))).map
            (estimateSegment (.perMessage countMessage countText)))
          (budget.maxRequestInputTokens -
            (exactSum countMessage (systemsOf (activeMessages session)) + reserve) -
            exactSum countMessage (summaryMessage session summaryId).toList)).selected) := by
    rw [← summary]
    rfl
  refine ⟨_, _, _, excerpted_conversation excerpts, shares, messages, ?_, ?_, ?_⟩
  · rw [← summary]
    rfl
  · rw [messages, total, required, exactSum_append, exactSum_append, saturatingAdd]
    unfold requiredTokens at bound ⊢
    omega
  · rw [total, required, saturatingAdd]
    unfold requiredTokens at within ⊢
    omega

/-- The two outcomes of a preparation. -/
theorem prepare_outcome :
    prepareHybridContextWithFixedTokens session budget
      (.perMessage countMessage countText) reserve summaryId =
      if budget.maxRequestInputTokens < requiredTokens session countMessage reserve summaryId then
        .error (.systemPromptTooLarge (requiredTokens session countMessage reserve summaryId)
          budget.maxRequestInputTokens)
      else .ok (fitWindow session budget (.perMessage countMessage countText)
        (excerptedMessages session budget (.perMessage countMessage countText) reserve summaryId)
        (exactSum countMessage (systemsOf (activeMessages session)) + reserve) summaryId) := by
  obtain ⟨system, summary, required⟩ := required_exact fits
  rw [← required, ← summary, ← system]
  rfl

end

/-- A preparation fails exactly when the system messages, the summary and the reserve do not
    fit; otherwise the context it returns accounts for every active message. -/
theorem context_accounted (session : Session) (budget : TokenBudget)
    (countMessage : Message → Nat) (countText : String → Nat) (reserve : Nat) (summaryId : String)
    (fits : SumsFit session budget countMessage countText reserve summaryId) :
    ((∃ error, prepareHybridContextWithFixedTokens session budget
        (.perMessage countMessage countText) reserve summaryId = .error error) ↔
      budget.maxRequestInputTokens < requiredTokens session countMessage reserve summaryId) ∧
    (requiredTokens session countMessage reserve summaryId ≤ budget.maxRequestInputTokens →
      ∃ context, prepareHybridContextWithFixedTokens session budget
          (.perMessage countMessage countText) reserve summaryId = .ok context ∧
        Accounted session budget countMessage reserve summaryId context) := by
  rw [prepare_outcome fits]
  by_cases overrun : budget.maxRequestInputTokens <
      requiredTokens session countMessage reserve summaryId
  · rw [if_pos overrun]
    refine ⟨⟨fun _ => overrun, fun _ => ⟨_, rfl⟩⟩, fun within => ?_⟩
    omega
  · rw [if_neg overrun]
    refine ⟨⟨fun failed => ?_, fun more => absurd more overrun⟩, fun within => ⟨_, rfl, ?_⟩⟩
    · obtain ⟨error, same⟩ := failed
      cases same
    · exact fitWindow_accounted fits within

end Prepared

/-- A session whose oldest turn has a tool call. -/
def Sample.call : ToolCall := ⟨"c", "function", ⟨"Read", "x"⟩⟩

def Sample.toolTurn : Session :=
  .ofMessages [.system "s" "ssss", .user "u1" "uu", .assistant "a1" "a" (some [Sample.call]),
    .toolResult "t1" "c" "tttt", .user "u2" "u"]

def Sample.tightBudget : TokenBudget := .withSafetyMargin 10 0 0

theorem context_accounted_toolTurn :
    ∃ context, prepareHybridContextWithFixedTokens Sample.toolTurn Sample.tightBudget
        (.perMessage (fun m => charCount m.content) charCount) 1 "summary" = .ok context ∧
      Accounted Sample.toolTurn Sample.tightBudget (fun m => charCount m.content) 1 "summary"
        context := by
  have accounted := context_accounted Sample.toolTurn Sample.tightBudget
    (fun m => charCount m.content) charCount 1 "summary" ⟨by decide, by decide⟩
  exact accounted.2 (by decide)

example :
    ((prepareHybridContextWithFixedTokens Sample.toolTurn Sample.tightBudget
      (.perMessage (fun m => charCount m.content) charCount) 1 "summary").toOption.map
        (·.compressedMessageIds)) = some ["a1", "t1"] := by
  decide

end Compression
