import BambooAgent.Compression.Accounting

/- Tool calls and their results in a prepared context. Segments are kept or dropped whole,
   so a call and its result stay together when they stand in one segment; the segmenter puts
   them into one exactly when nothing but results of the same call's message stands between. -/
namespace Compression
open List hiding after
open Shedding Splits

/-- Every call id is issued by at most one message and answered by at most one. -/
structure CallsIdentified (messages : List Message) : Prop where
  issued : messages.Pairwise (fun m n => ∀ id, ¬ (Issues m id ∧ Issues n id))
  answered : messages.Pairwise (fun m n => ∀ id, ¬ (Answers m id ∧ Answers n id))

/-- A result for this id may follow directly: after the call there are results of the
    calling message only. -/
def OpenFor (before : List Message) (id : String) : Prop :=
  ∃ earlier call results, before = earlier ++ call :: results ∧ Issues call id ∧
    ∀ result ∈ results, ∃ other, Answers result other ∧ Issues call other

/-- Every tool result directly follows its call. -/
def DirectlyAnswered (messages : List Message) : Prop :=
  ∀ before result after id, messages = before ++ result :: after → Answers result id →
    OpenFor before id

/-- The prepared messages keep calls and results together. -/
structure KeepsToolChains (session : Session) (context : PreparedContext) : Prop where
  preceded : ∀ before result after id, context.messages = before ++ result :: after →
    Answers result id → ∃ call ∈ before, Issues call id
  together : ∀ call ∈ context.messages, ∀ id, Issues call id →
    ∀ result ∈ activeMessages session, Answers result id →
      ∃ kept ∈ context.messages, Excerpted result kept

theorem not_answers_of_issues {id : String} (issues : Issues message id) :
    ¬ Answers message other := by
  intro answers
  have role := issues.1.symm.trans answers.1
  cases role

def SameCalls (m n : Message) : Prop :=
  (∀ id, Issues m id ↔ Issues n id) ∧ ∀ id, Answers m id ↔ Answers n id

theorem sameCalls_excerpted (excerpt : Excerpted original message) :
    SameCalls original message := by
  constructor
  · intro id
    rw [Issues, Issues, callsOf, callsOf, excerpted_role excerpt, excerpted_toolCalls excerpt]
  · intro id
    rw [Answers, Answers, excerpted_role excerpt, excerpted_toolCallId excerpt]

theorem sameCalls_symm (same : SameCalls m n) : SameCalls n m :=
  ⟨fun id => (same.1 id).symm, fun id => (same.2 id).symm⟩

theorem sameCalls_list (excerpts : ExcerptedList ms ns) : List.Forall₂ SameCalls ms ns := by
  exact excerpts.imp (fun _ _ excerpt => sameCalls_excerpted excerpt)

theorem forall₂_split {α β : Type} {R : α → β → Prop} {b : β} {back : List β}
    (front : List β) : ∀ {as : List α}, List.Forall₂ R as (front ++ b :: back) →
      ∃ front' a back', as = front' ++ a :: back' ∧ List.Forall₂ R front' front ∧ R a b ∧
        List.Forall₂ R back' back := by
  induction front with
  | nil =>
    intro as related
    cases related with
    | cons here rest => exact ⟨[], _, _, rfl, .nil, here, rest⟩
  | cons first front ih =>
    intro as related
    cases related with
    | cons here rest =>
      obtain ⟨front', a, back', whole, fronts, pair, backs⟩ := ih rest
      exact ⟨_ :: front', a, back', by rw [whole]; rfl, .cons here fronts, pair, backs⟩

theorem forall₂_mem_left {α β : Type} {R : α → β → Prop} {as : List α} {bs : List β}
    (related : List.Forall₂ R as bs) : ∀ a ∈ as, ∃ b ∈ bs, R a b := by
  induction related with
  | nil => exact fun a member => absurd member not_mem_nil
  | cons here _ ih =>
    intro a member
    cases mem_cons.1 member with
    | inl same =>
      subst same
      exact ⟨_, mem_cons_self, here⟩
    | inr later =>
      obtain ⟨b, inside, pair⟩ := ih a later
      exact ⟨b, mem_cons_of_mem _ inside, pair⟩

theorem openFor_sameCalls {id : String} (same : List.Forall₂ SameCalls ms ns)
    (opened : OpenFor ns id) : OpenFor ms id := by
  obtain ⟨earlier, call, results, whole, issues, own⟩ := opened
  subst whole
  obtain ⟨earlier', call', results', whole', _, pair, tails⟩ := forall₂_split earlier same
  refine ⟨earlier', call', results', whole', (pair.1 id).2 issues, ?_⟩
  intro result member
  obtain ⟨other, inside, alike⟩ := forall₂_mem_left tails result member
  obtain ⟨name, answers, calls⟩ := own other inside
  exact ⟨name, (alike.2 name).2 answers, (pair.1 name).2 calls⟩

theorem directlyAnswered_sameCalls (same : List.Forall₂ SameCalls ms ns)
    (direct : DirectlyAnswered ms) : DirectlyAnswered ns := by
  intro before result after id whole answers
  subst whole
  obtain ⟨before', result', after', whole', fronts, pair, _⟩ := forall₂_split before same
  have opened := direct before' result' after' id whole' ((pair.2 id).2 answers)
  have flipped : List.Forall₂ SameCalls before before' :=
    fronts.flip.imp (fun _ _ alike => sameCalls_symm alike)
  exact openFor_sameCalls flipped opened

theorem pairwise_related {α β : Type} {R : α → β → Prop} {P : α → α → Prop} {Q : β → β → Prop}
    {as : List α} {bs : List β} (related : List.Forall₂ R as bs)
    (moves : ∀ a b a' b', R a b → R a' b' → P a a' → Q b b') (apart : as.Pairwise P) :
    bs.Pairwise Q := by
  induction related with
  | nil => exact .nil
  | cons here rest ih =>
    obtain ⟨first, others⟩ := pairwise_cons.1 apart
    refine pairwise_cons.2 ⟨fun b inside => ?_, ih others⟩
    obtain ⟨a, member, pair⟩ := forall₂_mem_left rest.flip b inside
    exact moves _ _ _ _ here pair (first a member)

theorem callsIdentified_sameCalls (same : List.Forall₂ SameCalls ms ns)
    (identified : CallsIdentified ms) : CallsIdentified ns := by
  constructor
  · apply pairwise_related same _ identified.issued
    intro m n m' n' first second apart id both
    exact apart id ⟨(first.1 id).2 both.1, (second.1 id).2 both.2⟩
  · apply pairwise_related same _ identified.answered
    intro m n m' n' first second apart id both
    exact apart id ⟨(first.2 id).2 both.1, (second.2 id).2 both.2⟩

variable {call : Message}

theorem segmentMessage_issues {id : String} (state : Segmenting) (issues : Issues call id) :
    ∃ part, segmentMessage state call =
      ⟨state.close.segments, some part, ((callsOf call).map (·.id)).dedup⟩ ∧
      part.messages = [call] := by
  refine ⟨{ MessageSegment.fromMessage call with isToolChain := true }, ?_, rfl⟩
  unfold segmentMessage
  rw [issues.1]
  rw [hasToolCalls_of_issues issues]
  rfl

theorem segmentMessage_answers {id : String}
    (opened : state.currentSegment = some part) (answers : Answers result id)
    (waits : id ∈ state.pendingToolCalls) :
    ∃ grown, grown.messages = part.messages ++ [result] ∧
      segmentMessage state result =
        if (state.pendingToolCalls.erase id).isEmpty then ⟨state.segments ++ [grown], none, []⟩
        else ⟨state.segments, some grown, state.pendingToolCalls.erase id⟩ := by
  refine ⟨{ part with messages := part.messages ++ [result] }, rfl, ?_⟩
  unfold segmentMessage
  rw [answers.1]
  rw [opened, pendingAnswer_of_answers answers waits]
  rfl

theorem foldl_answers (id : String) (results : List Message) :
    ∀ (state : Segmenting) (part : MessageSegment), state.currentSegment = some part →
      (∀ result ∈ results, ∃ other ∈ state.pendingToolCalls, Answers result other ∧ other ≠ id) →
      results.Pairwise (fun m n => ∀ id, ¬ (Answers m id ∧ Answers n id)) →
      id ∈ state.pendingToolCalls →
      ∃ grown, (results.foldl segmentMessage state).currentSegment = some grown ∧
        grown.messages = part.messages ++ results ∧
        id ∈ (results.foldl segmentMessage state).pendingToolCalls := by
  induction results with
  | nil =>
    intro state part opened _ _ waits
    exact ⟨part, opened, (append_nil _).symm, waits⟩
  | cons result rest ih =>
    intro state part opened own apart waits
    obtain ⟨first, others⟩ := pairwise_cons.1 apart
    obtain ⟨other, pending, answers, different⟩ := own result mem_cons_self
    obtain ⟨grown, extended, moved⟩ := segmentMessage_answers opened answers pending
    have left : id ∈ state.pendingToolCalls.erase other :=
      (mem_erase_of_ne (Ne.symm different)).2 waits
    have more : (state.pendingToolCalls.erase other).isEmpty = false := by
      rw [isEmpty_eq_false_iff]
      exact ne_nil_of_mem left
    rw [more] at moved
    rw [foldl_cons, moved]
    obtain ⟨last, current, whole, still⟩ := ih ⟨state.segments, some grown,
      state.pendingToolCalls.erase other⟩ grown rfl (by
        intro later member
        obtain ⟨name, listed, replies, apart'⟩ := own later (mem_cons_of_mem _ member)
        refine ⟨name, (mem_erase_of_ne ?_).2 listed, replies, apart'⟩
        intro same
        subst same
        exact first later member name ⟨answers, replies⟩) others left
    refine ⟨last, current, ?_, still⟩
    rw [whole, extended, append_assoc]
    rfl

theorem answered_together (spoken : ∀ message ∈ messages, message.role ≠ .system)
    (identified : CallsIdentified messages) (direct : DirectlyAnswered messages) {id : String}
    (member : result ∈ messages) (answers : Answers result id) :
    ∃ part ∈ segment messages, ∃ call results more,
      part.messages = call :: results ++ result :: more ∧ Issues call id := by
  obtain ⟨before, after, whole⟩ := append_of_mem member
  obtain ⟨earlier, call, results, shape, issues, own⟩ :=
    direct before result after id whole answers
  subst shape
  have apart := identified.answered
  rw [whole, append_assoc] at apart
  have inner : (call :: (results ++ result :: after)).Pairwise
      (fun m n => ∀ id, ¬ (Answers m id ∧ Answers n id)) := (pairwise_append.1 apart).2.1
  have tail := pairwise_append.1 (pairwise_cons.1 inner).2
  obtain ⟨part, opens, single⟩ :=
    segmentMessage_issues (earlier.foldl segmentMessage .start) issues
  obtain ⟨grown, current, shape, waits⟩ := foldl_answers id results
    (segmentMessage (earlier.foldl segmentMessage .start) call) part (by rw [opens]) (by
      intro other inside
      obtain ⟨name, replies, calls⟩ := own other inside
      refine ⟨name, ?_, replies, ?_⟩
      · rw [opens]
        exact mem_dedup.2 calls.2
      · intro same
        subst same
        exact tail.2.2 other inside result mem_cons_self name ⟨replies, answers⟩)
    tail.1 (by rw [opens]; exact mem_dedup.2 issues.2)
  obtain ⟨joined, extended, moved⟩ := segmentMessage_answers current answers waits
  have begins : Begins ((earlier ++ call :: results ++ [result]).foldl segmentMessage .start)
      (call :: results ++ [result]) := by
    rw [foldl_append, foldl_append]
    refine ⟨joined, ?_, [], ?_⟩
    · rw [foldl_cons, foldl_cons, moved]
      split
      · exact mem_append_left _ (mem_append_right _ mem_cons_self)
      · exact mem_append_right _ mem_cons_self
    · rw [extended, shape, single, append_nil]
      rfl
  have rest : messages = (earlier ++ call :: results ++ [result]) ++ after := by
    rw [whole, append_assoc _ [result] after]
    rfl
  have through := begins_foldl after _ (fun message inside => spoken message (by
    rw [rest]
    exact mem_append_right _ inside)) begins
  rw [← foldl_append, ← rest] at through
  obtain ⟨final, listed, more, starts⟩ := through
  refine ⟨final, ?_, call, results, more, ?_, issues⟩
  · rw [segment, close_segments]
    exact listed
  · rw [starts, append_assoc]
    rfl

theorem part_unique {uses : Message → String → Prop}
    (apart : (flatten parts).Pairwise (fun m n => ∀ id, ¬ (uses m id ∧ uses n id)))
    (one : first ∈ parts) (other : second ∈ parts) {id : String} (here : m ∈ first.messages)
    (there : n ∈ second.messages) (usesHere : uses m id) (usesThere : uses n id) :
    first = second := by
  have between := (pairwise_flatMap.1 apart).2
  by_contra different
  have symm : Std.Symm (fun a b : MessageSegment => ∀ x ∈ a.messages, ∀ y ∈ b.messages,
      ∀ id, ¬ (uses x id ∧ uses y id)) := by
    constructor
    intro a b clear x inside y member name both
    exact clear y member x inside name ⟨both.2, both.1⟩
  exact between.forall one other different m here n there id ⟨usesHere, usesThere⟩

/-- Every result stands in a segment after its call. -/
def ResultsChained (parts : List MessageSegment) : Prop :=
  ∀ result ∈ flatten parts, ∀ id, Answers result id → ∃ part ∈ parts, ∃ call results more,
    part.messages = call :: results ++ result :: more ∧ Issues call id

section Selected
variable {selected : List MessageSegment} (within : selected.Sublist parts)
  (identified : CallsIdentified (flatten parts)) (chained : ResultsChained parts)
include within identified chained

theorem selected_preceded {id : String} (member : result ∈ flatten selected)
    (answers : Answers result id) :
    ∃ call, Issues call id ∧ [call, result].Sublist (flatten selected) := by
  obtain ⟨kept, inside, here⟩ := mem_flatMap.1 member
  have listed := within.subset inside
  obtain ⟨part, own, call, results, more, shape, issues⟩ :=
    chained result (mem_flatMap.2 ⟨kept, listed, here⟩) id answers
  have there : result ∈ part.messages := by
    rw [shape]
    exact mem_append_right _ mem_cons_self
  have same := part_unique identified.answered listed own here there answers answers
  subst same
  have ordered : [call, result].Sublist kept.messages := by
    rw [shape]
    exact (singleton_sublist.2 (mem_cons_self)).append
      (singleton_sublist.2 mem_cons_self)
  exact ⟨call, issues, ordered.trans (sublist_flatten_of_mem (mem_map_of_mem inside))⟩

theorem selected_together {id : String} (member : call ∈ flatten selected)
    (issues : Issues call id) (whole : result ∈ flatten parts) (answers : Answers result id) :
    result ∈ flatten selected := by
  obtain ⟨kept, inside, here⟩ := mem_flatMap.1 member
  obtain ⟨part, own, head, results, more, shape, opens⟩ := chained result whole id answers
  have there : head ∈ part.messages := by
    rw [shape]
    exact mem_append_left _ mem_cons_self
  have same := part_unique identified.issued (within.subset inside) own here there issues opens
  subst same
  refine mem_flatMap.2 ⟨kept, inside, ?_⟩
  rw [shape]
  exact mem_append_right _ mem_cons_self

end Selected

theorem before_of_sublist (fresh : result ∉ after)
    (ordered : [call, result].Sublist (before ++ result :: after)) : call ∈ before := by
  obtain ⟨front, back, split, inFront, inBack⟩ := sublist_append_iff.1 ordered
  cases front with
  | nil =>
    subst split
    have later : [result].Sublist after := by
      cases inBack with
      | cons _ rest => exact (sublist_cons_self call [result]).trans rest
      | cons_cons _ rest => exact rest
    exact absurd (later.subset mem_cons_self) fresh
  | cons first rest =>
    have same : call = first := (List.cons.inj split).1
    subst same
    exact inFront.subset mem_cons_self

theorem prepared_fitWindow
    (ran : prepareHybridContextWithFixedTokens session budget counter reserve summaryId =
      .ok context) :
    ∃ systemTokens, context = fitWindow session budget counter
      (excerptedMessages session budget counter reserve summaryId) systemTokens summaryId := by
  unfold prepareHybridContextWithFixedTokens at ran
  dsimp only at ran
  split at ran
  · cases ran
  · cases ran
    exact ⟨_, rfl⟩

theorem front_systems :
    ∀ message ∈ systemsOf (activeMessages session) ++ (summaryMessage session summaryId).toList,
      message.role = .system := by
  intro message member
  cases mem_append.1 member with
  | inl active => exact of_decide_eq_true (mem_filter.1 active).2
  | inr summary =>
    obtain ⟨text, _, same⟩ := Option.map_eq_some_iff.1 (Option.mem_toList.1 summary)
    rw [← same]
    rfl

theorem front_silent
    (member : message ∈ systemsOf (activeMessages session) ++
      (summaryMessage session summaryId).toList) (id : String) :
    ¬ Issues message id ∧ ¬ Answers message id := by
  have system := front_systems message member
  constructor
  · intro issues
    have role := issues.1.symm.trans system
    cases role
  · intro answers
    have role := answers.1.symm.trans system
    cases role

theorem estimatedSegments_flatten :
    flatten (estimatedSegments session budget counter reserve summaryId) =
      conversationOf (excerptedMessages session budget counter reserve summaryId).2 := by
  rw [estimatedSegments, flatten_estimated, segment_flatten (conversationOf_spoken _)]

section
variable (identified : CallsIdentified (activeMessages session))
include identified

theorem estimatedSegments_identified :
    CallsIdentified (flatten (estimatedSegments session budget counter reserve summaryId)) := by
  have convo : CallsIdentified (conversationOf (activeMessages session)) :=
    ⟨identified.issued.filter _, identified.answered.filter _⟩
  rw [estimatedSegments_flatten]
  exact callsIdentified_sameCalls (sameCalls_list (excerpted_conversation
    (excerptedMessages_excerpted session budget counter reserve summaryId))) convo

theorem estimatedSegments_chained
    (direct : DirectlyAnswered (conversationOf (activeMessages session))) :
    ResultsChained (estimatedSegments session budget counter reserve summaryId) := by
  have alike := sameCalls_list (excerpted_conversation
    (excerptedMessages_excerpted session budget counter reserve summaryId))
  have calls : CallsIdentified (flatten (estimatedSegments session budget counter reserve
    summaryId)) := estimatedSegments_identified identified
  intro result member id answers
  rw [estimatedSegments_flatten] at member calls
  obtain ⟨part, listed, rest⟩ := answered_together (conversationOf_spoken _) calls
    (directlyAnswered_sameCalls alike direct) member answers
  exact ⟨estimateSegment counter part, mem_map_of_mem listed, rest⟩

theorem direct_keeps (direct : DirectlyAnswered (conversationOf (activeMessages session)))
    (ran : prepareHybridContextWithFixedTokens session budget counter reserve summaryId =
      .ok context) : KeepsToolChains session context := by
  obtain ⟨systemTokens, same⟩ := prepared_fitWindow ran
  have messages := fitWindow_messages session budget counter reserve systemTokens summaryId
  rw [← same] at messages
  have calls : CallsIdentified (flatten (estimatedSegments session budget counter reserve
    summaryId)) := estimatedSegments_identified identified
  have chained : ResultsChained (estimatedSegments session budget counter reserve summaryId) :=
    estimatedSegments_chained identified direct
  have shares : SharedOut _ _ (estimatedSegments session budget counter reserve summaryId) :=
    selectSegments_shares (budget.maxRequestInputTokens - systemTokens -
      summaryTokens session counter summaryId)
  have within := sharedOut_sublist shares
  have inside := sharedOut_sublist (sharedOut_flatMap (·.messages) shares)
  constructor
  · intro before result after id whole answers
    have member : result ∈ context.messages := by
      rw [whole]
      exact mem_append_right _ mem_cons_self
    rw [messages] at member
    cases mem_append.1 member with
    | inl front => exact absurd answers (front_silent front id).2
    | inr window =>
      obtain ⟨call, issues, ordered⟩ := selected_preceded within calls chained window answers
      have apart : context.messages.Pairwise (fun m n => ∀ id, ¬ (Answers m id ∧ Answers n id)) := by
        rw [messages]
        refine pairwise_append.2 ⟨?_, calls.answered.sublist inside, ?_⟩
        · exact pairwise_of_forall_mem_list
            (fun message front _ _ id both => (front_silent front id).2 both.1)
        · intro message front other _ id both
          exact (front_silent front id).2 both.1
      have fresh : result ∉ after := by
        intro again
        rw [whole] at apart
        exact (pairwise_cons.1 (pairwise_append.1 apart).2.1).1 result again id
          ⟨answers, answers⟩
      refine ⟨call, before_of_sublist fresh ?_, issues⟩
      rw [← whole, messages]
      exact ordered.trans (sublist_append_right _ _)
  · intro call member id issues result active answers
    rw [messages] at member
    cases mem_append.1 member with
    | inl front => exact absurd issues (front_silent front id).1
    | inr window =>
      have convo : result ∈ conversationOf (activeMessages session) := by
        refine mem_filter.2 ⟨active, ?_⟩
        rw [answers.1]
        rfl
      obtain ⟨kept, listed, excerpt⟩ := forall₂_mem_left (excerpted_conversation
        (excerptedMessages_excerpted session budget counter reserve summaryId)) result convo
      rw [← estimatedSegments_flatten] at listed
      have replies := ((sameCalls_excerpted excerpt).2 id).1 answers
      refine ⟨kept, ?_, excerpt⟩
      rw [messages]
      exact mem_append_right _
        (selected_together within calls chained window issues listed replies)

end

def usesCall (id : String) (message : Message) : Nat :=
  (if Issues message id then 1 else 0) + (if Answers message id then 1 else 0)

theorem exactSum_usesCall (id : String) (messages : List Message) :
    exactSum (usesCall id) messages =
      messages.countP (fun m => Issues m id) + messages.countP (fun m => Answers m id) := by
  induction messages with
  | nil => rfl
  | cons message rest ih =>
    have here : exactSum (usesCall id) (message :: rest) =
        usesCall id message + exactSum (usesCall id) rest := sum_cons
    rw [here, countP_cons, countP_cons, usesCall]
    simp only [decide_eq_true_eq]
    omega

theorem countP_le_one {α : Type} {test : α → Bool} {items : List α}
    (apart : items.Pairwise (fun a b => ¬ (test a = true ∧ test b = true))) :
    items.countP test ≤ 1 := by
  induction items with
  | nil => exact Nat.zero_le 1
  | cons item rest ih =>
    obtain ⟨first, others⟩ := pairwise_cons.1 apart
    rw [countP_cons]
    split
    · next holds =>
      have none : rest.countP test = 0 := by
        rw [countP_eq_zero]
        intro other member also
        exact first other member ⟨holds, also⟩
      omega
    · exact ih others

theorem calls_counted (identified : CallsIdentified messages) (id : String) :
    messages.countP (fun m => Issues m id) ≤ 1 ∧ messages.countP (fun m => Answers m id) ≤ 1 := by
  constructor
  · apply countP_le_one
    exact identified.issued.imp (fun apart both =>
      apart id ⟨of_decide_eq_true both.1, of_decide_eq_true both.2⟩)
  · apply countP_le_one
    exact identified.answered.imp (fun apart both =>
      apart id ⟨of_decide_eq_true both.1, of_decide_eq_true both.2⟩)

theorem callsIdentified_sublist (inside : part.Sublist whole) (identified : CallsIdentified whole) :
    CallsIdentified part :=
  ⟨identified.issued.sublist inside, identified.answered.sublist inside⟩

theorem answer_position {id : String} (identified : CallsIdentified messages)
    (one : messages = before ++ result :: after) (other : messages = before' ++ result' :: after')
    (answers : Answers result id) (answers' : Answers result' id) : before = before' := by
  have apart := identified.answered
  rw [one] at apart
  have later := (pairwise_cons.1 (pairwise_append.1 apart).2.1).1
  have earlier := (pairwise_append.1 apart).2.2
  rw [one] at other
  obtain ⟨middle, first, second⟩ | ⟨middle, first, second⟩ := append_eq_append_iff.1 other
  · cases middle with
    | nil => rw [first, append_nil]
    | cons head rest =>
      have tail := (List.cons.inj second).2
      refine absurd ⟨answers, answers'⟩ (later result' ?_ id)
      rw [tail]
      exact mem_append_right _ mem_cons_self
  · cases middle with
    | nil => rw [first, append_nil]
    | cons head rest =>
      have head' := (List.cons.inj second).1
      refine absurd ⟨answers', answers⟩ (earlier result' ?_ result mem_cons_self id)
      rw [first, head']
      exact mem_append_right _ mem_cons_self

theorem part_usesCall {id : String} (spoken : ∀ message ∈ messages, message.role ≠ .system)
    (identified : CallsIdentified messages) (member : part ∈ segment messages)
    (twice : 2 ≤ exactSum (usesCall id) part.messages) :
    ∃ before result after, messages = before ++ result :: after ∧ Answers result id ∧
      OpenFor before id := by
  have flat := segment_flatten spoken
  have inside : part.messages.Sublist messages := by
    rw [← flat]
    exact sublist_flatten_of_mem (mem_map_of_mem member)
  obtain ⟨issuedOnce, answeredOnce⟩ :=
    calls_counted (callsIdentified_sublist inside identified) id
  rw [exactSum_usesCall] at twice
  obtain ⟨call, called, issues⟩ :=
    countP_pos_iff.1 (show 0 < part.messages.countP (fun m => Issues m id) by omega)
  obtain ⟨result, resulted, answers⟩ :=
    countP_pos_iff.1 (show 0 < part.messages.countP (fun m => Answers m id) by omega)
  have issues := of_decide_eq_true issues
  have answers := of_decide_eq_true answers
  obtain ⟨head, results, shape, own⟩ := segment_chained spoken part member
  rw [shape] at called resulted
  have opens : Issues head id := by
    cases mem_cons.1 called with
    | inl same => exact same ▸ issues
    | inr later =>
      obtain ⟨other, replies, _⟩ := own call later
      exact absurd replies (not_answers_of_issues issues)
  have later : result ∈ results := by
    cases mem_cons.1 resulted with
    | inl same => exact absurd (same ▸ answers) (not_answers_of_issues opens)
    | inr later => exact later
  obtain ⟨earlier, rest, cut⟩ := append_of_mem later
  obtain ⟨front, back, listed⟩ := append_of_mem member
  refine ⟨flatten front ++ head :: earlier, result, rest ++ flatten back, ?_, answers,
    flatten front, head, earlier, rfl, opens, ?_⟩
  · have whole : messages = flatten (front ++ part :: back) := by
      rw [← listed, flat]
    rw [whole, flatten_append]
    have tail : flatten (part :: back) = part.messages ++ flatten back := flatMap_cons
    rw [tail, shape, cut]
    simp
  · intro other early
    apply own other
    rw [cut]
    exact mem_append_left _ early

section Necessary
variable {id : String}

/-- A limit of one token, and a counter that counts the uses of one call id only. -/
def oneToken : TokenBudget := .withSafetyMargin 1 0 0

def callCounter (id : String) : TokenCounter := .perMessage (usesCall id) (fun _ => 0)

theorem usesCall_silent
    (silent : ∀ message ∈ messages, ¬ Issues message id ∧ ¬ Answers message id) :
    exactSum (usesCall id) messages = 0 := by
  have issued : messages.countP (fun m => Issues m id) = 0 := by
    rw [countP_eq_zero]
    intro message member holds
    exact (silent message member).1 (of_decide_eq_true holds)
  have answered : messages.countP (fun m => Answers m id) = 0 := by
    rw [countP_eq_zero]
    intro message member holds
    exact (silent message member).2 (of_decide_eq_true holds)
  rw [exactSum_usesCall, issued, answered]

theorem callCounter_fits (identified : CallsIdentified (activeMessages session)) :
    SumsFit session oneToken (usesCall id) (fun _ => 0) 0 "" := by
  have summary : exactSum (usesCall id) (summaryMessage session "").toList = 0 :=
    usesCall_silent (fun message member => front_silent (mem_append_right _ member) id)
  have small : ∀ messages, CallsIdentified messages → exactSum (usesCall id) messages ≤ 2 := by
    intro messages calls
    have counted := calls_counted calls id
    rw [exactSum_usesCall]
    omega
  have room : 2 ≤ u32Max := by decide
  constructor
  · have active := small _ identified
    omega
  · have window := small _ (callsIdentified_sameCalls (sameCalls_list
      (windowMessages_excerpted session oneToken (usesCall id) (fun _ => 0) 0 "")) identified)
    omega

theorem oneToken_context (identified : CallsIdentified (activeMessages session))
    (light : ∀ part ∈ segment (conversationOf
      (excerptedMessages session oneToken (callCounter id) 0 "").2),
      exactSum (usesCall id) part.messages ≤ 1)
    (used : 1 ≤ exactSum (usesCall id) (conversationOf
      (excerptedMessages session oneToken (callCounter id) 0 "").2)) :
    ∃ context window, prepareHybridContext session oneToken (callCounter id) "" = .ok context ∧
      context.messages = systemsOf (activeMessages session) ++
        (summaryMessage session "").toList ++ window ∧
      exactSum (usesCall id) window = 1 := by
  have fits : SumsFit session oneToken (usesCall id) (fun _ => 0) 0 "" :=
    callCounter_fits identified
  have front : exactSum (usesCall id) (systemsOf (activeMessages session) ++
      (summaryMessage session "").toList) = 0 :=
    usesCall_silent (fun message member => front_silent member id)
  rw [exactSum_append] at front
  have nothing : requiredTokens session (usesCall id) 0 "" = 0 := by
    rw [requiredTokens]
    omega
  have systems : exactSum (usesCall id) (systemsOf (activeMessages session)) + 0 = 0 := by
    omega
  have summary : summaryTokens session (callCounter id) "" = 0 := by
    have exact := (required_exact fits).2.1
    exact exact.trans (by omega)
  have outcome := prepare_outcome fits
  rw [nothing, systems] at outcome
  have messages := fitWindow_messages session oneToken (callCounter id) 0 0 ""
  rw [summary] at messages
  have flat := segment_flatten (conversationOf_spoken
    (excerptedMessages session oneToken (callCounter id) 0 "").2)
  have small : exactSum (usesCall id) (flatten (segment (conversationOf
      (excerptedMessages session oneToken (callCounter id) 0 "").2))) ≤ u32Max := by
    have bound := window_parts fits
    rw [nothing, zero_add] at bound
    rw [flat]
    exact bound
  rw [← flat] at used
  have above := selection_above (fun _ => 0) 1 small light used
  have below := (selection_messages (fun _ => 0) 1 small).2.2
  exact ⟨_, _, outcome, messages, le_antisymm below above⟩

theorem used_of_mem (member : message ∈ messages) (uses : 1 ≤ usesCall id message) :
    1 ≤ exactSum (usesCall id) messages := by
  exact uses.trans (le_sum_of_mem (mem_map_of_mem member))

theorem usesCall_answers (answers : Answers message id) : 1 ≤ usesCall id message := by
  rw [usesCall, if_pos answers]
  omega

theorem usesCall_both (called : call ∈ messages) (issues : Issues call id)
    (resulted : result ∈ messages) (answers : Answers result id) :
    2 ≤ exactSum (usesCall id) messages := by
  have one : 0 < messages.countP (fun m => Issues m id) :=
    countP_pos_iff.2 ⟨call, called, decide_eq_true issues⟩
  have other : 0 < messages.countP (fun m => Answers m id) :=
    countP_pos_iff.2 ⟨result, resulted, decide_eq_true answers⟩
  rw [exactSum_usesCall]
  omega

theorem not_keeps_one (active : result ∈ activeMessages session) (answers : Answers result id)
    (messages : context.messages = systemsOf (activeMessages session) ++
      (summaryMessage session summaryId).toList ++ window)
    (one : exactSum (usesCall id) window = 1) : ¬ KeepsToolChains session context := by
  intro keeps
  have inWindow : ∀ message ∈ context.messages, Issues message id ∨ Answers message id →
      message ∈ window := by
    intro message member uses
    rw [messages] at member
    cases mem_append.1 member with
    | inl front =>
      have silent := front_silent front id
      exact absurd uses (not_or.2 silent)
    | inr inside => exact inside
  have within : ∀ message ∈ window, message ∈ context.messages := by
    intro message member
    rw [messages]
    exact mem_append_right _ member
  have counted := exactSum_usesCall id window
  have either : 0 < window.countP (fun m => Issues m id) ∨
      0 < window.countP (fun m => Answers m id) := by omega
  have both : ∃ call ∈ window, Issues call id ∧ ∃ kept ∈ window, Answers kept id := by
    cases either with
    | inl issued =>
      obtain ⟨call, member, issues⟩ := countP_pos_iff.1 issued
      have issues := of_decide_eq_true issues
      obtain ⟨kept, listed, excerpt⟩ :=
        keeps.together call (within call member) id issues result active answers
      have replies := ((sameCalls_excerpted excerpt).2 id).1 answers
      exact ⟨call, member, issues, kept, inWindow kept listed (.inr replies), replies⟩
    | inr answered =>
      obtain ⟨kept, member, replies⟩ := countP_pos_iff.1 answered
      have replies := of_decide_eq_true replies
      obtain ⟨before, after, whole⟩ := append_of_mem (within kept member)
      obtain ⟨call, earlier, issues⟩ := keeps.preceded before kept after id whole replies
      have listed : call ∈ context.messages := by
        rw [whole]
        exact mem_append_left _ earlier
      exact ⟨call, inWindow call listed (.inl issues), issues, kept, member, replies⟩
  obtain ⟨call, called, issues, kept, resulted, replies⟩ := both
  have two := usesCall_both called issues resulted replies
  omega

theorem keeps_direct (identified : CallsIdentified (activeMessages session))
    (keeps : ∀ budget counter summaryId context,
      prepareHybridContext session budget counter summaryId = .ok context →
        KeepsToolChains session context) :
    DirectlyAnswered (conversationOf (activeMessages session)) := by
  intro before result after id whole answers
  have alike := sameCalls_list (excerpted_conversation
    (excerptedMessages_excerpted session oneToken (callCounter id) 0 ""))
  have calls := callsIdentified_sameCalls alike
    (callsIdentified_sublist filter_sublist identified)
  obtain ⟨before', result', after', whole', fronts, pair, _⟩ := forall₂_split before
    (by rw [← whole]; exact alike.flip)
  have answers' := (pair.2 id).1 answers
  by_contra shut
  have light : ∀ part ∈ segment (conversationOf
      (excerptedMessages session oneToken (callCounter id) 0 "").2),
      exactSum (usesCall id) part.messages ≤ 1 := by
    intro part member
    by_contra more
    have twice : 2 ≤ exactSum (usesCall id) part.messages := by omega
    obtain ⟨front, reply, back, position, replies, opened⟩ :=
      part_usesCall (conversationOf_spoken _) calls member twice
    have same := answer_position calls whole' position answers' replies
    rw [← same] at opened
    exact shut (openFor_sameCalls fronts.flip opened)
  have listed : result' ∈ conversationOf
      (excerptedMessages session oneToken (callCounter id) 0 "").2 := by
    rw [whole']
    exact mem_append_right _ mem_cons_self
  obtain ⟨context, window, ran, messages, one⟩ := oneToken_context identified light
    (used_of_mem listed (usesCall_answers answers'))
  have active : result ∈ activeMessages session := by
    have convo : result ∈ conversationOf (activeMessages session) := by
      rw [whole]
      exact mem_append_right _ mem_cons_self
    exact (mem_filter.1 convo).1
  exact not_keeps_one active answers messages one
    (keeps oneToken (callCounter id) "" context ran)

end Necessary

/-- A session's calls and results stay together for every budget and counter exactly when
    every active result directly follows its call. -/
theorem chains_kept_iff (session : Session)
    (identified : CallsIdentified (activeMessages session)) :
    (∀ budget counter summaryId context,
      prepareHybridContext session budget counter summaryId = .ok context →
        KeepsToolChains session context) ↔
      DirectlyAnswered (conversationOf (activeMessages session)) := by
  constructor
  · intro keeps
    exact keeps_direct identified keeps
  · intro direct budget counter summaryId context ran
    exact direct_keeps identified direct ran

/-- The result of the sample's only call stands right after it. -/
theorem Sample.toolTurn_direct :
    DirectlyAnswered (conversationOf (activeMessages Sample.toolTurn)) := by
  intro before result after id whole answers
  rcases before with _ | ⟨first, _ | ⟨second, _ | ⟨third, rest⟩⟩⟩
  · cases whole
    cases answers.1
  · cases whole
    cases answers.1
  · cases whole
    cases answers.2
    exact ⟨[_], _, [], rfl, by decide, fun _ member => absurd member not_mem_nil⟩
  · cases rest with
    | nil => cases whole; cases answers.1
    | cons _ rest => cases rest <;> cases whole

theorem Sample.single_identified (call result : Message)
    (callers : ∀ message ∈ messages, message.role = .assistant → message = call)
    (results : ∀ message ∈ messages, message.role = .tool → message = result)
    (distinct : messages.Nodup) : CallsIdentified messages := by
  constructor
  · refine List.Pairwise.imp_of_mem ?_ distinct
    intro m n left right apart id both
    exact apart ((callers m left both.1.1).trans (callers n right both.2.1).symm)
  · refine List.Pairwise.imp_of_mem ?_ distinct
    intro m n left right apart id both
    exact apart ((results m left both.1.1).trans (results n right both.2.1).symm)

theorem chains_kept_iff_toolTurn :
    DirectlyAnswered (conversationOf (activeMessages Sample.toolTurn)) ∧
      ∀ budget counter summaryId context,
        prepareHybridContext Sample.toolTurn budget counter summaryId = .ok context →
          KeepsToolChains Sample.toolTurn context := by
  have identified : CallsIdentified (activeMessages Sample.toolTurn) :=
    Sample.single_identified (.assistant "a1" "a" (some [Sample.call]))
      (.toolResult "t1" "c" "tttt") (by decide) (by decide) (by decide)
  exact ⟨Sample.toolTurn_direct,
    (chains_kept_iff Sample.toolTurn identified).mpr Sample.toolTurn_direct⟩

/-- A user message comes between a call and its result. -/
def Sample.interrupted : Session :=
  .ofMessages [.assistant "a1" "aa" (some [Sample.call]), .user "u1" "u",
    .toolResult "t1" "c" "tt"]

/-- The call is dropped as the oldest tool chain and its result is kept. -/
theorem interrupted_call_splits :
    CallsIdentified (activeMessages Sample.interrupted) ∧
      ∃ context, prepareHybridContext Sample.interrupted (.withSafetyMargin 4 0 0)
          (.perMessage (fun m => charCount m.content) charCount) "summary" = .ok context ∧
        context.messages = [.user "u1" "u", .toolResult "t1" "c" "tt"] ∧
        ¬ KeepsToolChains Sample.interrupted context := by
  refine ⟨Sample.single_identified (.assistant "a1" "aa" (some [Sample.call]))
    (.toolResult "t1" "c" "tt") (by decide) (by decide) (by decide), ?_⟩
  have messages : (prepareHybridContext Sample.interrupted (.withSafetyMargin 4 0 0)
      (.perMessage (fun m => charCount m.content) charCount) "summary").toOption.map
        (·.messages) = some [.user "u1" "u", .toolResult "t1" "c" "tt"] := by
    decide
  cases ran : prepareHybridContext Sample.interrupted (.withSafetyMargin 4 0 0)
      (.perMessage (fun m => charCount m.content) charCount) "summary" with
  | error failure =>
    rw [ran] at messages
    cases messages
  | ok context =>
    rw [ran] at messages
    have kept : context.messages = [.user "u1" "u", .toolResult "t1" "c" "tt"] :=
      Option.some.inj messages
    refine ⟨context, rfl, kept, fun keeps => ?_⟩
    obtain ⟨call, earlier, issues⟩ := keeps.preceded [.user "u1" "u"] (.toolResult "t1" "c" "tt")
      [] "c" kept (by decide)
    cases List.mem_singleton.mp earlier
    cases issues.1

end Compression
