import BambooAgent.Compression.RetrievalPlanned

/- Planner and applier agree: a plan that the planner returns for a session passes every
   check of the applier on that session, and archives what it names. -/
namespace Compression
open List hiding after
open Checks Splits Bool

/-- A group as the applier rebuilds it, which counts no tokens. -/
def uncounted (group : LogicalGroup) : LogicalGroup := { group with tokenCount := 0 }

section Uncounted
variable (groups : List LogicalGroup) (minRecentUserTurns : Nat)

theorem markProtocolSafety_uncounted :
    markProtocolSafety (groups.map uncounted) = (markProtocolSafety groups).map uncounted := by
  have scans : (groups.map uncounted).map scanGroup = groups.map scanGroup := by
    rw [map_map]
    rfl
  unfold markProtocolSafety
  rw [scans, map_map, map_map]
  rfl

theorem userGroupIndexes_uncounted :
    userGroupIndexes (groups.map uncounted) = userGroupIndexes groups := by
  rw [userGroupIndexes_eq, userGroupIndexes_eq, map_map]
  rfl

theorem markProtectedGroups_uncounted :
    markProtectedGroups (groups.map uncounted) minRecentUserTurns =
      (markProtectedGroups groups minRecentUserTurns).map uncounted := by
  unfold markProtectedGroups
  rw [userGroupIndexes_uncounted, zipIdx_map, map_map, map_map]
  rfl

theorem markedGroups_uncounted :
    markedGroups (groups.map uncounted) minRecentUserTurns =
      (markedGroups groups minRecentUserTurns).map uncounted := by
  rw [markedGroups, markProtocolSafety_uncounted, markProtectedGroups_uncounted]
  rfl

variable (selected : List Nat)

theorem retainedGroups_uncounted :
    retainedGroups (groups.map uncounted) selected =
      (retainedGroups groups selected).map (Prod.map uncounted id) := by
  rw [retainedGroups, zipIdx_map, filter_map]
  rfl

theorem selectedGroups_uncounted (candidateIds : List String)
    (entries : List (LogicalGroup × Nat)) :
    selectedGroups candidateIds (entries.map (Prod.map uncounted id)) =
      selectedGroups candidateIds entries := by
  induction entries with
  | nil => rfl
  | cons entry rest ih =>
    rw [map_cons, selectedGroups, ih]
    rfl

theorem validateSelection_uncounted (digests : Digests) (session : Session)
    (plan : RetrievalWindowCandidatePlan) :
    validateSelection digests session plan (groups.map uncounted) selected =
      validateSelection digests session plan groups selected := by
  have incomplete : incompleteProtocolGroups (groups.map uncounted) =
      incompleteProtocolGroups groups := by
    rw [incompleteProtocolGroups, countP_map]
    rfl
  have covered : ((groups.map uncounted).zipIdx.filter
        (fun entry => selected.contains entry.2)).flatMap
        (fun entry => entry.1.messages.map (·.message.id)) =
      (groups.zipIdx.filter (fun entry => selected.contains entry.2)).flatMap
        (fun entry => entry.1.messages.map (·.message.id)) := by
    rw [zipIdx_map, filter_map, flatMap_map]
    rfl
  have oldestFirst : ∀ count, ((groups.map uncounted).zipIdx.take count).any
        (fun entry => !entry.1.isProtected && !selected.contains entry.2) =
      (groups.zipIdx.take count).any
        (fun entry => !entry.1.isProtected && !selected.contains entry.2) := by
    intro count
    rw [zipIdx_map, ← map_take, any_map]
    rfl
  have opened : (fun index : Nat => (((groups.map uncounted)[index]?).bind
        (·.userMessageId)).isSome) =
      (fun index => ((groups[index]?).bind (·.userMessageId)).isSome) := by
    funext index
    rw [List.getElem?_map]
    cases groups[index]? <;> rfl
  have turns : retainedUserTurnCount (groups.map uncounted) selected =
      retainedUserTurnCount groups selected := by
    rw [retainedUserTurnCount, retainedGroups_uncounted, countP_map]
    rfl
  have oldest : oldestRetainedMessageId (groups.map uncounted) selected =
      oldestRetainedMessageId groups selected := by
    rw [oldestRetainedMessageId, retainedGroups_uncounted, flatMap_map]
    rfl
  have oldestUser : oldestRetainedUserMessageId (groups.map uncounted) selected =
      oldestRetainedUserMessageId groups selected := by
    rw [oldestRetainedUserMessageId, oldestRetainedUserMessageId, retainedGroups_uncounted,
      List.find?_map]
    have same : (fun entry : LogicalGroup × Nat => entry.1.userMessageId.isSome) ∘
        Prod.map uncounted id = fun entry => entry.1.userMessageId.isSome := rfl
    rw [same]
    cases (retainedGroups groups selected).find? (fun entry => entry.1.userMessageId.isSome) <;> rfl
  unfold validateSelection
  simp only [incomplete, covered, oldestFirst, opened, turns, oldest, oldestUser]

end Uncounted

def planTarget (budget : TokenBudget) (policy : RetrievalWindowPolicy)
    (archiveAllEligible : Bool) (measured : Measured) : Nat :=
  if archiveAllEligible then measured.minimumProjectedActiveTokens
  else effectiveRetrievalWindowTargetTokens budget policy.targetUsagePercent

/-- The run of the planner behind a plan. -/
structure Built (digests : Digests) (session : Session) (budget : TokenBudget)
    (policy : RetrievalWindowPolicy) (accounting : RetrievalWindowTokenAccounting)
    (archiveAllEligible : Bool) (counter : TokenCounter) (plan : RetrievalWindowCandidatePlan)
    (measured : Measured) (counted : List LogicalGroup) (selection : Selection)
    (before after : List (LogicalGroup × Nat)) : Prop where
  floor : policy.minRecentUserTurns ≠ 0
  percent : ¬ (policy.targetUsagePercent < 1 ∨ 100 < policy.targetUsagePercent)
  window : ¬ (budget.maxContextTokens = 0 ∨ budget.maxRequestInputTokens = 0)
  facts : MeasuredFacts session policy accounting counter measured counted
  fits : ¬ (archiveAllEligible = true ∧
    budget.maxRequestInputTokens < measured.minimumProjectedActiveTokens)
  overrun : ¬ measured.activeTokensBefore ≤ planTarget budget policy archiveAllEligible measured
  entries : measured.groups.zipIdx = before ++ after
  taken : Extended
    { selectedGroupIndexes := [], messageIdsToArchive := [], archiveMessageTokens := 0,
      projectedActiveTokensAfter := measured.postBoundaryActiveTokens, archiveUserTurnCount := 0 }
    (eligible before) selection
  something : selection.messageIdsToArchive ≠ []
  landed : ¬ planTarget budget policy archiveAllEligible measured <
    selection.projectedActiveTokensAfter
  sealed : plan = sealPlan digests session budget policy accounting measured
    (planTarget budget policy archiveAllEligible measured) selection

theorem build_ok
    (run : buildRetrievalWindowCandidatePlanWithCounter digests session budget policy accounting
      archiveAllEligible counter = .ok plan) :
    ∃ measured counted selection before after, Built digests session budget policy accounting
      archiveAllEligible counter plan measured counted selection before after := by
  obtain ⟨_, inputs, run⟩ := bind_eq_ok.1 run
  obtain ⟨_, floor, inputs⟩ := bind_eq_ok.1 inputs
  obtain ⟨_, percent, window⟩ := bind_eq_ok.1 inputs
  obtain ⟨measured, measuring, run⟩ := bind_eq_ok.1 run
  obtain ⟨_, fits, run⟩ := bind_eq_ok.1 run
  obtain ⟨_, overrun, run⟩ := bind_eq_ok.1 run
  obtain ⟨selection, selecting, run⟩ := bind_eq_ok.1 run
  obtain ⟨_, something, run⟩ := bind_eq_ok.1 run
  obtain ⟨_, landed, run⟩ := bind_eq_ok.1 run
  obtain ⟨counted, facts⟩ := measure_ok measuring
  obtain ⟨before, after, entries, taken⟩ := selectGroups_ok _ _ _ _ selecting
  exact ⟨measured, counted, selection, before, after, refuse_eq_ok.1 floor,
    refuse_eq_ok.1 percent, refuse_eq_ok.1 window, facts, refuse_eq_ok.1 fits,
    refuse_eq_ok.1 overrun, entries, taken, refuse_eq_ok.1 something, refuse_eq_ok.1 landed,
    (pure_eq_ok.1 run).symm⟩

section MeasuredGroups
variable (facts : MeasuredFacts session policy accounting counter measured counted)
include facts

theorem counted_uncounted : counted.map uncounted = (buildLogicalGroups session).groups := by
  have fresh := (buildLogicalGroups_grouped session).fresh
  have related := facts.counts
  clear facts
  generalize (buildLogicalGroups session).groups = groups at fresh related
  induction related with
  | nil => rfl
  | cons here _ ih =>
    obtain ⟨tokenCount, _, same⟩ := countGroup_ok here
    rw [map_cons, ih (fun group member => fresh group (mem_cons_of_mem _ member)), same]
    have zero := (fresh _ mem_cons_self).2.2
    rw [uncounted, ← zero]

theorem applier_groups :
    markedGroups (buildLogicalGroups session).groups policy.minRecentUserTurns =
      measured.groups.map uncounted := by
  rw [← counted_uncounted facts, markedGroups_uncounted, facts.groups]

theorem measured_messages :
    measured.groups.flatMap (·.messages) =
      (activeIndexed session).filter (fun indexed => !isSystem indexed) := by
  have whole := (buildLogicalGroups_grouped session).turns
  rw [← counted_uncounted facts, flatMap_map] at whole
  rw [facts.groups, flatMap_def, markedGroups_map (fun _ _ _ => rfl)]
  exact whole

theorem measured_group (member : group ∈ measured.groups)
    (costs : ∀ indexed ∈ group.messages, CostsToken accounting counter indexed.message) :
    group.messages ≠ [] ∧ group.messages.length ≤ group.tokenCount := by
  have same : (markedGroups counted policy.minRecentUserTurns).map
        (fun group => (group.messages, group.tokenCount)) =
      counted.map (fun group => (group.messages, group.tokenCount)) :=
    markedGroups_map (fun _ _ _ => rfl)
  rw [← facts.groups] at same
  have present : (group.messages, group.tokenCount) ∈
      counted.map (fun group => (group.messages, group.tokenCount)) := by
    rw [← same]
    exact mem_map.2 ⟨group, member, rfl⟩
  obtain ⟨result, counts, equal⟩ := mem_map.1 present
  obtain ⟨original, known, here⟩ := related_of_mem facts.counts counts
  obtain ⟨tokenCount, total, counting⟩ := countGroup_ok here
  rw [counting] at equal
  obtain ⟨messages, tokens⟩ := Prod.mk.inj equal
  rw [← messages, ← tokens]
  rw [← messages] at costs
  exact ⟨turnShaped_nonempty ((buildLogicalGroups_grouped session).shaped original known),
    countIndexedMessages_length costs total⟩

theorem measured_active (member : group ∈ measured.groups) (held : indexed ∈ group.messages) :
    indexed.message ∈ activeMessages session := by
  have inside : indexed ∈ measured.groups.flatMap (·.messages) :=
    mem_flatMap.2 ⟨group, member, held⟩
  rw [measured_messages facts] at inside
  obtain ⟨known, live⟩ := mem_filter.1 (mem_filter.1 inside).1
  exact mem_filter.2 ⟨mem_of_getElem? (mem_indexedMessages.1 known), live⟩

theorem measured_userMessageIds :
    measured.groups.map (·.userMessageId) =
      (buildLogicalGroups session).groups.map (·.userMessageId) := by
  rw [facts.groups, markedGroups_map (fun _ _ _ => rfl), ← counted_uncounted facts, map_map]
  rfl

end MeasuredGroups

theorem zipIdx_nodup {α : Type} (items : List α) : items.zipIdx.Nodup := by
  have positions : (items.zipIdx.map (·.2)).Nodup := by
    rw [zipIdx_map_snd]
    exact nodup_range'
  exact positions.of_map

def entryIds (entry : LogicalGroup × Nat) : List String :=
  entry.1.messages.map (fun indexed => indexed.message.id)

section Taken
variable (built : Built digests session budget policy accounting archiveAllEligible counter plan
  measured counted selection before after)
include built

theorem taken_ids : plan.messageIdsToArchive = (eligible before).flatMap entryIds := by
  rw [built.sealed]
  exact built.taken.messageIds

theorem taken_indexes : selection.selectedGroupIndexes = (eligible before).map (·.2) :=
  built.taken.indexes

theorem eligible_among : eligible before ⊆ measured.groups.zipIdx := by
  intro entry member
  rw [built.entries]
  exact mem_append_left _ (mem_filter.1 member).1

theorem taken_something : eligible before ≠ [] := by
  intro none
  apply built.something
  rw [built.taken.messageIds, none]
  rfl

theorem entries_messages :
    measured.groups.zipIdx.flatMap (fun entry => entry.1.messages) =
      (activeIndexed session).filter (fun indexed => !isSystem indexed) := by
  rw [← measured_messages built.facts]
  conv_rhs => rw [← zipIdx_map_fst 0 measured.groups]
  rw [flatMap_map]

theorem entries_distinct (unique : (session.messages.map (·.id)).Nodup) :
    (measured.groups.zipIdx.flatMap entryIds).Nodup := by
  have ids : measured.groups.zipIdx.flatMap entryIds =
      ((activeIndexed session).filter (fun indexed => !isSystem indexed)).map
        (fun indexed => indexed.message.id) := by
    rw [← entries_messages built, map_flatMap]
    rfl
  have all : (indexedMessages session.messages).map (fun indexed => indexed.message.id) =
      session.messages.map (·.id) := by
    conv_rhs => rw [← indexedMessages_message session.messages, map_map]
    rfl
  rw [ids]
  apply List.Nodup.sublist _ unique
  rw [← all]
  exact (filter_sublist.trans filter_sublist).map _

theorem covered_iff (unique : (session.messages.map (·.id)).Nodup)
    (member : entry ∈ measured.groups.zipIdx) :
    (entry ∈ eligible before → coveredCount plan.messageIdsToArchive entry.1 =
        entry.1.messages.length) ∧
      (entry ∉ eligible before → coveredCount plan.messageIdsToArchive entry.1 = 0) := by
  have distinct := entries_distinct built unique
  have among := eligible_among built
  rw [taken_ids built]
  constructor
  · intro taken
    apply countP_eq_length.2
    intro indexed held
    have key : indexed.message.id ∈ entryIds entry := mem_map.2 ⟨indexed, held, rfl⟩
    exact contains_iff_mem.2 ((key_chosen_iff distinct among member key).2 taken)
  · intro left
    apply countP_eq_zero.2
    intro indexed held covered
    have key : indexed.message.id ∈ entryIds entry := mem_map.2 ⟨indexed, held, rfl⟩
    exact left ((key_chosen_iff distinct among member key).1 (contains_iff_mem.1 covered))

theorem filter_taken
    (exact_ : ∀ entry ∈ measured.groups.zipIdx, test entry = true ↔ entry ∈ eligible before) :
    measured.groups.zipIdx.filter test = eligible before := by
  have distinct := zipIdx_nodup measured.groups
  rw [built.entries] at distinct exact_ ⊢
  exact filter_initial distinct exact_

omit built in
theorem taken_free {entry : LogicalGroup × Nat} (member : entry ∈ eligible before) :
    entry.1.isProtected = false := by
  simpa using (mem_filter.1 member).2

theorem applier_selects (unique : (session.messages.map (·.id)).Nodup)
    (nonempty : ∀ group ∈ measured.groups, group.messages ≠ []) :
    selectedGroups plan.messageIdsToArchive measured.groups.zipIdx =
      .ok selection.selectedGroupIndexes := by
  rw [selectedGroups_eq_ok, taken_indexes built]
  have touched : ∀ entry ∈ measured.groups.zipIdx,
      coveredCount plan.messageIdsToArchive entry.1 ≠ 0 ↔ entry ∈ eligible before := by
    intro entry member
    have covered := covered_iff built unique member
    constructor
    · intro some_
      by_contra left
      exact some_ (covered.2 left)
    · intro taken
      rw [covered.1 taken]
      have inside := (mem_zipIdx' member).2
      rw [Ne, length_eq_zero_iff, inside]
      exact nonempty _ (getElem_mem _)
  constructor
  · intro entry member some_
    have taken := (touched entry member).1 some_
    have free := taken_free taken
    rw [built.facts.groups] at member
    obtain ⟨group, mark⟩ := markedGroups_of member
    have facts := unprotected_facts mark free
    refine ⟨(covered_iff built unique ?_).1 taken, ?_, facts.2.2.1, free⟩
    · rw [built.facts.groups]
      exact member
    · rw [mark.protocolSafe]
      exact facts.1
  · rw [filter_taken built]
    intro entry member
    rw [bne_iff_ne]
    exact touched entry member

theorem oldest_first {lastSelected : Nat}
    (last : lastSelected ∈ selection.selectedGroupIndexes) :
    (measured.groups.zipIdx.take (lastSelected + 1)).any (fun entry =>
      !entry.1.isProtected && !selection.selectedGroupIndexes.contains entry.2) = false := by
  rw [taken_indexes built] at last ⊢
  obtain ⟨entry, taken, same⟩ := mem_map.1 last
  have early := (mem_filter.1 taken).1
  obtain ⟨position, below, here⟩ := mem_iff_getElem.1 early
  have found : measured.groups.zipIdx[position]? = some entry := by
    rw [built.entries, List.getElem?_append_left below, List.getElem?_eq_getElem below, here]
  have index : entry.2 = position := by
    rw [List.getElem?_zipIdx] at found
    cases group : measured.groups[position]? with
    | none =>
      rw [group] at found
      cases found
    | some group =>
      rw [group] at found
      rw [← Option.some.inj found]
      exact zero_add position
  have inside : lastSelected + 1 ≤ before.length := by omega
  rw [built.entries, take_append_of_le_length inside, any_eq_false]
  intro other member holds
  have flags := and_eq_true_iff.1 holds
  have eligible_ : other ∈ eligible before := mem_filter.2 ⟨mem_of_mem_take member, flags.1⟩
  have selected : ((eligible before).map (·.2)).contains other.2 = true :=
    contains_iff_mem.2 (mem_map.2 ⟨other, eligible_, rfl⟩)
  rw [selected] at flags
  cases flags.2

theorem taken_userTurns :
    selection.selectedGroupIndexes.countP (fun index =>
      ((measured.groups[index]?).bind (·.userMessageId)).isSome) =
        selection.archiveUserTurnCount := by
  rw [taken_indexes built, built.taken.userTurns, zero_add, countP_map]
  apply countP_congr
  intro entry member
  have found := mem_zipIdx_iff_getElem?.mp (eligible_among built member)
  rw [Function.comp_apply, found]
  rfl

theorem covered_order :
    (measured.groups.zipIdx.filter
        (fun entry => selection.selectedGroupIndexes.contains entry.2)).flatMap
        (fun entry => entry.1.messages.map (·.message.id)) = plan.messageIdsToArchive := by
  rw [filter_taken built, taken_ids built]
  · rfl
  intro entry member
  rw [taken_indexes built, contains_iff_mem, mem_map]
  constructor
  · intro ⟨other, taken, same⟩
    have here := mem_zipIdx_iff_getElem?.mp member
    have there := mem_zipIdx_iff_getElem?.mp (eligible_among built taken)
    rw [same, here] at there
    have equal : entry = other := Prod.ext (Option.some.inj there) same.symm
    rw [equal]
    exact taken
  · intro taken
    exact ⟨entry, taken, rfl⟩

theorem selection_valid :
    validateSelection digests session plan measured.groups selection.selectedGroupIndexes =
      .ok () := by
  have order := covered_order built
  have turns := taken_userTurns built
  have oldest : ∀ lastSelected ∈ selection.selectedGroupIndexes, _ :=
    fun _ last => oldest_first built last
  rw [built.sealed] at order ⊢
  unfold validateSelection
  cases last : selection.selectedGroupIndexes.getLast? with
  | none =>
    have empty := List.getLast?_eq_none_iff.1 last
    rw [taken_indexes built, map_eq_nil_iff] at empty
    exact absurd empty (taken_something built)
  | some lastSelected =>
    have among := mem_of_getLast? last
    simp only [bind_eq_ok, refuse_eq_ok, exists_const]
    refine ⟨not_not.2 rfl, not_not.2 rfl, not_not.2 order, ?_, not_not.2 turns,
      not_not.2 rfl, not_not.2 rfl, not_not.2 rfl, not_not.2 rfl⟩
    rw [oldest lastSelected among]
    exact false_ne_true

theorem recent_retained (recent : index ∈ recentIndexes measured.groups policy.minRecentUserTurns) :
    index ∉ selection.selectedGroupIndexes := by
  intro selected
  rw [taken_indexes built] at selected
  obtain ⟨entry, taken, same⟩ := mem_map.1 selected
  have member := eligible_among built taken
  have sameRecent : recentIndexes measured.groups policy.minRecentUserTurns =
      recentIndexes counted policy.minRecentUserTurns := by
    unfold recentIndexes
    rw [userGroupIndexes_eq, userGroupIndexes_eq, built.facts.groups,
      markedGroups_map (fun _ _ _ => rfl)]
  rw [built.facts.groups] at member
  obtain ⟨group, mark⟩ := markedGroups_of member
  apply (unprotected_facts mark (taken_free taken)).2.2.2
  rw [same, ← sameRecent]
  exact recent

theorem recent_turns_retained :
    min (measured.groups.countP (fun group => group.userMessageId.isSome))
        policy.minRecentUserTurns ≤
      retainedUserTurnCount measured.groups selection.selectedGroupIndexes := by
  have users : measured.groups.countP (fun group => group.userMessageId.isSome) =
      (userGroupIndexes measured.groups).length := by
    rw [userGroupIndexes, length_map, ← countP_eq_length_filter]
    conv_lhs => rw [← zipIdx_map_fst 0 measured.groups, countP_map]
    rfl
  have kept : retainedUserTurnCount measured.groups selection.selectedGroupIndexes =
      (userGroupIndexes measured.groups).countP
        (fun index => !selection.selectedGroupIndexes.contains index) := by
    rw [retainedUserTurnCount, retainedGroups, userGroupIndexes, countP_map,
      countP_filter, countP_filter]
    apply countP_congr
    intro entry _
    rw [Bool.and_comm]
    rfl
  have recent : (recentIndexes measured.groups policy.minRecentUserTurns).countP
        (fun index => !selection.selectedGroupIndexes.contains index) =
      (recentIndexes measured.groups policy.minRecentUserTurns).length := by
    apply countP_eq_length.2
    intro index member
    simpa using recent_retained built member
  have fewer := List.Sublist.countP_le
    (p := fun index => !selection.selectedGroupIndexes.contains index)
    (drop_sublist ((userGroupIndexes measured.groups).length - policy.minRecentUserTurns)
      (userGroupIndexes measured.groups))
  rw [← recentIndexes, recent, recentIndexes, length_drop] at fewer
  omega

theorem groupTokens_taken :
    groupTokens ((eligible before).map (·.1)) +
      groupTokens (measured.groups.filter (·.isProtected)) ≤ groupTokens measured.groups := by
  have shares := sharedOut_sum (fun group : LogicalGroup => group.tokenCount)
    (sharedOut_filter (fun group : LogicalGroup => group.isProtected) measured.groups)
  have free : measured.groups.filter (fun group => !group.isProtected) =
      (eligible (before ++ after)).map (·.1) := by
    rw [← built.entries]
    conv_lhs => rw [← zipIdx_map_fst 0 measured.groups, filter_map]
    rfl
  rw [free, eligible, filter_append, map_append, map_append, sum_append]
    at shares
  unfold groupTokens eligible
  omega

theorem taken_tokens (nonempty : ∀ group ∈ measured.groups,
      group.messages ≠ [] ∧ group.messages.length ≤ group.tokenCount) :
    (eligible before).length ≤ plan.messageIdsToArchive.length ∧
      plan.messageIdsToArchive.length ≤ groupTokens ((eligible before).map (·.1)) := by
  have known : ∀ entry ∈ eligible before,
      entry.1.messages ≠ [] ∧ entry.1.messages.length ≤ entry.1.tokenCount := by
    intro entry member
    have inside := (mem_zipIdx' (eligible_among built member)).2
    rw [inside]
    exact nonempty _ (getElem_mem _)
  rw [taken_ids built]
  generalize eligible before = taken at known
  induction taken with
  | nil => exact ⟨le_rfl, le_rfl⟩
  | cons entry rest ih =>
    have later := ih (fun other member => known other (mem_cons_of_mem _ member))
    obtain ⟨notEmpty, cost⟩ := known entry mem_cons_self
    have positive := length_pos_of_ne_nil notEmpty
    have ids : (entryIds entry).length = entry.1.messages.length := length_map ..
    have tokens : groupTokens ((entry :: rest).map (·.1)) =
        entry.1.tokenCount + groupTokens (rest.map (·.1)) := rfl
    rw [flatMap_cons, length_append, length_cons]
    omega

theorem active_shared :
    measured.grouping.systemMessages.length + (measured.groups.flatMap (·.messages)).length =
      measured.grouping.activeMessageCount := by
  have grouped := buildLogicalGroups_grouped session
  have shares := sharedOut_perm (sharedOut_filter isSystem (activeIndexed session))
  rw [measured_messages built.facts, built.facts.grouping, grouped.systems, grouped.count,
    ← length_append]
  exact shares.length_eq

theorem taken_active : plan.messageIdsToArchive.length ≤ measured.grouping.activeMessageCount := by
  have shared := active_shared built
  have entries := entries_messages built
  rw [← measured_messages built.facts] at entries
  have part : (eligible before).Sublist measured.groups.zipIdx := by
    rw [built.entries]
    exact filter_sublist.trans (sublist_append_left before after)
  have fewer := (part.flatMap (fun entry => entry.1.messages)).length_le
  rw [entries] at fewer
  have ids : (eligible before).flatMap entryIds =
      ((eligible before).flatMap (fun entry => entry.1.messages)).map
        (fun indexed => indexed.message.id) := by
    rw [map_flatMap]
    rfl
  rw [taken_ids built, ids, length_map]
  omega

theorem overrides_active :
    plan.providerMessageTokenOverrideCount ≤ measured.grouping.activeMessageCount := by
  rw [← active_shared built, ← length_append, built.sealed]
  exact countP_le_length

theorem arithmetic_valid (nonempty : ∀ group ∈ measured.groups,
      group.messages ≠ [] ∧ group.messages.length ≤ group.tokenCount) :
    ∃ usage, validateApplyPlanArithmetic plan = .ok usage := by
  have something := built.something
  have active := taken_active built
  obtain ⟨groups, tokens⟩ := taken_tokens built nonempty
  have recent := recent_turns_retained built
  have share := groupTokens_taken built
  have indexes := congrArg List.length (taken_indexes built)
  have turns := built.taken.userTurns
  have turnsFew := countP_le_length (p := fun entry : LogicalGroup × Nat =>
    entry.1.userMessageId.isSome) (l := eligible before)
  have positive := length_pos_of_ne_nil (taken_something built)
  have projected := built.taken.projected
  have archived := built.taken.archived
  have overrun := built.overrun
  have landed := built.landed
  have post := built.facts.postBoundary
  have beforeSum := built.facts.before
  have protectedSum := built.facts.protectedTokens
  obtain ⟨small, minimum⟩ := built.facts.minimum
  rw [length_map] at indexes
  cases built.sealed
  dsimp only [sealPlan] at projected archived turns groups tokens active
  unfold validateApplyPlanArithmetic
  simp only [bind_eq_ok, refuse_eq_ok, checkedAdd_eq_ok, checkedSub_eq_ok, pure_eq_ok,
    exists_const]
  dsimp only [sealPlan]
  have percent := built.percent
  have window := built.window
  have fits : budget.maxRequestInputTokens ≤ budget.maxContextTokens := by
    unfold TokenBudget.maxRequestInputTokens
    omega
  refine ⟨_, something, fun other => other rfl, by omega, by omega, by omega, percent,
    built.floor, by omega, _, ⟨small, rfl⟩, ?_, ?_, by omega, by omega, _,
    ⟨by omega, rfl⟩, by omega, _, ⟨by omega, rfl⟩, rfl⟩
  · rintro ⟨high, notSealed⟩
    unfold planTarget at notSealed landed
    cases archiveAllEligible with
    | true =>
      have full : ¬ budget.maxRequestInputTokens < measured.minimumProjectedActiveTokens :=
        fun less => built.fits ⟨rfl, less⟩
      simp only [if_true] at notSealed landed
      omega
    | false =>
      exact absurd high (lt_irrefl _)
  · omega

theorem evidence_valid : validatePlanEvidence digests plan = .ok () := by
  rw [validatePlanEvidence, refuse_eq_ok, built.sealed]
  exact not_not.2 rfl

theorem structure_valid (unique : (session.messages.map (·.id)).Nodup)
    (nonempty : ∀ group ∈ measured.groups, group.messages ≠ []) :
    validateActivePlanStructure digests session plan = .ok () := by
  have overrides := overrides_active built
  have selects := applier_selects built unique nonempty
  have valid := selection_valid built
  have users : (markProtocolSafety (buildLogicalGroups session).groups).countP
        (fun group => group.userMessageId.isSome) =
      measured.groups.countP (fun group => group.userMessageId.isSome) := by
    have ids := measured_userMessageIds built.facts
    have count : ∀ groups : List LogicalGroup,
        groups.countP (fun group => group.userMessageId.isSome) =
          (groups.map (·.userMessageId)).countP Option.isSome := by
      intro groups
      rw [countP_map]
      rfl
    rw [count, count, ids, markProtocolSafety_map (fun _ _ => rfl)]
  have floor : plan.minRecentUserTurns = policy.minRecentUserTurns := by
    rw [built.sealed]
    rfl
  have retained : plan.retainedRecentUserTurnCount =
      min (measured.groups.countP (fun group => group.userMessageId.isSome))
        policy.minRecentUserTurns := by
    rw [built.sealed]
    rfl
  have active : plan.activeMessageCount = (buildLogicalGroups session).activeMessageCount := by
    rw [built.sealed, ← built.facts.grouping]
    rfl
  rw [built.facts.grouping] at overrides
  unfold validateActivePlanStructure
  dsimp only
  rw [users, floor, retained, active, ← markedGroups, applier_groups built.facts,
    zipIdx_map]
  refine bind_eq_ok.2 ⟨(), refuse_eq_ok.2 (not_not.2 rfl), bind_eq_ok.2
    ⟨(), refuse_eq_ok.2 (by omega), bind_eq_ok.2
    ⟨(), refuse_eq_ok.2 (not_not.2 rfl), bind_eq_ok.2
    ⟨selection.selectedGroupIndexes, ?_, ?_⟩⟩⟩⟩
  · rw [selectedGroups_uncounted]
    exact selects
  · rw [validateSelection_uncounted]
    exact valid

/-- Where the archived messages stand, in session order. -/
def takenIndexed (before : List (LogicalGroup × Nat)) : List IndexedMessage :=
  (eligible before).flatMap (fun entry => entry.1.messages)

theorem takenIndexed_sublist :
    (takenIndexed before).Sublist
      ((activeIndexed session).filter (fun indexed => !isSystem indexed)) := by
  have part : (eligible before).Sublist measured.groups.zipIdx := by
    rw [built.entries]
    exact filter_sublist.trans (sublist_append_left before after)
  rw [← entries_messages built]
  exact part.flatMap _

theorem takenIndexed_ids :
    plan.messageIdsToArchive = (takenIndexed before).map (fun indexed => indexed.message.id) := by
  rw [taken_ids built, takenIndexed, map_flatMap]
  rfl

theorem takenIndexed_found (member : indexed ∈ takenIndexed before) :
    session.messages[indexed.sessionIndex]? = some indexed.message ∧
      indexed.message.compressed = false ∧ indexed.message.role ≠ .system := by
  have inside := (takenIndexed_sublist built).subset member
  obtain ⟨active, turn⟩ := mem_filter.1 inside
  obtain ⟨known, live⟩ := mem_filter.1 active
  refine ⟨mem_indexedMessages.1 known, ?_, ?_⟩
  · simpa [isActive] using live
  · simpa [isSystem] using turn

theorem candidates_resolve (unique : (session.messages.map (·.id)).Nodup)
    (named : ∀ message ∈ session.messages, message.id ≠ "") :
    resolveCandidateIndexes session plan =
      .ok ((takenIndexed before).map (·.sessionIndex)) := by
  have part := (takenIndexed_sublist built).trans
    (filter_sublist.trans filter_sublist)
  have distinct : plan.messageIdsToArchive.Nodup := by
    have all : (indexedMessages session.messages).map (fun indexed => indexed.message.id) =
        session.messages.map (·.id) := by
      conv_rhs => rw [← indexedMessages_message session.messages, map_map]
      rfl
    rw [takenIndexed_ids built]
    apply List.Nodup.sublist _ unique
    rw [← all]
    exact part.map _
  refine bind_eq_ok.2 ⟨(), checkCandidateIds_ok _ [] ?_ ?_ ?_, ?_⟩
  · intro entry member
    have among : entry.1 ∈ plan.messageIdsToArchive := by
      rw [← zipIdx_map_fst 0 plan.messageIdsToArchive]
      exact mem_map.2 ⟨entry, member, rfl⟩
    rw [takenIndexed_ids built] at among
    obtain ⟨indexed, held, same⟩ := mem_map.1 among
    have present := mem_of_getElem? (takenIndexed_found built held).1
    rw [← same]
    simpa using named indexed.message present
  · rw [zipIdx_map_fst]
    exact distinct
  · intro entry _ seen
    cases seen
  · rw [resolveIndexes_eq_ok, takenIndexed_ids built]
    refine ⟨?_, fun _ none => absurd none (Option.not_mem_none _), ?_⟩
    · rw [forall₂_map_left_iff, forall₂_map_right_iff, forall₂_same]
      intro indexed member
      exact indexesOf_unique unique (takenIndexed_found built member).1
    · exact pairwise_map.2 ((indexedMessages_ordered session.messages).sublist part)

theorem messagesAt_taken :
    messagesAt session ((takenIndexed before).map (·.sessionIndex)) =
      (takenIndexed before).map (·.message) := by
  rw [messagesAt, filterMap_map, ← filterMap_eq_map]
  apply filterMap_congr
  intro indexed member
  exact (takenIndexed_found built member).1

section
variable (unique : (session.messages.map (·.id)).Nodup)
include unique

theorem applier_commits (named : ∀ message ∈ session.messages, message.id ≠ "")
    (noSummary : session.conversationSummary = none)
    (uncorrelated : ∀ message ∈ activeMessages session, message.compressedByEventId = none)
    (costs : ∀ message ∈ activeMessages session, CostsToken accounting counter message)
    (triggerType : CompressionTriggerType) :
    ∃ usage, decideApply digests session plan policy budget accounting triggerType =
      .ok (.commit usage ((takenIndexed before).map (·.sessionIndex))) := by
  have groups : ∀ group ∈ measured.groups,
      group.messages ≠ [] ∧ group.messages.length ≤ group.tokenCount := by
    intro group member
    apply measured_group built.facts member
    intro indexed held
    exact costs indexed.message (measured_active built.facts member held)
  obtain ⟨usage, arithmetic⟩ := arithmetic_valid built groups
  refine ⟨usage, ?_⟩
  have policyValid : validateCurrentPolicy plan policy = .ok () := by
    rw [validateCurrentPolicy, refuse_eq_ok, built.sealed]
    exact fun differs => differs.elim (fun other => other rfl) (fun other => other rfl)
  have budgetValid : validateCurrentTokenBudget plan budget = .ok () := by
    rw [validateCurrentTokenBudget, refuse_eq_ok, built.sealed]
    exact fun differs => differs.elim (fun other => other rfl) (fun other => other rfl)
  have accountingValid : validateCurrentTokenAccounting digests plan accounting = .ok () := by
    rw [validateCurrentTokenAccounting, refuse_eq_ok, built.sealed]
    exact fun differs => differs.elim (fun other => other rfl) (fun other => other rfl)
  have messages := messagesAt_taken built
  have active : (messagesAt session ((takenIndexed before).map (·.sessionIndex))).countP
        (fun message => !message.compressed) =
      ((takenIndexed before).map (·.sessionIndex)).length := by
    rw [messages, countP_map, length_map, countP_eq_length]
    intro indexed member
    simpa using (takenIndexed_found built member).2.1
  have some_ : ((takenIndexed before).map (·.sessionIndex)).length ≠ 0 := by
    have ids := takenIndexed_ids built
    rw [built.sealed] at ids
    have something := length_pos_of_ne_nil built.something
    have same := congrArg List.length ids
    rw [length_map] at same ⊢
    dsimp only [sealPlan] at same
    omega
  have candidates : (messagesAt session ((takenIndexed before).map (·.sessionIndex))).forM
      validateCandidate = .ok () := by
    rw [forM_eq_ok, messages]
    intro message member
    obtain ⟨indexed, held, same⟩ := mem_map.1 member
    obtain ⟨entry, taken, within⟩ := mem_flatMap.1 held
    have among := eligible_among built taken
    have group : entry.1 ∈ measured.groups := by
      rw [(mem_zipIdx' among).2]
      exact getElem_mem _
    have facts := takenIndexed_found built held
    have free := uncorrelated indexed.message (measured_active built.facts group within)
    rw [built.facts.groups] at among
    obtain ⟨_, mark⟩ := markedGroups_of among
    have erasable := (unprotected_facts mark (taken_free taken)).2.1 indexed within
    rw [← same]
    exact bind_eq_ok.2 ⟨(), refuse_eq_ok.2 (by simp [free]), bind_eq_ok.2
      ⟨(), refuse_eq_ok.2 facts.2.2, refuse_eq_ok.2 (by simp [erasable])⟩⟩
  refine bind_eq_ok.2 ⟨usage, arithmetic, bind_eq_ok.2
    ⟨(), refuse_eq_ok.2 (by simp [noSummary]), bind_eq_ok.2
    ⟨(), policyValid, bind_eq_ok.2 ⟨(), budgetValid, bind_eq_ok.2
    ⟨(), accountingValid, bind_eq_ok.2
    ⟨_, candidates_resolve built unique named, ?_⟩⟩⟩⟩⟩⟩
  dsimp only
  rw [active, Nat.sub_self]
  refine bind_eq_ok.2 ⟨(), refuse_eq_ok.2 (by omega), ?_⟩
  rw [if_neg (fun none => some_ none.symm)]
  exact bind_eq_ok.2 ⟨(), candidates, bind_eq_ok.2
    ⟨(), structure_valid built unique (fun group member => (groups group member).1),
      bind_eq_ok.2 ⟨(), evidence_valid built, rfl⟩⟩⟩

theorem takenIndexed_at (found : session.messages[index]? = some message) :
    index ∈ (takenIndexed before).map (·.sessionIndex) ↔ message.id ∈ plan.messageIdsToArchive := by
  rw [takenIndexed_ids built, mem_map, mem_map]
  constructor
  · intro ⟨indexed, taken, same⟩
    have there := (takenIndexed_found built taken).1
    rw [same, found] at there
    exact ⟨indexed, taken, congrArg Message.id (Option.some.inj there).symm⟩
  · intro ⟨indexed, taken, same⟩
    refine ⟨indexed, taken, ?_⟩
    have there := indexesOf_unique unique (takenIndexed_found built taken).1
    have here := indexesOf_unique unique found
    rw [same, here] at there
    exact (singleton_inj.1 there).symm

theorem session_ids_taken :
    (session.messages.filter (fun message => decide (message.id ∈ plan.messageIdsToArchive))).map
      (·.id) = plan.messageIdsToArchive := by
  have part : plan.messageIdsToArchive.Sublist (session.messages.map (·.id)) := by
    have all : (indexedMessages session.messages).map (fun indexed => indexed.message.id) =
        session.messages.map (·.id) := by
      conv_rhs => rw [← indexedMessages_message session.messages, map_map]
      rfl
    rw [takenIndexed_ids built, ← all]
    exact ((takenIndexed_sublist built).trans
      (filter_sublist.trans filter_sublist)).map _
  have whole := sublist_filter_mem part unique
  rw [filter_map] at whole
  exact whole

end

end Taken

/-- What the planner returns for a session, the applier archives on it: exactly the messages
    that the plan names, all of them active before, with the projected total recorded. -/
theorem planned_archive_applies (digests : Digests) (session : Session) (budget : TokenBudget)
    (policy : RetrievalWindowPolicy) (accounting : RetrievalWindowTokenAccounting)
    (archiveAllEligible : Bool) (counter : TokenCounter) (plan : RetrievalWindowCandidatePlan)
    (eventId : String) (now : Nat)
    (unique : (session.messages.map (·.id)).Nodup)
    (named : ∀ message ∈ session.messages, message.id ≠ "")
    (noSummary : session.conversationSummary = none)
    (uncorrelated : ∀ message ∈ activeMessages session, message.compressedByEventId = none)
    (costs : ∀ message ∈ activeMessages session, CostsToken accounting counter message)
    (run : buildRetrievalWindowCandidatePlanWithCounter digests session budget policy accounting
      archiveAllEligible counter = .ok plan) :
    ∃ archived : Session,
      applyRetrievalWindowPlan digests session plan policy budget accounting eventId now =
        (archived, .ok { eventId, newlyArchivedMessageCount := plan.messageIdsToArchive.length,
                         idempotentReplay := false }) ∧
      archived.messages = session.messages.map (fun message =>
        if message.id ∈ plan.messageIdsToArchive then archiveMessage eventId message
        else message) ∧
      (session.messages.filter (fun message =>
        decide (message.id ∈ plan.messageIdsToArchive))).map (·.id) = plan.messageIdsToArchive ∧
      (∀ message ∈ session.messages, message.id ∈ plan.messageIdsToArchive →
        message.compressed = false) ∧
      archived.tokenUsage.map (·.totalTokens) = some plan.projectedActiveTokensAfter := by
  obtain ⟨measured, counted, selection, before, after, built⟩ := build_ok run
  obtain ⟨usage, decided⟩ := applier_commits built unique named noSummary uncorrelated costs .auto
  have count : plan.archiveMessageCount = plan.messageIdsToArchive.length := by
    rw [built.sealed]
    rfl
  refine ⟨commitBoundary session plan usage ((takenIndexed before).map (·.sessionIndex)) .auto
    eventId now, ?_, ?_, session_ids_taken built unique, ?_, rfl⟩
  · rw [applyRetrievalWindowPlan, applyRetrievalWindowPlanWithTrigger, decided]
    rw [count]
  · apply List.ext_getElem?
    intro index
    have archived := archived_getElem eventId ((takenIndexed before).map (·.sessionIndex))
      session.messages index
    have kept : (commitBoundary session plan usage
        ((takenIndexed before).map (·.sessionIndex)) .auto eventId now).messages =
        ((takenIndexed before).map (·.sessionIndex)).foldl
          (fun messages index => messages.modify index (archiveMessage eventId))
          session.messages := rfl
    rw [kept, archived, List.getElem?_map]
    cases found : session.messages[index]? with
    | none => simp
    | some message =>
      have same := takenIndexed_at built unique found
      by_cases picked : message.id ∈ plan.messageIdsToArchive
      · rw [if_pos (same.mpr picked), Option.map_some, Option.map_some, if_pos picked]
      · rw [if_neg (fun here => picked (same.mp here)), Option.map_some, if_neg picked]
  · intro message member picked
    obtain ⟨index, below, here⟩ := List.mem_iff_getElem.mp member
    have found : session.messages[index]? = some message := by
      rw [List.getElem?_eq_getElem below, here]
    have taken := (takenIndexed_at built unique found).mpr picked
    obtain ⟨indexed, held, same⟩ := List.mem_map.mp taken
    have facts := takenIndexed_found built held
    rw [same, found] at facts
    rw [Option.some.inj facts.1]
    exact facts.2.1

/-- Two turns; the older one costs eight tokens, the newest two. -/
def Sample.twoTurns : Session :=
  .ofMessages [.user "u1" "aaaa", .assistant "a1" "bbbb" none, .user "u2" "cc"]

def Sample.digests : Digests :=
  { activeState := fun messages => messages.foldl (fun text message => text ++ message.id) "",
    tokenAccounting := fun accounting => if accounting.fixedPromptTokens = 0 then "none" else "some",
    planEvidence := fun plan => plan.messageIdsToArchive.foldl (fun text id => text ++ id) "" }

def Sample.counter : TokenCounter := .perMessage (fun message => charCount message.content) charCount

def Sample.noOverrides : RetrievalWindowTokenAccounting :=
  { fixedPromptTokens := 0, boundaryReclaimableTokens := 0, providerMessageTokens := .empty }

theorem planned_archive_applies_twoTurns :
    ∃ plan archived,
      buildRetrievalWindowCandidatePlanWithCounter Sample.digests Sample.twoTurns
        (.withSafetyMargin 10 0 0) { minRecentUserTurns := 1, targetUsagePercent := 50 }
        Sample.noOverrides false Sample.counter = .ok plan ∧
      plan.messageIdsToArchive = ["u1", "a1"] ∧
      applyRetrievalWindowPlan Sample.digests Sample.twoTurns plan
          { minRecentUserTurns := 1, targetUsagePercent := 50 } (.withSafetyMargin 10 0 0)
          Sample.noOverrides "event" 0 =
        (archived, .ok { eventId := "event", newlyArchivedMessageCount := 2,
                         idempotentReplay := false }) := by
  have ids : (buildRetrievalWindowCandidatePlanWithCounter Sample.digests Sample.twoTurns
        (.withSafetyMargin 10 0 0) { minRecentUserTurns := 1, targetUsagePercent := 50 }
        Sample.noOverrides false Sample.counter).toOption.map (·.messageIdsToArchive) =
      some ["u1", "a1"] := by
    decide
  cases run : buildRetrievalWindowCandidatePlanWithCounter Sample.digests Sample.twoTurns
        (.withSafetyMargin 10 0 0) { minRecentUserTurns := 1, targetUsagePercent := 50 }
        Sample.noOverrides false Sample.counter with
  | error failure =>
    rw [run] at ids
    cases ids
  | ok plan =>
    rw [run] at ids
    have picked : plan.messageIdsToArchive = ["u1", "a1"] := Option.some.inj ids
    have costs : ∀ message ∈ activeMessages Sample.twoTurns,
        CostsToken Sample.noOverrides Sample.counter message := by
      have counts : ∀ message ∈ activeMessages Sample.twoTurns,
          (countProviderVisibleMessageTokens message Sample.noOverrides Sample.counter).toOption.any
            (fun tokens => decide (1 ≤ tokens)) = true := by
        decide
      intro message member tokens counted
      have positive := counts message member
      rw [counted] at positive
      exact of_decide_eq_true positive
    obtain ⟨archived, applied, _⟩ := planned_archive_applies Sample.digests Sample.twoTurns
      (.withSafetyMargin 10 0 0) { minRecentUserTurns := 1, targetUsagePercent := 50 }
      Sample.noOverrides false Sample.counter plan "event" 0 (by decide) (by decide) rfl
      (by decide) costs run
    rw [picked] at applied
    exact ⟨plan, archived, rfl, picked, applied⟩

end Compression
