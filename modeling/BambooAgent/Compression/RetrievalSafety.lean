import BambooAgent.Library.Splits
import BambooAgent.Compression.ProtocolScans

/- Archiving is safe whatever plan it is given: what may not be archived is not, a call and
   its results go together, a refusal changes nothing and a second application is a replay. -/
namespace Compression
open Checks Splits List

def NewlyArchived (before after : Session) (index : Nat) (message : Message) : Prop :=
  before.messages[index]? = some message ∧ message.compressed = false ∧
    ∃ archived, after.messages[index]? = some archived ∧ archived.compressed = true

/-- An active assistant message that calls a Skill tool, or a result of one of its calls. -/
def InSkillChain (session : Session) (message : Message) : Prop :=
  ∃ caller ∈ activeMessages session, caller.role = .assistant ∧
    (∃ call ∈ callsOf caller, isSkillToolName call.function.name .canonical = true) ∧
    (message = caller ∨ ∃ call ∈ callsOf caller, message.role = .tool ∧
      message.toolCallId = some call.id)

/-- How many active user messages come after an index. -/
def userTurnsAfter (session : Session) (index : Nat) : Nat :=
  (activeIndexed session).countP (fun indexed =>
    decide (indexed.message.role = .user) && decide (index < indexed.sessionIndex))

/-- The index lies in one of the newest user turns: an active user message stands at or
    before it, and fewer than this many come after it. -/
def InNewestTurns (session : Session) (minRecentUserTurns index : Nat) : Prop :=
  (∃ indexed ∈ activeIndexed session, indexed.message.role = .user ∧
    indexed.sessionIndex ≤ index) ∧
  userTurnsAfter session index < minRecentUserTurns

theorem turns_ordered (session : Session) :
    ((buildLogicalGroups session).groups.flatMap (·.messages)).Pairwise
      (fun a b => a.sessionIndex < b.sessionIndex) := by
  rw [(buildLogicalGroups_grouped session).turns]
  exact ((indexedMessages_ordered session.messages).sublist filter_sublist).sublist
    filter_sublist

theorem opened_turns_users (groups : List LogicalGroup)
    (shaped : ∀ group ∈ groups, TurnShaped group) :
    groups.countP (fun group => group.userMessageId.isSome) ≤
      (groups.flatMap (·.messages)).countP
        (fun indexed => decide (indexed.message.role = .user)) := by
  induction groups with
  | nil => exact le_rfl
  | cons group rest ih =>
    have later := ih (fun other member => shaped other (mem_cons_of_mem _ member))
    rw [countP_cons, flatMap_cons, countP_append]
    cases opened : group.userMessageId with
    | none =>
      rw [if_neg (by simp)]
      omega
    | some userId =>
      have shape := shaped group mem_cons_self
      rw [TurnShaped, opened] at shape
      obtain ⟨head, others, whole, role, _⟩ := shape
      rw [if_pos Option.isSome_some, whole, countP_cons, if_pos (by simp [role])]
      omega

theorem later_turns {groups : List LogicalGroup}
    (found : groups[groupIndex]? = some group) (opened : group.userMessageId.isSome = true)
    (older : groupIndex ∉ recentIndexes groups minRecentUserTurns) :
    minRecentUserTurns ≤
      (groups.drop (groupIndex + 1)).countP (fun group => group.userMessageId.isSome) := by
  have cut := cut_at found
  have length : (groups.take groupIndex).length = groupIndex :=
    length_take_of_le (List.getElem?_eq_some_iff.1 found).1.le
  let opens := fun entry : LogicalGroup × Nat => entry.1.userMessageId.isSome
  let earlier := ((groups.take groupIndex).zipIdx.filter opens).map (·.2)
  let later := (((groups.drop (groupIndex + 1)).zipIdx (groupIndex + 1)).filter opens).map (·.2)
  have indexes : userGroupIndexes groups = earlier ++ groupIndex :: later := by
    unfold userGroupIndexes
    conv_lhs => rw [cut]
    rw [zipIdx_append, zipIdx_cons, filter_append, map_append, length,
      zero_add, filter_cons_of_pos (by exact opened)]
    rfl
  have count : later.length =
      (groups.drop (groupIndex + 1)).countP (fun group => group.userMessageId.isSome) := by
    rw [length_map, ← countP_eq_length_filter]
    conv_rhs => rw [← zipIdx_map_fst (groupIndex + 1) (groups.drop (groupIndex + 1)),
      countP_map]
    rfl
  by_contra few
  apply older
  have total : (earlier ++ groupIndex :: later).length = earlier.length + (later.length + 1) := by
    rw [length_append, length_cons]
  rw [recentIndexes, indexes, drop_append_of_le_length (by omega)]
  exact mem_append_right _ mem_cons_self

theorem older_turn (found : (buildLogicalGroups session).groups[groupIndex]? = some group)
    (older : groupIndex ∉ recentIndexes (buildLogicalGroups session).groups minRecentUserTurns)
    (member : indexed ∈ group.messages) :
    ¬ InNewestTurns session minRecentUserTurns indexed.sessionIndex := by
  intro ⟨⟨user, active, role, atOrBefore⟩, few⟩
  have grouped := buildLogicalGroups_grouped session
  have ordered := turns_ordered session
  have turns : (activeIndexed session).filter (fun indexed => !isSystem indexed) =
      ((buildLogicalGroups session).groups.take groupIndex).flatMap (·.messages) ++
        (group.messages ++
          ((buildLogicalGroups session).groups.drop (groupIndex + 1)).flatMap (·.messages)) := by
    rw [← flatMap_cons (f := fun group : LogicalGroup => group.messages),
      ← flatMap_append, ← cut_at found, grouped.turns]
    rfl
  rw [grouped.turns] at ordered
  change ((activeIndexed session).filter (fun indexed => !isSystem indexed)).Pairwise _ at ordered
  rw [turns] at ordered
  have above : ∀ other ∈
      ((buildLogicalGroups session).groups.drop (groupIndex + 1)).flatMap (·.messages),
      indexed.sessionIndex < other.sessionIndex := by
    intro other after
    exact (pairwise_append.1 (pairwise_append.1 ordered).2.1).2.2 indexed member
      other after
  cases opened : group.userMessageId.isSome with
  | true =>
    have enough := later_turns found opened older
    have users := opened_turns_users
      ((buildLogicalGroups session).groups.drop (groupIndex + 1))
      (fun group member => grouped.shaped group (mem_of_mem_drop member))
    have counted : (((buildLogicalGroups session).groups.drop (groupIndex + 1)).flatMap
          (·.messages)).countP (fun other => decide (other.message.role = .user)) ≤
        userTurnsAfter session indexed.sessionIndex := by
      have part : (((buildLogicalGroups session).groups.drop (groupIndex + 1)).flatMap
          (·.messages)).Sublist (activeIndexed session) := by
        apply List.Sublist.trans _ (filter_sublist (p := fun indexed => !isSystem indexed))
        rw [turns]
        exact (sublist_append_right _ _).trans (sublist_append_right _ _)
      refine le_trans (le_of_eq ?_) part.countP_le
      apply countP_congr
      intro other after
      simp [above other after]
    omega
  | false =>
    have first : groupIndex = 0 := by
      cases groupIndex with
      | zero => rfl
      | succ previous =>
        have later : group.userMessageId ∈
            ((buildLogicalGroups session).groups.map (·.userMessageId)).tail := by
          apply mem_of_getElem? (i := previous)
          rw [List.getElem?_tail, List.getElem?_map, found]
          rfl
        rw [grouped.preamble _ later] at opened
        cases opened
    have shape := grouped.shaped group (mem_of_getElem? found)
    have unopened : group.userMessageId = none := by
      simpa using opened
    rw [TurnShaped, unopened] at shape
    have among : user ∈ (activeIndexed session).filter (fun indexed => !isSystem indexed) :=
      mem_filter.2 ⟨active, by simp [isSystem, role]⟩
    rw [turns, first, take_zero, flatMap_nil, nil_append] at among
    cases mem_append.1 among with
    | inl inside => exact shape.2 user inside role
    | inr after =>
      rw [first] at above
      exact absurd (above user after) (Nat.not_lt_of_le atOrBefore)

/-- The checks behind a decision to commit. -/
structure Committed (digests : Digests) (session : Session) (plan : RetrievalWindowCandidatePlan)
    (currentPolicy : RetrievalWindowPolicy) (currentBudget : TokenBudget)
    (currentAccounting : RetrievalWindowTokenAccounting)
    (usage : ValidatedRetrievalWindowUsage) (indexes : List Nat) : Prop where
  arithmetic : validateApplyPlanArithmetic plan = .ok usage
  noSummary : ¬ session.conversationSummary.isSome = true
  policy : validateCurrentPolicy plan currentPolicy = .ok ()
  budget : validateCurrentTokenBudget plan currentBudget = .ok ()
  accounting : validateCurrentTokenAccounting digests plan currentAccounting = .ok ()
  resolved : resolveCandidateIndexes session plan = .ok indexes
  active : ∀ message ∈ messagesAt session indexes, message.compressed = false
  candidates : ∀ message ∈ messagesAt session indexes, validateCandidate message = .ok ()
  planStructure : validateActivePlanStructure digests session plan = .ok ()
  evidence : validatePlanEvidence digests plan = .ok ()

theorem messagesAt_length (session : Session) (indexes : List Nat) :
    (messagesAt session indexes).length ≤ indexes.length := length_filterMap_le _ _

theorem decideApply_commit
    (run : decideApply digests session plan currentPolicy currentBudget currentAccounting
      triggerType = .ok (.commit usage indexes)) :
    Committed digests session plan currentPolicy currentBudget currentAccounting usage indexes := by
  obtain ⟨usage', arithmetic, run⟩ := bind_eq_ok.1 run
  obtain ⟨_, noSummary, run⟩ := bind_eq_ok.1 run
  obtain ⟨_, policy, run⟩ := bind_eq_ok.1 run
  obtain ⟨_, budget, run⟩ := bind_eq_ok.1 run
  obtain ⟨_, accounting, run⟩ := bind_eq_ok.1 run
  obtain ⟨indexes', resolved, run⟩ := bind_eq_ok.1 run
  obtain ⟨_, partly, run⟩ := bind_eq_ok.1 run
  split at run
  · obtain ⟨_, _, run⟩ := bind_eq_ok.1 run
    obtain ⟨_, _, run⟩ := bind_eq_ok.1 run
    cases pure_eq_ok.1 run
  case isFalse notAll =>
    obtain ⟨_, candidates, run⟩ := bind_eq_ok.1 run
    obtain ⟨_, structured, run⟩ := bind_eq_ok.1 run
    obtain ⟨_, evidence, run⟩ := bind_eq_ok.1 run
    cases pure_eq_ok.1 run
    have whole := refuse_eq_ok.1 partly
    have few := countP_le_length (p := fun message : Message => !message.compressed)
      (l := messagesAt session indexes)
    have fits := messagesAt_length session indexes
    have all : (messagesAt session indexes).countP (fun message => !message.compressed) =
        (messagesAt session indexes).length := by
      omega
    refine ⟨arithmetic, refuse_eq_ok.1 noSummary, policy, budget, accounting, resolved, ?_,
      (forM_eq_ok _).1 candidates, structured, evidence⟩
    intro message member
    simpa using countP_eq_length.1 all message member

theorem validateIdempotentReplay_replay
    (run : validateIdempotentReplay session plan indexes triggerType = .ok result) :
    result.idempotentReplay = true := by
  unfold validateIdempotentReplay at run
  split at run
  · cases run
  obtain ⟨_, _, run⟩ := bind_eq_ok.1 run
  split at run
  · obtain ⟨_, _, run⟩ := bind_eq_ok.1 run
    obtain ⟨_, _, run⟩ := bind_eq_ok.1 run
    obtain ⟨_, _, run⟩ := bind_eq_ok.1 run
    rw [← pure_eq_ok.1 run]
  · cases run

theorem decideApply_replay
    (run : decideApply digests session plan currentPolicy currentBudget currentAccounting
      triggerType = .ok (.replay result)) : result.idempotentReplay = true := by
  obtain ⟨_, _, run⟩ := bind_eq_ok.1 run
  obtain ⟨_, _, run⟩ := bind_eq_ok.1 run
  obtain ⟨_, _, run⟩ := bind_eq_ok.1 run
  obtain ⟨_, _, run⟩ := bind_eq_ok.1 run
  obtain ⟨_, _, run⟩ := bind_eq_ok.1 run
  obtain ⟨_, _, run⟩ := bind_eq_ok.1 run
  obtain ⟨_, _, run⟩ := bind_eq_ok.1 run
  split at run
  · obtain ⟨_, _, run⟩ := bind_eq_ok.1 run
    obtain ⟨_, replayed, run⟩ := bind_eq_ok.1 run
    cases pure_eq_ok.1 run
    exact validateIdempotentReplay_replay replayed
  · obtain ⟨_, _, run⟩ := bind_eq_ok.1 run
    obtain ⟨_, _, run⟩ := bind_eq_ok.1 run
    obtain ⟨_, _, run⟩ := bind_eq_ok.1 run
    cases pure_eq_ok.1 run

section Commit
variable (committed : Committed digests session plan currentPolicy currentBudget
  currentAccounting usage indexes)
include committed

theorem candidates_related :
    List.Forall₂ (fun messageId index => indexesOf session messageId = [index])
      plan.messageIdsToArchive indexes ∧ indexes.Pairwise (· < ·) := by
  obtain ⟨_, _, resolved⟩ := bind_eq_ok.1 committed.resolved
  have facts := (resolveIndexes_eq_ok _ _ _).1 resolved
  exact ⟨facts.1, facts.2.2⟩

theorem candidate_at (member : index ∈ indexes) :
    ∃ message, session.messages[index]? = some message ∧
      message.id ∈ plan.messageIdsToArchive ∧ message.compressed = false ∧
      message.role ≠ .system ∧ message.neverCompress = false := by
  obtain ⟨messageId, picked, single⟩ := related_of_mem (candidates_related committed).1 member
  have here : index ∈ indexesOf session messageId := by
    rw [single]
    exact mem_singleton.2 rfl
  obtain ⟨message, found, named⟩ := mem_indexesOf.1 here
  have among : message ∈ messagesAt session indexes :=
    mem_filterMap.2 ⟨index, member, found⟩
  obtain ⟨_, _, checks⟩ := bind_eq_ok.1 (committed.candidates message among)
  obtain ⟨_, notSystem, erasable⟩ := bind_eq_ok.1 checks
  refine ⟨message, found, named ▸ picked, committed.active message among,
    refuse_eq_ok.1 notSystem, ?_⟩
  simpa using refuse_eq_ok.1 erasable

theorem candidate_index (found : session.messages[index]? = some message)
    (picked : message.id ∈ plan.messageIdsToArchive) : index ∈ indexes := by
  obtain ⟨resolved, member, single⟩ := related_of_mem (candidates_related committed).1.flip picked
  have here : index ∈ indexesOf session message.id := mem_indexesOf.2 ⟨message, found, rfl⟩
  rw [single, mem_singleton] at here
  rw [here]
  exact member

theorem archived_group (member : index ∈ indexes) (found : session.messages[index]? = some message) :
    ∃ groupIndex group, (buildLogicalGroups session).groups[groupIndex]? = some group ∧
      (⟨index, message⟩ : IndexedMessage) ∈ group.messages ∧
      safeAmong (buildLogicalGroups session).groups group = true ∧
      logicalGroupHasProtectedSkill group = false ∧
      groupIndex ∉ recentIndexes (buildLogicalGroups session).groups plan.minRecentUserTurns ∧
      ∀ other ∈ group.messages, other.sessionIndex ∈ indexes := by
  have grouped := buildLogicalGroups_grouped session
  obtain ⟨same, there, picked, active, notSystem, _⟩ := candidate_at committed member
  rw [found] at there
  cases Option.some.inj there
  have turn : (⟨index, message⟩ : IndexedMessage) ∈
      (buildLogicalGroups session).groups.flatMap (·.messages) := by
    rw [grouped.turns]
    exact mem_filter.2 ⟨mem_filter.2 ⟨mem_indexedMessages.2 found,
      by simp [isActive, active]⟩, by simp [isSystem, notSystem]⟩
  obtain ⟨group, known, inside⟩ := mem_flatMap.1 turn
  obtain ⟨groupIndex, position⟩ := mem_iff_getElem?.mp known
  obtain ⟨marked, entry, mark⟩ := marked_at plan.minRecentUserTurns position
  have covered : coveredCount plan.messageIdsToArchive marked ≠ 0 := by
    rw [coveredCount, mark.messages, Ne, countP_eq_zero]
    intro none
    exact none _ inside (contains_iff_mem.2 picked)
  obtain ⟨selected, selects⟩ : ∃ selected, selectedGroups plan.messageIdsToArchive
      (markedGroups (buildLogicalGroups session).groups plan.minRecentUserTurns).zipIdx =
        .ok selected := by
    obtain ⟨_, _, run⟩ := bind_eq_ok.1 committed.planStructure
    obtain ⟨_, _, run⟩ := bind_eq_ok.1 run
    obtain ⟨_, _, run⟩ := bind_eq_ok.1 run
    obtain ⟨selected, selects, _⟩ := bind_eq_ok.1 run
    exact ⟨selected, selects⟩
  obtain ⟨whole, _, _, free⟩ := ((selectedGroups_eq_ok _ _).1 selects).1 _ entry covered
  obtain ⟨safe, _, noSkill, older⟩ := unprotected_facts mark free
  refine ⟨groupIndex, group, position, inside, safe, ?_, older, ?_⟩
  · rw [logicalGroupHasProtectedSkill, ← mark.messages]
    exact noSkill
  · intro other held
    have turnOther : other ∈ (buildLogicalGroups session).groups.flatMap (·.messages) :=
      mem_flatMap.2 ⟨group, known, held⟩
    rw [grouped.turns] at turnOther
    have present := (mem_filter.1 (mem_filter.1 turnOther).1).1
    apply candidate_index committed (mem_indexedMessages.1 present)
    rw [coveredCount, mark.messages] at whole
    exact contains_iff_mem.1 (countP_eq_length.1 whole other held)

omit committed in
theorem mention_group {callId : String} (found : session.messages[index]? = some message)
    (active : message.compressed = false) (mentions : Mentions message callId) :
    ∃ (groupIndex : Nat) (group : LogicalGroup), (buildLogicalGroups session).groups[groupIndex]? = some group ∧
      (⟨index, message⟩ : IndexedMessage) ∈ group.messages := by
  have notSystem : message.role ≠ .system := by
    intro role
    rcases mentions with ⟨other, _⟩ | ⟨other, _⟩ <;> (rw [role] at other; cases other)
  have turn : (⟨index, message⟩ : IndexedMessage) ∈
      (buildLogicalGroups session).groups.flatMap (·.messages) := by
    rw [(buildLogicalGroups_grouped session).turns]
    exact mem_filter.2 ⟨mem_filter.2 ⟨mem_indexedMessages.2 found,
      by simp [isActive, active]⟩, by simp [isSystem, notSystem]⟩
  obtain ⟨group, known, inside⟩ := mem_flatMap.1 turn
  obtain ⟨groupIndex, position⟩ := mem_iff_getElem?.mp known
  exact ⟨groupIndex, group, position, inside⟩

theorem mentions_archived (member : index ∈ indexes)
    (found : session.messages[index]? = some message) (mentions : Mentions message callId)
    (there : session.messages[other]? = some also) (active : also.compressed = false)
    (again : Mentions also callId) : other ∈ indexes := by
  obtain ⟨groupIndex, group, position, inside, safe, _, _, whole⟩ :=
    archived_group committed member found
  obtain ⟨otherIndex, otherGroup, otherPosition, otherInside⟩ :=
    mention_group there active again
  have same := mentions_together position otherPosition safe inside mentions otherInside again
  rw [same, position] at otherPosition
  cases Option.some.inj otherPosition
  exact whole _ otherInside

theorem archived_no_skill (member : index ∈ indexes)
    (found : session.messages[index]? = some message) : ¬ InSkillChain session message := by
  intro ⟨caller, active, role, ⟨call, issued, skill⟩, chain⟩
  obtain ⟨groupIndex, group, position, inside, safe, noSkill, _, _⟩ :=
    archived_group committed member found
  have callerOutside : ∀ indexed ∈ group.messages, indexed.message ≠ caller := by
    intro indexed held same
    have holds : logicalGroupHasProtectedSkill group = true := by
      rw [logicalGroupHasProtectedSkill, any_eq_true]
      refine ⟨indexed, held, any_eq_true.2 ⟨call, ?_, skill⟩⟩
      rw [same]
      exact issued
    rw [noSkill] at holds
    cases holds
  cases chain with
  | inl same => exact callerOutside _ inside same
  | inr answers =>
    obtain ⟨answered, issuedToo, tool, named⟩ := answers
    obtain ⟨known, live⟩ := mem_filter.1 active
    obtain ⟨callerIndex, there⟩ := mem_iff_getElem?.mp known
    have calls : Mentions caller answered.id := .inl ⟨role, answered, issuedToo, rfl⟩
    obtain ⟨otherIndex, otherGroup, otherPosition, otherInside⟩ :=
      mention_group there (by simpa using live) calls
    have same := mentions_together position otherPosition safe inside (.inr ⟨tool, named⟩)
      otherInside calls
    rw [same, position] at otherPosition
    cases Option.some.inj otherPosition
    exact callerOutside _ otherInside rfl

section Replay
omit committed in
theorem commit_at (index : Nat) :
    (commitBoundary session plan usage indexes triggerType eventId now).messages[index]? =
      if index ∈ indexes then session.messages[index]?.map (archiveMessage eventId)
      else session.messages[index]? :=
  archived_getElem eventId indexes session.messages index

theorem newlyArchived_iff :
    NewlyArchived session (commitBoundary session plan usage indexes triggerType eventId now) index
      message ↔ index ∈ indexes ∧ session.messages[index]? = some message := by
  unfold NewlyArchived
  rw [commit_at]
  constructor
  · intro ⟨found, active, archived, there, compressed⟩
    refine ⟨?_, found⟩
    by_contra outside
    rw [if_neg outside, found] at there
    cases Option.some.inj there
    rw [active] at compressed
    cases compressed
  · intro ⟨member, found⟩
    obtain ⟨same, there, _, active, _⟩ := candidate_at committed member
    rw [found] at there
    cases Option.some.inj there
    rw [if_pos member, found]
    exact ⟨rfl, active, _, rfl, rfl⟩

omit committed in
theorem commit_ids :
    (commitBoundary session plan usage indexes triggerType eventId now).messages.map (·.id) =
      session.messages.map (·.id) := by
  apply ext_getElem?
  intro index
  rw [List.getElem?_map, commit_at, List.getElem?_map]
  split
  · rw [Option.map_map]
    rfl
  · rfl

theorem commit_resolves :
    resolveCandidateIndexes (commitBoundary session plan usage indexes triggerType eventId now)
      plan = .ok indexes := by
  obtain ⟨_, checked, resolved⟩ := bind_eq_ok.1 committed.resolved
  refine bind_eq_ok.2 ⟨(), checked, (resolveIndexes_eq_ok _ _ _).2 ?_⟩
  have facts := (resolveIndexes_eq_ok _ _ _).1 resolved
  unfold indexesOf at ⊢
  rw [commit_ids]
  exact facts

omit committed in
theorem commit_messagesAt :
    messagesAt (commitBoundary session plan usage indexes triggerType eventId now) indexes =
      (messagesAt session indexes).map (archiveMessage eventId) := by
  unfold messagesAt
  rw [map_filterMap]
  apply filterMap_congr
  intro index member
  rw [commit_at, if_pos member]

theorem messagesAt_head : messagesAt session indexes ≠ [] := by
  obtain ⟨_, something, _⟩ := bind_eq_ok.1 committed.arithmetic
  have ids := refuse_eq_ok.1 something
  have length := (candidates_related committed).1.length_eq
  intro none
  cases candidates : indexes with
  | nil =>
    rw [candidates] at length
    exact ids (length_eq_zero_iff.1 length)
  | cons index rest =>
    have member : index ∈ indexes := by
      rw [candidates]
      exact mem_cons_self
    obtain ⟨message, found, _⟩ := candidate_at committed member
    have among : message ∈ messagesAt session indexes :=
      mem_filterMap.2 ⟨index, member, found⟩
    rw [none] at among
    cases among

variable (unused : ∀ message ∈ session.messages, message.compressedByEventId ≠ some eventId)
include unused

theorem commit_correlated :
    ((commitBoundary session plan usage indexes triggerType eventId now).messages.filter
      (fun message => decide (message.compressedByEventId = some eventId))).map (·.id) =
        plan.messageIdsToArchive := by
  let after := (commitBoundary session plan usage indexes triggerType eventId now).messages
  let carries := fun message : Message => decide (message.compressedByEventId = some eventId)
  let picked := after.zipIdx.filter (fun entry => carries entry.1)
  have members : ∀ entry : Message × Nat, entry ∈ picked →
      entry.2 ∈ indexes ∧ ∃ message, session.messages[entry.2]? = some message ∧
        entry.1 = archiveMessage eventId message := by
    intro entry member
    obtain ⟨known, holds⟩ := mem_filter.1 member
    have found : after[entry.2]? = some entry.1 := mem_zipIdx_iff_getElem?.mp known
    rw [commit_at] at found
    split at found
    case isTrue candidate =>
      obtain ⟨message, there, same⟩ := Option.map_eq_some_iff.1 found
      exact ⟨candidate, message, there, same.symm⟩
    case isFalse outside =>
      have carried : entry.1.compressedByEventId = some eventId := of_decide_eq_true holds
      exact absurd carried (unused entry.1 (mem_of_getElem? found))
  have positions : picked.map (·.2) = indexes := by
    have ascending : (picked.map (·.2)).Pairwise (· < ·) := by
      have all : (after.zipIdx.map (·.2)).Pairwise (· < ·) := by
        rw [zipIdx_map_snd]
        exact pairwise_lt_range'
      exact all.sublist (filter_sublist.map _)
    apply ascending_ext ascending (candidates_related committed).2
    intro index
    rw [mem_map]
    constructor
    · intro ⟨entry, member, same⟩
      rw [← same]
      exact (members entry member).1
    · intro member
      obtain ⟨message, found, _⟩ := candidate_at committed member
      refine ⟨(archiveMessage eventId message, index), mem_filter.2 ⟨?_, ?_⟩, rfl⟩
      · rw [mem_zipIdx_iff_getElem?, commit_at, if_pos member, found]
        rfl
      · exact decide_eq_true rfl
  have related : List.Forall₂ (fun (entry : Message × Nat) messageId =>
      indexesOf session messageId = [entry.2]) picked plan.messageIdsToArchive := by
    have known := (candidates_related committed).1
    rw [← positions, forall₂_map_right_iff] at known
    exact known.flip
  have named : List.Forall₂ (fun (entry : Message × Nat) messageId => entry.1.id = messageId)
      picked plan.messageIdsToArchive := by
    apply ((forall₂_and_left _ _).2 ⟨members, related⟩).imp
    intro entry messageId ⟨⟨_, message, found, archived⟩, single⟩
    have here : entry.2 ∈ indexesOf session messageId := by
      rw [single]
      exact mem_singleton.2 rfl
    obtain ⟨same, there, id⟩ := mem_indexesOf.1 here
    rw [found] at there
    cases Option.some.inj there
    rw [archived]
    exact id
  have whole : (after.filter carries).map (·.id) = picked.map (fun entry => entry.1.id) := by
    conv_lhs => rw [← zipIdx_map_fst 0 after, filter_map, map_map]
    rfl
  have ids := forall₂_map_left_iff.2 named
  rw [forall₂_eq_eq_eq] at ids
  exact whole.trans ids

omit committed unused in
theorem boundaryEvent_evidence :
    requireEvidence eventId (eventEvidence (boundaryEvent eventId plan triggerType) plan
      triggerType) = .ok () := by
  have holds : ∀ check ∈ eventEvidence (boundaryEvent eventId plan triggerType) plan triggerType,
      check.1 = true := by
    simp [eventEvidence, boundaryEvent, CompressionEvent.new]
  have none : (eventEvidence (boundaryEvent eventId plan triggerType) plan triggerType).find?
      (fun check => !check.1) = none := by
    apply List.find?_eq_none.2
    intro check member
    simp [holds check member]
  rw [requireEvidence, none]

variable (newEvent : ∀ event ∈ session.compressionEvents, event.id ≠ eventId)
include newEvent

theorem commit_replayed :
    validateIdempotentReplay
      (commitBoundary session plan usage indexes triggerType eventId now) plan indexes triggerType =
        .ok { eventId, newlyArchivedMessageCount := 0, idempotentReplay := true } := by
  have messages : messagesAt (commitBoundary session plan usage indexes triggerType eventId now)
      indexes = (messagesAt session indexes).map (archiveMessage eventId) := commit_messagesAt
  have correlated : ((commitBoundary session plan usage indexes triggerType eventId
      now).messages.filter
        (fun message => decide (message.compressedByEventId = some eventId))).map (·.id) =
      plan.messageIdsToArchive := commit_correlated committed unused
  have event : (commitBoundary session plan usage indexes triggerType eventId
      now).compressionEvents.filter (fun event => decide (event.id = eventId)) =
        [boundaryEvent eventId plan triggerType] := by
    have events : (commitBoundary session plan usage indexes triggerType eventId
        now).compressionEvents =
          session.compressionEvents ++ [boundaryEvent eventId plan triggerType] := rfl
    have others : session.compressionEvents.filter
        (fun event => decide (event.id = eventId)) = [] := by
      apply filter_eq_nil_iff.2
      intro event member same
      exact newEvent event member (of_decide_eq_true same)
    rw [events, filter_append, others, nil_append]
    exact filter_cons_of_pos (decide_eq_true rfl)
  have carried : ((messagesAt session indexes).map (archiveMessage eventId)).head?.bind
      (·.compressedByEventId) = some eventId := by
    cases found : messagesAt session indexes with
    | nil => exact absurd found (messagesAt_head committed)
    | cons message rest => rfl
  unfold validateIdempotentReplay
  rw [messages, carried]
  refine bind_eq_ok.2 ⟨(), refuse_eq_ok.2 ?_, ?_⟩
  · intro ⟨message, member, differs⟩
    obtain ⟨original, _, same⟩ := mem_map.1 member
    rw [← same] at differs
    exact differs rfl
  rw [event]
  refine bind_eq_ok.2 ⟨(), refuse_eq_ok.2 (not_not.2 rfl), bind_eq_ok.2
    ⟨(), refuse_eq_ok.2 (not_not.2 correlated), bind_eq_ok.2
    ⟨(), boundaryEvent_evidence, rfl⟩⟩⟩

theorem commit_again :
    decideApply digests (commitBoundary session plan usage indexes triggerType eventId now) plan
      currentPolicy currentBudget currentAccounting triggerType =
        .ok (.replay
          { eventId, newlyArchivedMessageCount := 0, idempotentReplay := true }) := by
  have messages : messagesAt (commitBoundary session plan usage indexes triggerType eventId now)
      indexes = (messagesAt session indexes).map (archiveMessage eventId) := commit_messagesAt
  have none : (messagesAt (commitBoundary session plan usage indexes triggerType eventId now)
      indexes).countP (fun message => !message.compressed) = 0 := by
    rw [messages]
    simp [archiveMessage]
  refine bind_eq_ok.2 ⟨usage, committed.arithmetic, bind_eq_ok.2
    ⟨(), refuse_eq_ok.2 committed.noSummary, bind_eq_ok.2
    ⟨(), committed.policy, bind_eq_ok.2 ⟨(), committed.budget, bind_eq_ok.2
    ⟨(), committed.accounting, bind_eq_ok.2
    ⟨indexes, commit_resolves committed, ?_⟩⟩⟩⟩⟩⟩
  dsimp only
  rw [none, Nat.sub_zero]
  refine bind_eq_ok.2 ⟨(), refuse_eq_ok.2 (by omega), ?_⟩
  rw [if_pos rfl]
  exact bind_eq_ok.2 ⟨(), committed.evidence, bind_eq_ok.2
    ⟨_, commit_replayed committed unused newEvent, rfl⟩⟩

end Replay

end Commit

/-- Archiving is safe for any plan value. What a commit archives is no system message, no
    message that must stay, no message of a Skill chain and no message of the newest turns,
    and it holds all calls and results of an id or none of them. A refusal leaves the session
    as it is. With a fresh event id the same plan, applied again, is recognised as a replay. -/
theorem archiving_safe (digests : Digests) (session : Session)
    (plan : RetrievalWindowCandidatePlan) (currentPolicy : RetrievalWindowPolicy)
    (currentBudget : TokenBudget) (currentAccounting : RetrievalWindowTokenAccounting)
    (triggerType : CompressionTriggerType) (eventId : String) (now : Nat) :
    let applied := applyRetrievalWindowPlanWithTrigger digests session plan currentPolicy
      currentBudget currentAccounting triggerType eventId now
    (∀ result, applied.2 = .ok result → result.idempotentReplay = false →
      (∀ index message, NewlyArchived session applied.1 index message →
        message.role ≠ .system ∧ message.neverCompress = false ∧
          ¬ InSkillChain session message ∧
          ¬ InNewestTurns session currentPolicy.minRecentUserTurns index) ∧
      ∀ callId,
        (∀ index message, session.messages[index]? = some message →
          message.compressed = false → Mentions message callId →
            NewlyArchived session applied.1 index message) ∨
        ∀ index message, NewlyArchived session applied.1 index message →
          ¬ Mentions message callId) ∧
    (∀ error, applied.2 = .error error → applied.1 = session) ∧
    ((∀ message ∈ session.messages, message.compressedByEventId ≠ some eventId) →
      (∀ event ∈ session.compressionEvents, event.id ≠ eventId) →
      ∀ result, applied.2 = .ok result → ∀ nextEventId later, ∃ replay,
        applyRetrievalWindowPlanWithTrigger digests applied.1 plan currentPolicy currentBudget
          currentAccounting triggerType nextEventId later = (applied.1, .ok replay) ∧
        replay.idempotentReplay = true) := by
  unfold applyRetrievalWindowPlanWithTrigger
  cases run : decideApply digests session plan currentPolicy currentBudget currentAccounting
    triggerType with
  | error failure =>
    refine ⟨?_, fun _ _ => rfl, ?_⟩
    · intro result ok
      cases ok
    · intro _ _ result ok
      cases ok
  | ok decision =>
    cases decision with
    | replay first =>
      have isReplay := decideApply_replay run
      refine ⟨?_, ?_, ?_⟩
      · intro result ok fresh
        cases ok
        rw [isReplay] at fresh
        cases fresh
      · intro error failed
        cases failed
      · intro _ _ result _ nextEventId later
        refine ⟨first, ?_, isReplay⟩
        rw [run]
    | commit usage indexes =>
      have committed := decideApply_commit run
      have archives : ∀ {index message}, NewlyArchived session
          (commitBoundary session plan usage indexes triggerType eventId now) index message ↔
            index ∈ indexes ∧ session.messages[index]? = some message :=
        newlyArchived_iff committed
      have floor : currentPolicy.minRecentUserTurns = plan.minRecentUserTurns := by
        have same := refuse_eq_ok.mp committed.policy
        exact not_not.mp (fun differs => same (Or.inl differs))
      refine ⟨?_, ?_, ?_⟩
      · intro result _ _
        constructor
        · intro index message archived
          obtain ⟨member, found⟩ := archives.mp archived
          obtain ⟨same, there, _, _, notSystem, erasable⟩ := candidate_at committed member
          rw [found] at there
          cases Option.some.inj there
          obtain ⟨_, _, position, inside, _, _, older, _⟩ := archived_group committed member found
          rw [floor]
          exact ⟨notSystem, erasable, archived_no_skill committed member found,
            older_turn position older inside⟩
        · intro callId
          by_cases some_ : ∃ index message, NewlyArchived session
              (commitBoundary session plan usage indexes triggerType eventId now) index message ∧
                Mentions message callId
          · obtain ⟨index, message, archived, mentions⟩ := some_
            obtain ⟨member, found⟩ := archives.mp archived
            apply Or.inl
            intro other also there active again
            exact archives.mpr
              ⟨mentions_archived committed member found mentions there active again, there⟩
          · apply Or.inr
            intro index message archived mentions
            exact some_ ⟨index, message, archived, mentions⟩
      · intro error failed
        cases failed
      · intro unused newEvent result _ nextEventId later
        refine ⟨{ eventId, newlyArchivedMessageCount := 0, idempotentReplay := true }, ?_, rfl⟩
        rw [commit_again committed unused newEvent]

/-- A turn with a tool call, and a newer one. -/
def Sample.lookedUp : Session :=
  .ofMessages [.user "u1" "uu",
    .assistant "a1" "a" (some [⟨"c", "function", ⟨"Read", "path"⟩⟩]),
    .toolResult "t1" "c" "tttt", .user "u2" "u"]

def Sample.constantDigests : Digests :=
  { activeState := fun _ => "state", tokenAccounting := fun _ => "accounting",
    planEvidence := fun _ => "evidence" }

def Sample.olderTurn : RetrievalWindowCandidatePlan :=
  { messageIdsToArchive := ["u1", "a1", "t1"], archiveMessageCount := 3, archiveGroupCount := 1,
    archiveUserTurnCount := 1, archiveMessageTokens := 8, activeMessageCount := 4,
    activeStateSha256 := "state", tokenAccountingSha256 := "accounting",
    activeTokensBefore := 10, projectedActiveTokensAfter := 2, contextWindowTokens := 10,
    requestInputLimitTokens := 10, targetTokens := 5, targetUsagePercent := 50,
    minRecentUserTurns := 1, fixedPromptTokens := 0, boundaryReclaimableTokens := 0,
    systemMessageTokens := 0, providerMessageTokenOverrideCount := 0,
    protectedActiveTokens := 2, retainedRecentUserTurnCount := 1, retainedUserTurnCount := 1,
    oldestRetainedMessageId := some "u2", oldestRetainedUserMessageId := some "u2",
    incompleteProtocolGroupCount := 0, evidenceSha256 := "evidence" }

theorem archiving_safe_lookedUp :
    let applied := applyRetrievalWindowPlanWithTrigger Sample.constantDigests Sample.lookedUp
      Sample.olderTurn { minRecentUserTurns := 1, targetUsagePercent := 50 }
      (.withSafetyMargin 10 0 0)
      { fixedPromptTokens := 0, boundaryReclaimableTokens := 0, providerMessageTokens := .empty }
      .auto "event" 0
    applied.2 = .ok { eventId := "event", newlyArchivedMessageCount := 3,
                      idempotentReplay := false } ∧
    (∀ index message, NewlyArchived Sample.lookedUp applied.1 index message →
      ¬ InNewestTurns Sample.lookedUp 1 index) ∧
    ∃ replay, applyRetrievalWindowPlanWithTrigger Sample.constantDigests applied.1
        Sample.olderTurn { minRecentUserTurns := 1, targetUsagePercent := 50 }
        (.withSafetyMargin 10 0 0)
        { fixedPromptTokens := 0, boundaryReclaimableTokens := 0, providerMessageTokens := .empty }
        .auto "again" 1 = (applied.1, .ok replay) ∧ replay.idempotentReplay = true := by
  have applied : (applyRetrievalWindowPlanWithTrigger Sample.constantDigests Sample.lookedUp
      Sample.olderTurn { minRecentUserTurns := 1, targetUsagePercent := 50 }
      (.withSafetyMargin 10 0 0)
      { fixedPromptTokens := 0, boundaryReclaimableTokens := 0, providerMessageTokens := .empty }
      .auto "event" 0).2 = .ok { eventId := "event", newlyArchivedMessageCount := 3,
                                 idempotentReplay := false } := by
    decide
  obtain ⟨safe, _, replays⟩ := archiving_safe Sample.constantDigests Sample.lookedUp
    Sample.olderTurn { minRecentUserTurns := 1, targetUsagePercent := 50 }
    (.withSafetyMargin 10 0 0)
    { fixedPromptTokens := 0, boundaryReclaimableTokens := 0, providerMessageTokens := .empty }
    .auto "event" 0
  refine ⟨applied, ?_, replays (by decide) (fun _ none => absurd none List.not_mem_nil) _
    applied "again" 1⟩
  intro index message archived
  exact ((safe _ applied rfl).1 index message archived).2.2.2

end Compression
