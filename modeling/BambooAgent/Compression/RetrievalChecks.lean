import BambooAgent.Compression.GroupShapes
import BambooAgent.Compression.RetrievalApply

/- What the applier's checks say when they pass: which indexes the candidate ids name, which
   groups they cover, what a marked group owes to the marks, and what a commit changes. -/
namespace Compression
open Checks List Bool

/-- The groups of a session as planner and applier mark them. -/
def markedGroups (groups : List LogicalGroup) (minRecentUserTurns : Nat) : List LogicalGroup :=
  markProtectedGroups (markProtocolSafety groups) minRecentUserTurns

/-- The verdict of the protocol scan on a group. -/
def safeAmong (groups : List LogicalGroup) (group : LogicalGroup) : Bool :=
  (scanGroup group).safe && (scanGroup group).pendingCallIds.isEmpty &&
    (idsUsed (scanGroup group)).all (validCall (groups.map scanGroup))

def recentIndexes (groups : List LogicalGroup) (minRecentUserTurns : Nat) : List Nat :=
  (userGroupIndexes groups).drop ((userGroupIndexes groups).length - minRecentUserTurns)

theorem markProtocolSafety_map {β : Type} {read : LogicalGroup → β}
    (flagless : ∀ group safe, read { group with protocolSafe := safe } = read group) :
    (markProtocolSafety groups).map read = groups.map read := by
  unfold markProtocolSafety
  rw [map_map]
  apply map_congr_left
  intro group _
  exact flagless group _

theorem markProtectedGroups_map {β : Type} {read : LogicalGroup → β}
    (flagless : ∀ group isProtected, read { group with isProtected := isProtected } = read group) :
    (markProtectedGroups groups minRecentUserTurns).map read = groups.map read := by
  unfold markProtectedGroups
  rw [map_map]
  conv_rhs => rw [← zipIdx_map_fst 0 groups, map_map]
  apply map_congr_left
  intro entry _
  exact flagless entry.1 _

theorem markedGroups_map {β : Type} {read : LogicalGroup → β}
    (flagless : ∀ group safe isProtected,
      read { group with protocolSafe := safe, isProtected := isProtected } = read group) :
    (markedGroups groups minRecentUserTurns).map read = groups.map read := by
  unfold markedGroups
  rw [markProtectedGroups_map (fun group => flagless group group.protocolSafe),
    markProtocolSafety_map (fun group safe => flagless group safe group.isProtected)]

theorem userGroupIndexes_eq (groups : List LogicalGroup) :
    userGroupIndexes groups =
      ((groups.map (·.userMessageId)).zipIdx.filter (fun entry => entry.1.isSome)).map (·.2) := by
  rw [zipIdx_map, filter_map, map_map]
  rfl

theorem recentIndexes_safety :
    recentIndexes (markProtocolSafety groups) minRecentUserTurns =
      recentIndexes groups minRecentUserTurns := by
  unfold recentIndexes
  rw [userGroupIndexes_eq, userGroupIndexes_eq, markProtocolSafety_map (fun _ _ => rfl)]

structure MarkOf (groups : List LogicalGroup) (minRecentUserTurns index : Nat)
    (group marked : LogicalGroup) : Prop where
  found : groups[index]? = some group
  messages : marked.messages = group.messages
  userMessageId : marked.userMessageId = group.userMessageId
  protocolSafe : marked.protocolSafe = safeAmong groups group
  isProtected : marked.isProtected = (!marked.protocolSafe ||
    marked.messages.any (fun indexed => indexed.message.neverCompress) ||
    logicalGroupHasProtectedSkill marked ||
    (recentIndexes groups minRecentUserTurns).contains index)

theorem markedGroups_of {marked : LogicalGroup}
    (member : (marked, index) ∈ (markedGroups groups minRecentUserTurns).zipIdx) :
    ∃ group, MarkOf groups minRecentUserTurns index group marked := by
  have found := mem_zipIdx_iff_getElem?.mp member
  unfold markedGroups markProtectedGroups at found
  dsimp only at found
  rw [List.getElem?_map, List.getElem?_zipIdx, markProtocolSafety, List.getElem?_map] at found
  cases here : groups[index]? with
  | none =>
    rw [here] at found
    cases found
  | some group =>
    rw [here] at found
    cases Option.some.inj found
    refine ⟨group, here, rfl, rfl, rfl, ?_⟩
    rw [← recentIndexes_safety]
    simp only [zero_add]
    rfl

theorem marked_at (minRecentUserTurns : Nat) (found : groups[groupIndex]? = some group) :
    ∃ marked, (marked, groupIndex) ∈ (markedGroups groups minRecentUserTurns).zipIdx ∧
      MarkOf groups minRecentUserTurns groupIndex group marked := by
  have lengths : (markedGroups groups minRecentUserTurns).length = groups.length := by
    have same : (markedGroups groups minRecentUserTurns).map (·.userMessageId) =
        groups.map (·.userMessageId) := markedGroups_map (fun _ _ _ => rfl)
    simpa using congrArg List.length same
  have inside := (List.getElem?_eq_some_iff.1 found).1
  have present := List.getElem?_eq_getElem (lengths.symm ▸ inside)
  refine ⟨_, mem_zipIdx_iff_getElem?.mpr present, ?_⟩
  obtain ⟨original, mark⟩ := markedGroups_of (mem_zipIdx_iff_getElem?.mpr present)
  have same := mark.found
  rw [found] at same
  cases Option.some.inj same
  exact mark

theorem unprotected_facts (mark : MarkOf groups minRecentUserTurns index group marked)
    (free : marked.isProtected = false) :
    safeAmong groups group = true ∧
      (∀ indexed ∈ marked.messages, indexed.message.neverCompress = false) ∧
      logicalGroupHasProtectedSkill marked = false ∧
      index ∉ recentIndexes groups minRecentUserTurns := by
  have flags := mark.isProtected
  rw [free] at flags
  have parts := or_eq_false_iff.1 flags.symm
  have others := or_eq_false_iff.1 parts.1
  have first := or_eq_false_iff.1 others.1
  refine ⟨?_, ?_, others.2, ?_⟩
  · rw [← mark.protocolSafe]
    simpa using first.1
  · intro indexed member
    have none := any_eq_false.1 first.2 indexed member
    simpa using none
  · simpa using parts.2

/-- How many of a group's messages are candidates. -/
def coveredCount (candidateIds : List String) (group : LogicalGroup) : Nat :=
  group.messages.countP (fun indexed => candidateIds.contains indexed.message.id)

/-- A group that the candidates touch must be covered whole and be archivable. -/
def Archivable (candidateIds : List String) (group : LogicalGroup) : Prop :=
  coveredCount candidateIds group = group.messages.length ∧ group.protocolSafe = true ∧
    logicalGroupHasProtectedSkill group = false ∧ group.isProtected = false

theorem selectedGroups_eq_ok (entries : List (LogicalGroup × Nat)) :
    ∀ selected, selectedGroups candidateIds entries = .ok selected ↔
      (∀ entry ∈ entries, coveredCount candidateIds entry.1 ≠ 0 →
        Archivable candidateIds entry.1) ∧
      selected = (entries.filter
        (fun entry => coveredCount candidateIds entry.1 != 0)).map (·.2) := by
  induction entries with
  | nil =>
    intro selected
    constructor
    · intro run
      exact ⟨fun _ none => absurd none not_mem_nil, (Except.ok.inj run).symm⟩
    · intro ⟨_, same⟩
      rw [same]
      rfl
  | cons entry rest ih =>
    obtain ⟨group, groupIndex⟩ := entry
    intro selected
    rw [selectedGroups, ← coveredCount]
    split
    case isTrue untouched =>
      rw [ih]
      have skipped : ((group, groupIndex) :: rest).filter
          (fun entry => coveredCount candidateIds entry.1 != 0) =
          rest.filter (fun entry => coveredCount candidateIds entry.1 != 0) := by
        simp [untouched]
      rw [skipped]
      constructor
      · intro ⟨sound, same⟩
        refine ⟨?_, same⟩
        intro entry member touched
        cases mem_cons.1 member with
        | inl here =>
          rw [here] at touched
          exact absurd untouched touched
        | inr later => exact sound entry later touched
      · intro ⟨sound, same⟩
        exact ⟨fun entry member => sound entry (mem_cons_of_mem _ member), same⟩
    case isFalse touched =>
      have taken : ((group, groupIndex) :: rest).filter
          (fun entry => coveredCount candidateIds entry.1 != 0) = (group, groupIndex) ::
          rest.filter (fun entry => coveredCount candidateIds entry.1 != 0) := by
        simp [touched]
      rw [taken]
      simp only [bind_eq_ok, refuse_eq_ok, pure_eq_ok, ih, exists_const]
      constructor
      · intro ⟨whole, safe, noSkill, free, others, ⟨sound, same⟩, extended⟩
        refine ⟨?_, ?_⟩
        · intro entry member touched
          cases mem_cons.1 member with
          | inl here =>
            rw [here]
            exact ⟨not_not.1 whole, by simpa using safe, by simpa using noSkill,
              by simpa using free⟩
          | inr later => exact sound entry later touched
        · rw [← extended, same]
          rfl
      · intro ⟨sound, same⟩
        obtain ⟨whole, safe, noSkill, free⟩ := sound (group, groupIndex) mem_cons_self touched
        dsimp only at safe free
        refine ⟨not_not.2 whole, by simp [safe], by simp [noSkill], by simp [free], _,
          ⟨fun entry member => sound entry (mem_cons_of_mem _ member), rfl⟩, same.symm⟩

theorem mem_indexesOf :
    index ∈ indexesOf session messageId ↔
      ∃ message, session.messages[index]? = some message ∧ message.id = messageId := by
  unfold indexesOf
  rw [mem_map]
  constructor
  · intro ⟨entry, member, same⟩
    obtain ⟨inside, here⟩ := mem_filter.1 member
    have found := mem_zipIdx_iff_getElem?.mp inside
    rw [same, List.getElem?_map] at found
    obtain ⟨message, at_, named⟩ := Option.map_eq_some_iff.1 found
    exact ⟨message, at_, named.trans (of_decide_eq_true here)⟩
  · intro ⟨message, found, named⟩
    refine ⟨(messageId, index), mem_filter.2 ⟨?_, by simp⟩, rfl⟩
    apply mem_zipIdx_iff_getElem?.mpr
    rw [List.getElem?_map, found, ← named]
    rfl

theorem indexesOf_nodup (messageId : String) : (indexesOf session messageId).Nodup := by
  have positions : ((session.messages.map (·.id)).zipIdx.map (·.2)).Nodup := by
    have all := zipIdx_map_snd 0 (session.messages.map (·.id))
    rw [all]
    exact nodup_range'
  exact positions.sublist
    (List.Sublist.map (fun entry : String × Nat => entry.2) filter_sublist)

theorem indexesOf_unique (unique : (session.messages.map (·.id)).Nodup)
    (found : session.messages[index]? = some message) : indexesOf session message.id = [index] := by
  apply perm_singleton.1
  apply (perm_ext_iff_of_nodup (indexesOf_nodup message.id) (nodup_singleton index)).2
  intro other
  rw [mem_indexesOf, mem_singleton]
  constructor
  · intro ⟨same, there, named⟩
    have inside : other < (session.messages.map (·.id)).length := by
      rw [length_map]
      exact (List.getElem?_eq_some_iff.1 there).1
    apply (List.getElem?_inj inside unique).1
    rw [List.getElem?_map, List.getElem?_map, there, found]
    exact congrArg some named
  · intro same
    rw [same]
    exact ⟨message, found, rfl⟩

theorem resolveIndexes_eq_ok (messageIds : List String) :
    ∀ previousIndex indexes, resolveIndexes session messageIds previousIndex = .ok indexes ↔
      List.Forall₂ (fun messageId index => indexesOf session messageId = [index])
        messageIds indexes ∧
      (∀ previous ∈ previousIndex, ∀ index ∈ indexes, previous < index) ∧
      indexes.Pairwise (· < ·) := by
  induction messageIds with
  | nil =>
    intro previousIndex indexes
    rw [resolveIndexes, forall₂_nil_left_iff]
    constructor
    · intro run
      rw [← Except.ok.inj run]
      exact ⟨rfl, fun _ _ _ none => absurd none not_mem_nil, List.Pairwise.nil⟩
    · intro ⟨same, _⟩
      rw [same]
  | cons messageId rest ih =>
    intro previousIndex indexes
    rw [resolveIndexes]
    constructor
    · intro run
      split at run
      case h_1 => cases run
      case h_3 => cases run
      rename_i index single
      obtain ⟨_, here, run⟩ := bind_eq_ok.1 run
      cases here
      obtain ⟨_, ordered, run⟩ := bind_eq_ok.1 run
      obtain ⟨later, further, same⟩ := bind_eq_ok.1 run
      cases pure_eq_ok.1 same
      obtain ⟨related, above, ascending⟩ := (ih _ _).1 further
      have first := refuse_eq_ok.1 ordered
      refine ⟨.cons single related, ?_, ?_⟩
      · intro previous isPrevious other member
        have gap : previous < index := by
          by_contra notBelow
          exact first ⟨previous, isPrevious, Nat.le_of_not_lt notBelow⟩
        cases mem_cons.1 member with
        | inl same =>
          rw [same]
          exact gap
        | inr member => exact gap.trans (above index rfl other member)
      · exact pairwise_cons.2 ⟨above index rfl, ascending⟩
    · intro ⟨related, above, ascending⟩
      cases related with
      | cons single related =>
        rename_i index later
        rw [single]
        refine bind_eq_ok.2 ⟨index, rfl, bind_eq_ok.2 ⟨(), refuse_eq_ok.2 ?_,
          bind_eq_ok.2 ⟨later, (ih _ _).2 ⟨related, ?_, ?_⟩, rfl⟩⟩⟩
        · intro ⟨previous, isPrevious, notBelow⟩
          have gap := above previous isPrevious index mem_cons_self
          omega
        · intro previous isPrevious other member
          cases isPrevious
          exact (pairwise_cons.1 ascending).1 other member
        · exact (pairwise_cons.1 ascending).2

theorem checkCandidateIds_ok (entries : List (String × Nat)) :
    ∀ seen, (∀ entry ∈ entries, entry.1.isEmpty = false) →
      (entries.map (·.1)).Nodup → (∀ entry ∈ entries, entry.1 ∉ seen) →
      checkCandidateIds entries seen = .ok () := by
  induction entries with
  | nil =>
    intro seen _ _ _
    rfl
  | cons entry rest ih =>
    obtain ⟨messageId, index⟩ := entry
    intro seen named distinct fresh
    rw [map_cons, nodup_cons] at distinct
    have notEmpty := named (messageId, index) mem_cons_self
    have notSeen := fresh (messageId, index) mem_cons_self
    refine bind_eq_ok.2 ⟨(), refuse_eq_ok.2 (by simpa using notEmpty),
      bind_eq_ok.2 ⟨(), refuse_eq_ok.2 notSeen, ih _ ?_ distinct.2 ?_⟩⟩
    · intro entry member
      exact named entry (mem_cons_of_mem _ member)
    · intro entry member again
      cases mem_cons.1 again with
      | inl same =>
        apply distinct.1
        rw [← same]
        exact mem_map.2 ⟨entry, member, rfl⟩
      | inr old => exact fresh entry (mem_cons_of_mem _ member) old

section Committing
variable (eventId : String)

theorem archiveMessage_twice (message : Message) :
    archiveMessage eventId (archiveMessage eventId message) = archiveMessage eventId message := rfl

theorem archived_getElem (indexes : List Nat) :
    ∀ (messages : List Message) (position : Nat),
      (indexes.foldl (fun messages index => messages.modify index (archiveMessage eventId))
          messages)[position]? =
        if position ∈ indexes then messages[position]?.map (archiveMessage eventId)
        else messages[position]? := by
  induction indexes with
  | nil =>
    intro messages position
    rfl
  | cons index rest ih =>
    intro messages position
    rw [foldl_cons, ih, List.getElem?_modify]
    have mem : position ∈ index :: rest ↔ position = index ∨ position ∈ rest := mem_cons
    by_cases here : index = position
    · rw [if_pos (mem.2 (.inl here.symm))]
      cases messages[position]? with
      | none => simp
      | some message =>
        have marked : (if index = position then archiveMessage eventId message else message) =
            archiveMessage eventId message := if_pos here
        simp only [Option.map_eq_map, Option.map_some, marked, archiveMessage_twice, ite_self]
    · have others : (fun message => if index = position then archiveMessage eventId message
          else message) = id := by
        funext message
        exact if_neg here
      have same : position ∈ index :: rest ↔ position ∈ rest := by
        rw [mem]
        exact or_iff_right (fun same => here same.symm)
      simp only [others, same, id_map]

end Committing

end Compression
