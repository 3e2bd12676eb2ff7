import BambooAgent.Compression.LogicalGroups
import Mathlib.Data.List.Pairwise
import Mathlib.Data.List.Flatten

/- What the grouping of a session holds: every active message once, in session order, each
   group a user message with what follows it, but for a preamble in front. -/
namespace Compression
open List

theorem mem_indexedMessages :
    indexed ∈ indexedMessages messages ↔
      messages[indexed.sessionIndex]? = some indexed.message := by
  unfold indexedMessages
  rw [mem_map]
  constructor
  · intro ⟨entry, member, same⟩
    rw [← same]
    exact mem_zipIdx_iff_getElem?.mp member
  · intro found
    exact ⟨(indexed.message, indexed.sessionIndex), mem_zipIdx_iff_getElem?.mpr found, rfl⟩

theorem indexedMessages_message (messages : List Message) :
    (indexedMessages messages).map (·.message) = messages := by
  rw [indexedMessages, map_map]
  exact zipIdx_map_fst 0 messages

theorem indexedMessages_ordered (messages : List Message) :
    (indexedMessages messages).Pairwise (fun a b => a.sessionIndex < b.sessionIndex) := by
  have ascending : ((indexedMessages messages).map (·.sessionIndex)).Pairwise (· < ·) := by
    have positions : (indexedMessages messages).map (·.sessionIndex) =
        List.range' 0 messages.length := by
      rw [indexedMessages, map_map]
      exact zipIdx_map_snd 0 messages
    rw [positions]
    exact pairwise_lt_range'
  exact pairwise_map.1 ascending

def isActive (indexed : IndexedMessage) : Bool := !indexed.message.compressed

def isSystem (indexed : IndexedMessage) : Bool := decide (indexed.message.role = .system)

def activeIndexed (session : Session) : List IndexedMessage :=
  (indexedMessages session.messages).filter isActive

/-- A user message and what follows it, or a preamble that no user message opens. -/
def TurnShaped (group : LogicalGroup) : Prop :=
  match group.userMessageId with
  | some userId => ∃ head rest, group.messages = head :: rest ∧ head.message.role = .user ∧
      head.message.id = userId ∧ ∀ indexed ∈ rest, indexed.message.role ≠ .user
  | none => group.messages ≠ [] ∧ ∀ indexed ∈ group.messages, indexed.message.role ≠ .user

/-- Where the grouping of the messages seen so far stands. -/
structure Grouped (seen : List IndexedMessage) (grouping : Grouping) : Prop where
  systems : grouping.systemMessages = (seen.filter isActive).filter isSystem
  turns : grouping.groups.flatMap (·.messages) =
    (seen.filter isActive).filter (fun indexed => !isSystem indexed)
  count : grouping.activeMessageCount = (seen.filter isActive).length
  shaped : ∀ group ∈ grouping.groups, TurnShaped group
  preamble : ∀ userId ∈ (grouping.groups.map (·.userMessageId)).tail, userId.isSome = true
  fresh : ∀ group ∈ grouping.groups,
    group.protocolSafe = true ∧ group.isProtected = false ∧ group.tokenCount = 0

theorem pushLast_messages (indexed : IndexedMessage) (groups : List LogicalGroup) :
    (pushLast groups indexed).flatMap (·.messages) =
      groups.flatMap (·.messages) ++ [indexed] := by
  induction groups with
  | nil => rfl
  | cons group rest ih =>
    cases rest with
    | nil => simp only [pushLast, flatMap_cons, flatMap_nil, append_nil]
    | cons next more =>
      rw [pushLast, flatMap_cons, ih, ← append_assoc]
      rfl

theorem pushLast_forall {motive : LogicalGroup → Prop} (opened : motive (.preamble indexed))
    (grown : ∀ group, motive group → motive { group with messages := group.messages ++ [indexed] })
    {groups : List LogicalGroup} (all : ∀ group ∈ groups, motive group) :
    ∀ group ∈ pushLast groups indexed, motive group := by
  induction groups with
  | nil =>
    intro group member
    rw [mem_singleton.1 member]
    exact opened
  | cons first rest ih =>
    cases rest with
    | nil =>
      intro group member
      rw [mem_singleton.1 member]
      exact grown first (all first mem_cons_self)
    | cons next more =>
      intro group member
      cases mem_cons.1 member with
      | inl here =>
        rw [here]
        exact all first mem_cons_self
      | inr later =>
        exact ih (fun group member => all group (mem_cons_of_mem _ member)) group later

theorem pushLast_userMessageIds (indexed : IndexedMessage) (groups : List LogicalGroup) :
    (pushLast groups indexed).map (·.userMessageId) =
      if groups = [] then [none] else groups.map (·.userMessageId) := by
  induction groups with
  | nil => rfl
  | cons group rest ih =>
    rw [if_neg (cons_ne_nil group rest)]
    cases rest with
    | nil => rfl
    | cons next more =>
      rw [if_neg (cons_ne_nil next more)] at ih
      rw [pushLast, map_cons, ih, map_cons (l := next :: more)]

theorem turnShaped_nonempty (shaped : TurnShaped group) : group.messages ≠ [] := by
  unfold TurnShaped at shaped
  split at shaped
  · obtain ⟨head, rest, whole, _⟩ := shaped
    rw [whole]
    exact cons_ne_nil head rest
  · exact shaped.1

theorem turnShaped_grown (notUser : indexed.message.role ≠ .user) (shaped : TurnShaped group) :
    TurnShaped { group with messages := group.messages ++ [indexed] } := by
  unfold TurnShaped at shaped ⊢
  dsimp only
  split at shaped
  case h_1 userId _ =>
    obtain ⟨head, rest, whole, role, id, others⟩ := shaped
    refine ⟨head, rest ++ [indexed], ?_, role, id, ?_⟩
    · rw [whole, cons_append]
    · intro other member
      cases mem_append.1 member with
      | inl old => exact others other old
      | inr new =>
        rw [mem_singleton.1 new]
        exact notUser
  case h_2 =>
    refine ⟨append_ne_nil_of_left_ne_nil shaped.1 _, ?_⟩
    intro other member
    cases mem_append.1 member with
    | inl old => exact shaped.2 other old
    | inr new =>
      rw [mem_singleton.1 new]
      exact notUser

theorem turnShaped_preamble (notUser : indexed.message.role ≠ .user) :
    TurnShaped (.preamble indexed) := by
  refine ⟨cons_ne_nil indexed [], ?_⟩
  intro other member
  rw [mem_singleton.1 member]
  exact notUser

section Step
variable {seen : List IndexedMessage} {grouping : Grouping} {indexed : IndexedMessage}

section
variable (grouped : Grouped seen grouping)
include grouped

section
variable (active : isActive indexed = true)
include active

theorem grouped_pushed (turn : isSystem indexed = false) (notUser : indexed.message.role ≠ .user) :
    Grouped (seen ++ [indexed])
      { grouping with
        activeMessageCount := grouping.activeMessageCount + 1
        groups := pushLast grouping.groups indexed } where
  systems := by
    rw [filter_append, filter_append, ← grouped.systems]
    simp [active, turn]
  turns := by
    rw [filter_append, filter_append, ← grouped.turns, pushLast_messages]
    simp [active, turn]
  count := by
    rw [filter_append, length_append, ← grouped.count]
    simp [active]
  shaped := by
    apply pushLast_forall (motive := TurnShaped)
    · exact turnShaped_preamble notUser
    · intro group shaped
      exact turnShaped_grown notUser shaped
    · exact grouped.shaped
  preamble := by
    rw [pushLast_userMessageIds]
    split
    · intro userId member
      cases member
    · exact grouped.preamble
  fresh := by
    apply pushLast_forall (motive := fun group =>
      group.protocolSafe = true ∧ group.isProtected = false ∧ group.tokenCount = 0)
    · exact ⟨rfl, rfl, rfl⟩
    · intro group fresh
      exact fresh
    · exact grouped.fresh

theorem grouped_opened (role : indexed.message.role = .user) :
    Grouped (seen ++ [indexed])
      { grouping with
        activeMessageCount := grouping.activeMessageCount + 1
        groups := grouping.groups ++ [.userTurn indexed] } where
  systems := by
    rw [filter_append, filter_append, ← grouped.systems]
    simp [active, isSystem, role]
  turns := by
    rw [filter_append, filter_append, ← grouped.turns]
    simp [active, isSystem, role, LogicalGroup.userTurn]
  count := by
    rw [filter_append, length_append, ← grouped.count]
    simp [active]
  shaped := by
    intro group member
    cases mem_append.1 member with
    | inl old => exact grouped.shaped group old
    | inr new =>
      rw [mem_singleton.1 new]
      exact ⟨indexed, [], rfl, role, rfl, fun _ none => absurd none not_mem_nil⟩
  preamble := by
    rw [map_append]
    intro userId member
    cases mem_append.1 (mem_of_mem_tail member) with
    | inl _ =>
      cases groups : grouping.groups.map (·.userMessageId) with
      | nil =>
        rw [groups] at member
        cases member
      | cons first rest =>
        rw [groups, ] at member
        cases mem_append.1 member with
        | inl old =>
          apply grouped.preamble
          rw [groups]
          exact old
        | inr new =>
          rw [mem_singleton.1 new]
          rfl
    | inr new =>
      rw [mem_singleton.1 new]
      rfl
  fresh := by
    intro group member
    cases mem_append.1 member with
    | inl old => exact grouped.fresh group old
    | inr new =>
      rw [mem_singleton.1 new]
      exact ⟨rfl, rfl, rfl⟩

theorem grouped_system (role : indexed.message.role = .system) :
    Grouped (seen ++ [indexed])
      { grouping with
        activeMessageCount := grouping.activeMessageCount + 1
        systemMessages := grouping.systemMessages ++ [indexed] } where
  systems := by
    rw [filter_append, filter_append, ← grouped.systems]
    simp [active, isSystem, role]
  turns := by
    rw [filter_append, filter_append, ← grouped.turns]
    simp [active, isSystem, role]
  count := by
    rw [filter_append, length_append, ← grouped.count]
    simp [active]
  shaped := grouped.shaped
  preamble := grouped.preamble
  fresh := grouped.fresh

end

theorem grouped_archived (archived : isActive indexed = false) :
    Grouped (seen ++ [indexed]) grouping := by
  have same : (seen ++ [indexed]).filter isActive = seen.filter isActive := by
    simp [archived]
  exact ⟨same ▸ grouped.systems, same ▸ grouped.turns, same ▸ grouped.count, grouped.shaped,
    grouped.preamble, grouped.fresh⟩

theorem grouped_step : Grouped (seen ++ [indexed]) (groupMessage grouping indexed) := by
  unfold groupMessage
  cases compressed : indexed.message.compressed with
  | true =>
    exact grouped_archived grouped (by simp [isActive, compressed])
  | false =>
    have active : isActive indexed = true := by simp [isActive, compressed]
    cases role : indexed.message.role with
    | system => exact grouped_system grouped active role
    | user => exact grouped_opened grouped active role
    | assistant => exact grouped_pushed grouped active (by simp [isSystem, role]) (by simp [role])
    | tool => exact grouped_pushed grouped active (by simp [isSystem, role]) (by simp [role])

end

end Step

theorem grouped_run (rest : List IndexedMessage) :
    ∀ seen grouping, Grouped seen grouping →
      Grouped (seen ++ rest) (rest.foldl groupMessage grouping) := by
  induction rest with
  | nil =>
    intro seen grouping grouped
    rw [append_nil]
    exact grouped
  | cons indexed rest ih =>
    intro seen grouping grouped
    have next := ih (seen ++ [indexed]) (groupMessage grouping indexed) (grouped_step grouped)
    rw [append_assoc] at next
    exact next

theorem buildLogicalGroups_grouped (session : Session) :
    Grouped (indexedMessages session.messages) (buildLogicalGroups session) := by
  have start : Grouped [] { systemMessages := [], groups := [], activeMessageCount := 0 } :=
    ⟨rfl, rfl, rfl, fun _ none => absurd none not_mem_nil,
      fun _ none => absurd none not_mem_nil, fun _ none => absurd none not_mem_nil⟩
  exact grouped_run (indexedMessages session.messages) [] _ start

end Compression
