import BambooAgent.Library.CommonOrder
import BambooAgent.Sessions.Durability

/- What a stale copy holds after the admitted messages, or all the durable ones, are merged into
   it. -/
namespace Sessions
open SortedMaps CommonOrder List Option

def ids (messages : List Message) : List String := messages.map (·.id)

theorem mem_ids {id : String} : id ∈ ids messages ↔ ∃ held ∈ messages, held.id = id := mem_map

theorem positionOf_none {id : String} : positionOf id messages = none ↔ id ∉ ids messages := by
  unfold positionOf
  rw [List.findIdx?_eq_none_iff, mem_ids]
  constructor
  · rintro none_ ⟨held, member, rfl⟩
    exact absurd (none_ held member) (by simp)
  · intro out held member
    exact beq_eq_false_iff_ne.2 (fun same => out ⟨held, member, same⟩)

theorem positionOf_some {id : String} (found : positionOf id messages = some index) :
    ∃ front held back, messages = front ++ held :: back ∧ front.length = index ∧ held.id = id := by
  obtain ⟨inside, same, _⟩ := List.findIdx?_eq_some_iff_getElem.1 found
  refine ⟨messages.take index, messages[index], messages.drop (index + 1), ?_, ?_, beq_iff_eq.1 same⟩
  · rw [getElem_cons_drop, take_append_drop]
  · exact length_take_of_le (le_of_lt inside)

theorem ids_append (front back : List Message) : ids (front ++ back) = ids front ++ ids back :=
  map_append

section Walk
variable {session durable : Session} {before after current : List Message} {message : Message}

theorem insertion_cut (whole : durable.messages = before ++ message :: after)
    (agree : Agree (ids current) (ids durable.messages)) (nodup : (ids current).Nodup)
    (new : message.id ∉ ids current) :
    common (ids (current.take (insertionIndex before after current))) (ids durable.messages) =
      common (ids before) (ids current) := by
  unfold insertionIndex
  cases behind : before.reverse.findSome? (fun predecessor =>
      (positionOf predecessor.id current).map (· + 1)) with
  | some index =>
    obtain ⟨skipped, item, earlier, reversed, placed, unplaced⟩ :=
      List.findSome?_eq_some_iff.1 behind
    obtain ⟨position, found, rfl⟩ := map_eq_some_iff.1 placed
    obtain ⟨front, held, back, rfl, rfl, same⟩ := positionOf_some found
    obtain rfl : before = earlier.reverse ++ item :: skipped.reverse := by
      rw [← reverse_reverse before, reversed]
      simp
    have taken : (front ++ held :: back).take (front.length + 1) = front ++ [held] := by
      simp [take_append]
    have last : ∀ id ∈ ids skipped.reverse, id ∉ ids (front ++ held :: back) := by
      intro id member
      obtain ⟨other, there, rfl⟩ := mem_ids.1 member
      exact positionOf_none.1 (map_eq_none_iff.1 (unplaced other (mem_reverse.1 there)))
    have left : ids (front ++ held :: back) = ids front ++ item.id :: ids back := by
      simp [ids, same]
    have right : ids durable.messages = ids earlier.reverse ++
        item.id :: (ids skipped.reverse ++ message.id :: ids after) := by
      rw [whole]
      simp [ids]
    have cut := cut_behind left right agree nodup last
    simp only [some_or, getD_some]
    rw [taken, ]
    simpa [ids, same] using cut
  | none =>
    have unplaced : ∀ id ∈ ids before, id ∉ ids current := by
      intro id member
      obtain ⟨other, there, rfl⟩ := mem_ids.1 member
      have none_ := List.findSome?_eq_none_iff.1 behind other (mem_reverse.2 there)
      exact positionOf_none.1 (map_eq_none_iff.1 none_)
    rw [none_or]
    cases ahead : after.findSome? (fun successor => positionOf successor.id current) with
    | some index =>
      obtain ⟨skipped, item, later, rfl, placed, missed⟩ := List.findSome?_eq_some_iff.1 ahead
      obtain ⟨front, held, back, rfl, rfl, same⟩ := positionOf_some placed
      have first : ∀ id ∈ ids before ++ (message.id :: ids skipped),
          id ∉ ids (front ++ held :: back) := by
        intro id member
        rcases mem_append.1 member with early | late
        · exact unplaced id early
        · rcases mem_cons.1 late with rfl | late
          · exact new
          · obtain ⟨other, there, rfl⟩ := mem_ids.1 late
            exact positionOf_none.1 (missed other there)
      rw [getD_some, take_left' rfl]
      have left : ids (front ++ held :: back) = ids front ++ item.id :: ids back := by
        simp [ids, same]
      have right : ids durable.messages = ids before ++
          (message.id :: ids skipped ++ item.id :: ids later) := by
        rw [whole]
        simp [ids]
      exact cut_before left right agree nodup first
    | none =>
      rw [getD_none, take_length]
      have none_ : ∀ id ∈ message.id :: ids after, id ∉ ids current := by
        intro id member
        rcases mem_cons.1 member with rfl | late
        · exact new
        · obtain ⟨other, there, rfl⟩ := mem_ids.1 late
          exact positionOf_none.1 (List.findSome?_eq_none_iff.1 ahead other there)
      have right : ids durable.messages = ids before ++ message.id :: ids after := by
        rw [whole]
        simp [ids]
      refine agree.trans ?_
      rw [right, common_append, common_nil none_, append_nil]

/-- What the walk has made of the copy when it has passed these durable messages. -/
structure Restored (session durable : Session) (before current : List Message) : Prop where
  kept : session.messages.Sublist current
  nodup : (ids current).Nodup
  agree : Agree (ids current) (ids durable.messages)
  drawn : ∀ message ∈ current, message ∈ session.messages ∨ message ∈ durable.messages ∧
    restorable durable message = true ∧ message.id ∉ ids session.messages
  covered : ∀ message ∈ before, restorable durable message = true →
    message ∈ current ∨ message.id ∈ ids session.messages

section
variable (there : (ids durable.messages).Nodup)
include there

theorem restored_insert (whole : durable.messages = before ++ message :: after)
    (so : Restored session durable before current) (admitted : restorable durable message = true)
    (new : message.id ∉ ids current) :
    Restored session durable (before ++ [message])
      (current.insertIdx (insertionIndex before after current) message) := by
  have cut := insertion_cut whole so.agree so.nodup new
  have old : message.id ∉ ids session.messages :=
    fun held => new ((so.kept.map _).subset held)
  have right : ids durable.messages = ids before ++ message.id :: ids after := by
    rw [whole]
    simp [ids]
  rw [insertIdx_split _ _ (insertionIndex_le before after current)]
  generalize insertionIndex before after current = place at cut
  obtain ⟨front, back, rfl, front_, back_⟩ : ∃ front back, current = front ++ back ∧
      current.take place = front ∧ current.drop place = back :=
    ⟨_, _, (take_append_drop place current).symm, rfl, rfl⟩
  rw [front_] at cut ⊢
  rw [back_]
  have same : ids (front ++ ([message] ++ back)) = ids front ++ message.id :: ids back := by
    simp [ids]
  rw [ids_append] at new
  refine ⟨so.kept.trans ?_, ?_, ?_, ?_, ?_⟩
  · exact (List.Sublist.refl front).append (sublist_append_right [message] back)
  · rw [same]
    exact nodup_append_comm.1 (nodup_cons.2 ⟨fun held => new (by simpa [or_comm] using held),
      nodup_append_comm.1 (ids_append front back ▸ so.nodup)⟩)
  · rw [same, right]
    rw [right] at there cut
    exact agree_insert (ids_append front back ▸ right ▸ so.agree) (ids_append front back ▸ cut) new
      (nodup_cons.1 (nodup_middle.1 there)).1
  · intro other member
    rcases mem_append.1 member with first | last
    · exact so.drawn other (mem_append_left _ first)
    · rcases mem_append.1 last with item | last
      · obtain rfl := mem_singleton.1 item
        exact .inr ⟨whole ▸ mem_append_right _ mem_cons_self, admitted, old⟩
      · exact so.drawn other (mem_append_right _ last)
  · intro other member wanted
    rcases mem_append.1 member with earlier | item
    · refine (so.covered other earlier wanted).imp_left (fun held => ?_)
      rcases mem_append.1 held with first | last
      · exact mem_append_left _ first
      · exact mem_append_right _ (mem_append_right _ last)
    · obtain rfl := mem_singleton.1 item
      exact .inl (mem_append_right _ (mem_append_left _ (mem_singleton_self _)))

theorem restored_skip (member : message ∈ durable.messages)
    (so : Restored session durable before current)
    (skipped : restorable durable message = true → message.id ∈ ids current) :
    Restored session durable (before ++ [message]) current := by
  refine { so with covered := fun other passed wanted => ?_ }
  rcases mem_append.1 passed with earlier | item
  · exact so.covered other earlier wanted
  · obtain rfl := mem_singleton.1 item
    obtain ⟨held, here, same⟩ := mem_ids.1 (skipped wanted)
    rcases so.drawn held here with own | ⟨restored, _⟩
    · exact .inr (mem_ids.2 ⟨held, own, same⟩)
    · exact .inl (inj_on_of_nodup_map there restored member same ▸ here)

theorem restored_walk :
    durable.messages = before ++ after → Restored session durable before current →
      Restored session durable durable.messages
        (restoreFrom durable.id durable.inboxAdmission before after current) := by
  induction after generalizing before current with
  | nil =>
    intro whole so
    rw [append_nil] at whole
    exact whole ▸ so
  | cons message rest ih =>
    intro whole so
    have later : durable.messages = (before ++ [message]) ++ rest := by
      rw [whole, append_assoc]
      rfl
    unfold restoreFrom
    dsimp only
    split
    · rename_i skip
      have member : message ∈ durable.messages := whole ▸ mem_append_right _ mem_cons_self
      refine ih later (restored_skip there member so (fun wanted => ?_))
      have here : current.any (fun held => held.id == message.id) = true := by
        simpa [show (typedMarker durable.id message || durable.inboxAdmission.any
          (fun state => state.contains message.id)) = true from wanted] using skip
      obtain ⟨held, present, same⟩ := any_eq_true.1 here
      exact mem_ids.2 ⟨held, present, beq_iff_eq.1 same⟩
    · rename_i missing
      rw [Bool.or_eq_true, not_or, Bool.not_eq_true', Bool.not_eq_false] at missing
      refine ih later (restored_insert there whole so missing.1 (fun here => missing.2 ?_))
      obtain ⟨held, member, same⟩ := mem_ids.1 here
      exact any_eq_true.2 ⟨held, member, beq_iff_eq.2 same⟩

end

theorem restoreFrom_stable :
    (∀ message ∈ after, (typedMarker sessionId message ||
      admission.any (fun state => state.contains message.id)) = true → message.id ∈ ids current) →
      restoreFrom sessionId admission before after current = current := by
  induction after generalizing before with
  | nil => exact fun _ => rfl
  | cons message rest ih =>
    intro held
    unfold restoreFrom
    rw [if_pos]
    · exact ih (fun other member => held other (.tail _ member))
    · cases wanted : (typedMarker sessionId message ||
          admission.any (fun state => state.contains message.id)) with
      | false => rfl
      | true =>
        obtain ⟨other, member, same⟩ := mem_ids.1 (held message mem_cons_self wanted)
        exact any_eq_true.2 ⟨other, member, beq_iff_eq.2 same⟩

end Walk

/- Appending. -/

theorem unseen_eq_filter (nodup : (ids messages).Nodup) :
    ∀ seen, unseenMessages seen messages = messages.filter (fun message => message.id ∉ seen) := by
  induction messages with
  | nil => exact fun _ => rfl
  | cons message rest ih =>
    intro seen
    obtain ⟨once, later⟩ := nodup_cons.1 nodup
    unfold unseenMessages
    split
    · rename_i old
      rw [ih later, filter_cons_of_neg (by simpa using old)]
    · rename_i new
      rw [ih later, filter_cons_of_pos (by simpa using new)]
      refine congrArg (message :: ·) (filter_congr (fun other member => ?_))
      have differs : other.id ≠ message.id := fun same => once (mem_ids.2 ⟨other, member, same⟩)
      simp [differs]

theorem appended_nodup {session durable : Session} (here : (ids session.messages).Nodup)
    (there : (ids durable.messages).Nodup) :
    (ids (durable.messages ++
      session.messages.filter (fun message => message.id ∉ ids durable.messages))).Nodup := by
  rw [ids_append, nodup_append]
  refine ⟨there, here.sublist ((filter_sublist).map _), fun id old other new same => ?_⟩
  obtain ⟨held, member, rfl⟩ := mem_ids.1 new
  have fresh := of_decide_eq_true (mem_filter.1 member).2
  exact fresh (same ▸ old)

/-- Both merges of a durable transcript into a stale copy are faithful: the one that restores what
    was admitted, and the one that appends what only the copy holds. -/
theorem transcript_merges_faithful (codec : Codec) (session durable : Session)
    (here : (ids session.messages).Nodup) (there : (ids durable.messages).Nodup)
    (order : Agree (ids session.messages) (ids durable.messages)) :
    let restored := restoreMissingAdmittedInboxMessages session durable
    let appended := appendMissingRuntimeMessages codec session durable
    Restored session durable durable.messages restored.messages ∧
      restoreMissingAdmittedInboxMessages restored durable = restored ∧
      appended.messages = durable.messages ++
        session.messages.filter (fun message => message.id ∉ ids durable.messages) ∧
      (ids appended.messages).Nodup ∧
      (∀ id ∈ ids session.messages, id ∈ ids appended.messages) ∧
      (appendMissingRuntimeMessages codec appended durable).messages = appended.messages := by
  intro restored appended
  have so : Restored session durable durable.messages restored.messages := by
    refine restored_walk there rfl ⟨.refl _, here, order, fun _ member => .inl member, ?_⟩
    exact fun _ member => (List.not_mem_nil member).elim
  have messages : appended.messages = durable.messages ++
      session.messages.filter (fun message => message.id ∉ ids durable.messages) :=
    congrArg (durable.messages ++ ·) (unseen_eq_filter here _)
  have nodup : (ids appended.messages).Nodup := by
    rw [messages]
    exact appended_nodup here there
  refine ⟨so, ?_, messages, nodup, ?_, ?_⟩
  · have same : restoreFrom durable.id durable.inboxAdmission [] durable.messages
        restored.messages = restored.messages := by
      refine restoreFrom_stable (fun message member wanted => ?_)
      rcases so.covered message member wanted with held | own
      · exact mem_ids.2 ⟨message, held, rfl⟩
      · exact (so.kept.map _).subset own
    exact congrArg (fun messages => { restored with messages := messages }) same
  · intro id member
    obtain ⟨held, own, rfl⟩ := mem_ids.1 member
    rw [messages, ids_append, List.mem_append]
    by_cases old : held.id ∈ ids durable.messages
    · exact .inl old
    · exact .inr (mem_ids.2 ⟨held, List.mem_filter.2 ⟨own, decide_eq_true old⟩, rfl⟩)
  · refine (congrArg (durable.messages ++ ·) (unseen_eq_filter nodup _)).trans ?_
    rw [messages, List.filter_append, List.filter_filter]
    have none_ : durable.messages.filter (fun message => message.id ∉ durable.messages.map (·.id)) =
        [] :=
      List.filter_eq_nil_iff.2 (fun message member new => of_decide_eq_true new
        (mem_ids.2 ⟨message, member, rfl⟩))
    rw [none_]
    refine congrArg (durable.messages ++ ·) (List.filter_congr (fun message _ => ?_))
    exact Bool.and_self _

def replyMessage : Message :=
  { Compression.Message.user "m2" "reply" with createdAt := 6, metadata := none }

/-- A copy that has the reply to an admitted message, but not the message. -/
theorem transcript_merges_faithful_sample :
    let session := { runnerCopy with messages := [replyMessage] }
    let durable := { runnerCopy with messages := [admittedMessage, replyMessage] }
    (restoreMissingAdmittedInboxMessages session durable).messages =
        [admittedMessage, replyMessage] ∧
      Restored session durable durable.messages
        (restoreMissingAdmittedInboxMessages session durable).messages :=
  ⟨by decide +kernel, (transcript_merges_faithful sampleCodec _ _ (by decide) (by decide)
    (by decide +kernel)).1⟩

end Sessions
