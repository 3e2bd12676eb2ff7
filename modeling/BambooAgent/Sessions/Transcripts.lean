import BambooAgent.Sessions.Lanes

/- What each helper of a save does to the transcript: where the messages it leaves come from,
   and which durable messages it brings back. -/
namespace Sessions
open List hiding after
open SortedMaps Compression

/-- Every message comes from the copy or from the durable transcript. -/
def Drawn (latest before after : List Message) : Prop :=
  ∀ message ∈ after, message ∈ before ∨ message ∈ latest

/-- Every id of the first transcript is in the second. -/
def IdsKept (before after : List Message) : Prop :=
  ∀ message ∈ before, ∃ held ∈ after, held.id = message.id

theorem drawn_refl (latest messages : List Message) : Drawn latest messages messages :=
  fun _ member => .inl member

theorem drawn_trans (first : Drawn latest a b) (second : Drawn latest b c) : Drawn latest a c := by
  intro message member
  rcases second message member with middle | durable
  · exact first message middle
  · exact .inr durable

theorem idsKept_refl (messages : List Message) : IdsKept messages messages :=
  fun message member => ⟨message, member, rfl⟩

theorem idsKept_trans (first : IdsKept a b) (second : IdsKept b c) : IdsKept a c := by
  intro message member
  obtain ⟨held, middle, same⟩ := first message member
  obtain ⟨last, late, again⟩ := second held middle
  exact ⟨last, late, again.trans same⟩

theorem idsKept_of_subset (subset : ∀ m ∈ a, m ∈ b) : IdsKept a b :=
  fun message member => ⟨message, subset message member, rfl⟩

/- Appending what is missing. -/

theorem mem_unseen (member : message ∈ unseenMessages seen messages) :
    message ∈ messages ∧ message.id ∉ seen := by
  induction messages generalizing seen with
  | nil => simp [unseenMessages] at member
  | cons first rest ih =>
    unfold unseenMessages at member
    split at member
    · obtain ⟨inRest, fresh⟩ := ih member
      exact ⟨mem_cons_of_mem first inRest, fresh⟩
    · rename_i new
      rcases mem_cons.1 member with rfl | later
      · exact ⟨mem_cons_self, new⟩
      · obtain ⟨inRest, fresh⟩ := ih later
        exact ⟨mem_cons_of_mem first inRest,
          fun old => fresh (mem_cons_of_mem first.id old)⟩

theorem messages_appendMissing (codec : Codec) (session durable : Session) :
    (appendMissingRuntimeMessages codec session durable).messages =
      durable.messages ++ unseenMessages (durable.messages.map (·.id)) session.messages := rfl

theorem drawn_appendMissing (codec : Codec) (session durable : Session) :
    Drawn durable.messages session.messages
      (appendMissingRuntimeMessages codec session durable).messages := by
  intro message member
  rcases mem_append.1 member with old | new
  · exact .inr old
  · exact .inl (mem_unseen new).1

theorem appendMissing_durable (codec : Codec) (session durable : Session)
    (member : message ∈ durable.messages) :
    message ∈ (appendMissingRuntimeMessages codec session durable).messages := by
  exact mem_append_left _ member

/- Restoring what was admitted. -/

theorem positionOf_lt {id : String} (found : positionOf id messages = some index) :
    index < messages.length := by
  exact (List.findIdx?_eq_some_iff_getElem.1 found).1

theorem insertionIndex_le (before after current : List Message) :
    insertionIndex before after current ≤ current.length := by
  unfold insertionIndex
  cases found : (before.reverse.findSome? (fun predecessor =>
      (positionOf predecessor.id current).map (· + 1))).or
      (after.findSome? (fun successor => positionOf successor.id current)) with
  | none => simp
  | some index =>
    simp only [Option.getD_some]
    rcases Option.or_eq_some_iff.1 found with left | ⟨_, right⟩
    · obtain ⟨predecessor, _, placed⟩ := exists_of_findSome?_eq_some left
      obtain ⟨position, here, next⟩ := Option.map_eq_some_iff.1 placed
      have inside := positionOf_lt here
      omega
    · obtain ⟨successor, _, placed⟩ := exists_of_findSome?_eq_some right
      have inside := positionOf_lt placed
      omega

theorem mem_inserted {current : List Message} :
    other ∈ current.insertIdx (insertionIndex before after current) message ↔
      other = message ∨ other ∈ current :=
  mem_insertIdx (insertionIndex_le before after current)

/-- What `restore_missing_admitted_inbox_messages` brings back by itself. -/
def restorable (latest : Session) (message : Message) : Bool :=
  typedMarker latest.id message ||
    latest.inboxAdmission.any (fun state => state.contains message.id)

theorem insertIdx_split {α : Type} (values : List α) (value : α) (inside : index ≤ values.length) :
    values.insertIdx index value = values.take index ++ ([value] ++ values.drop index) := by
  induction values generalizing index with
  | nil =>
    have zero : index = 0 := by simpa using inside
    simp [zero]
  | cons head rest ih =>
    cases index with
    | zero => rfl
    | succ n =>
      rw [insertIdx_succ_cons, ih (by simpa using inside)]
      rfl

theorem restore_kept : ∀ {before current : List Message} {message : Message},
    message ∈ current → message ∈ restoreFrom sessionId admission before after current := by
  induction after with
  | nil => exact fun member => member
  | cons next rest ih =>
    intro before current message member
    unfold restoreFrom
    dsimp only
    split
    · exact ih member
    · exact ih (mem_inserted.2 (.inr member))

theorem restore_drawn : ∀ {before current : List Message},
    Drawn after current (restoreFrom sessionId admission before after current) := by
  induction after with
  | nil => exact fun message member => .inl member
  | cons next rest ih =>
    intro before current message member
    unfold restoreFrom at member
    dsimp only at member
    split at member
    · rcases ih message member with held | durable
      · exact .inl held
      · exact .inr (mem_cons_of_mem next durable)
    · rcases ih message member with held | durable
      · rcases mem_inserted.1 held with rfl | old
        · exact .inr mem_cons_self
        · exact .inl old
      · exact .inr (mem_cons_of_mem next durable)

theorem restore_rule {P : List Message → Prop}
    (insert : ∀ front back : List Message, ∀ message ∈ after,
      (typedMarker sessionId message || admission.any (fun state => state.contains message.id)) =
        true →
      (∀ held ∈ front ++ back, held.id ≠ message.id) → P (front ++ back) →
        P (front ++ ([message] ++ back))) :
    ∀ before current : List Message, P current →
      P (restoreFrom sessionId admission before after current) := by
  induction after with
  | nil => exact fun _ _ start => start
  | cons next rest ih =>
    intro before current start
    have later := ih (fun front back message member =>
      insert front back message (mem_cons_of_mem next member))
    unfold restoreFrom
    dsimp only
    split
    · exact later _ _ start
    · rename_i missing
      simp only [Bool.or_eq_true, Bool.not_eq_true', not_or, Bool.not_eq_false,
        Bool.not_eq_true] at missing
      have whole := take_append_drop (insertionIndex before rest current) current
      refine later _ _ ?_
      rw [insertIdx_split _ _ (insertionIndex_le before rest current)]
      refine insert _ _ next mem_cons_self (Bool.or_eq_true _ _ ▸ missing.1) ?_ ?_
      · rw [whole]
        intro held member same
        exact absurd missing.2 (by
          rw [Bool.not_eq_false, any_eq_true]
          exact ⟨held, member, by simp [same]⟩)
      · rw [whole]
        exact start

theorem restore_held : ∀ {before current : List Message} {message : Message},
    message ∈ after →
    (typedMarker sessionId message || admission.any (fun state => state.contains message.id)) =
      true →
    ∃ held ∈ restoreFrom sessionId admission before after current, held.id = message.id := by
  induction after with
  | nil => exact fun member => nomatch member
  | cons next rest ih =>
    intro before current message member admitted
    unfold restoreFrom
    dsimp only
    split
    · rename_i skipped
      rcases mem_cons.1 member with rfl | later
      · have present : current.any (fun held => held.id == message.id) = true := by
          simpa [admitted] using skipped
        obtain ⟨held, there, same⟩ := any_eq_true.1 present
        exact ⟨held, restore_kept there, by simpa using same⟩
      · exact ih later admitted
    · rcases mem_cons.1 member with rfl | later
      · exact ⟨message, restore_kept (mem_inserted.2 (.inl rfl)), rfl⟩
      · exact ih later admitted

/- Helpers that leave the transcript alone, or add to it from the durable one. -/

@[simp] theorem messages_prune (session : Session) :
    session.pruneRuntimeMetadata.messages = session.messages := by
  unfold Session.pruneRuntimeMetadata
  split <;> rfl

@[simp] theorem messages_adoptTaskControlPlane (session durable : Session) :
    (adoptDurableTaskControlPlane session durable).messages = session.messages := by
  unfold adoptDurableTaskControlPlane
  split
  · exact messages_prune _
  · exact messages_prune _

@[simp] theorem messages_mergeAdmission (session durable : Session) :
    (mergeSessionInboxAdmission session durable).messages = session.messages := by
  unfold mergeSessionInboxAdmission
  split <;> rfl

@[simp] theorem messages_adoptPosture (rfc3339 : String → Bool) (clock : Clock)
    (session latest : Session) :
    (adoptFresherDiskPermissionPosture rfc3339 clock session latest).messages =
      session.messages := by
  unfold adoptFresherDiskPermissionPosture
  split
  · rfl
  · dsimp only
    split <;> rfl

@[simp] theorem messages_adoptLedger (session latest : Session) :
    (adoptFresherDurableModelContextState session latest).messages = session.messages := by
  unfold adoptFresherDurableModelContextState
  split <;> rfl

@[simp] theorem messages_adoptTaggedWait (session latest : Session) :
    (adoptDurableTaggedChildWait session latest).1.messages = session.messages := by
  unfold adoptDurableTaggedChildWait
  repeat' split
  all_goals rfl

theorem messages_ite [Decidable c] {left right : Session} {messages : List Message}
    (whenTrue : left.messages = messages) (whenFalse : right.messages = messages) :
    (if c then left else right).messages = messages := by
  split
  · exact whenTrue
  · exact whenFalse

@[simp] theorem messages_adoptFinalizedWait (codec : Codec) (session latest : Session) :
    (adoptFinalizedChildWait codec session latest).1.messages = session.messages := by
  unfold adoptFinalizedChildWait
  split
  · split
    · rfl
    · exact messages_ite rfl rfl
  · rfl

theorem messages_adoptOutcomes
    (run : adoptDurableSupervisedOutcomes codec session latest = .ok supervised) :
    supervised.messages = session.messages := by
  obtain ⟨_, rfl, _⟩ := adoptOutcomes_ok run
  rfl

theorem drawn_preserveResumesOf (latest : Session) (outcome : Session × Option Nat) :
    Drawn latest.messages outcome.1.messages (preserveResumesOf latest outcome).messages := by
  intro message member
  unfold preserveResumesOf preserveFinalizedHiddenChildResumes at member
  split at member
  · rcases mem_append.1 member with held | missing
    · exact .inl held
    · exact .inr (mem_filter.1 missing).1
  · exact .inl member

theorem drawn_adoptHandoff
    (run : adoptDurableActorParentQuestionHandoff codec session durable = .ok handed) :
    Drawn durable.messages session.messages handed.messages := by
  unfold adoptDurableActorParentQuestionHandoff at run
  dsimp only at run
  split at run
  · cases run
    exact drawn_refl _ _
  · split at run
    · cases run
    · cases run
      exact fun message member => .inr member

theorem drawn_adoptConsumed (codec : Codec) (session durable : Session) :
    Drawn durable.messages session.messages
      (adoptDurableConsumedClarification codec session durable).messages := by
  unfold adoptDurableConsumedClarification
  split
  · exact drawn_refl _ _
  · split
    · exact drawn_refl _ _
    · exact drawn_appendMissing codec session durable

section
variable (session latest : Session)

@[simp] theorem messages_adoptGenerations :
    (adoptChildGenerations session latest).messages = session.messages := by
  unfold adoptChildGenerations adoptIntentGeneration adoptCancelledGeneration
    adoptLaunchGeneration
  dsimp only
  repeat' split
  all_goals rfl

@[simp] theorem messages_adoptProject : (session.adoptProject latest).messages = session.messages := by
  unfold Session.adoptProject
  split
  · rfl
  · exact messages_prune _

@[simp] theorem messages_adoptWorkspacePath :
    (session.adoptWorkspacePath latest).messages = session.messages := by
  unfold Session.adoptWorkspacePath
  split <;> rfl

@[simp] theorem messages_adoptProjectContext :
    (adoptProjectContext session latest).messages = session.messages := by
  unfold adoptProjectContext
  split
  · exact (messages_adoptWorkspacePath _ latest).trans (messages_adoptProject session latest)
  · rfl

@[simp] theorem messages_adoptRootMode : (adoptRootMode session latest).messages = session.messages := by
  unfold adoptRootMode adoptRootToolAuthorityFrom
  split
  · split <;> rfl
  · rfl

@[simp] theorem messages_applyAuthoritative :
    (applyAuthoritativeMetadata session latest).messages = session.messages := by
  have fence : (adoptActivationFence session latest).messages = session.messages := by
    unfold adoptActivationFence
    split <;> rfl
  have identity : ∀ s : Session, (adoptAuthorityIdentity s latest).messages = s.messages := by
    intro s
    unfold adoptAuthorityIdentity
    split <;> rfl
  have management : ∀ s : Session,
      (adoptSupervisorManagement s latest).messages = s.messages := by
    intro s
    unfold adoptSupervisorManagement
    split <;> rfl
  have group : ∀ s : Session, (adoptMetadataGroup s latest).messages = s.messages := by
    intro s
    unfold adoptMetadataGroup
    split <;> rfl
  unfold applyAuthoritativeMetadata
  rw [group, messages_adoptProjectContext, management, messages_adoptRootMode, identity,
    messages_adoptGenerations, fence]

end

end Sessions
