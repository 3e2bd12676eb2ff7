import BambooAgent.Sessions.Durability

/- Answered questions: what a session records of one, and which saves keep the record and the
   question closed. -/
namespace Sessions
open SortedMaps Compression Checks SortedMap Option

/- The pending question and the ledger of answers, through the helpers of a save. -/

/-- The pending question and the text of the occurrence ledger. -/
def Session.asks (session : Session) : Option PendingQuestion × Option String :=
  (session.pendingQuestion, session.metadata.lookup consumedResponseOccurrencesKey)

variable {session : Session}

theorem asks_congr {other : Session} (pending : other.pendingQuestion = session.pendingQuestion)
    (ledger : other.metadata.lookup consumedResponseOccurrencesKey =
      session.metadata.lookup consumedResponseOccurrencesKey) : other.asks = session.asks := by
  simp only [Session.asks, pending, ledger]

theorem asks_ite [Decidable c] {left right : Session}
    {asks : Option PendingQuestion × Option String} (whenTrue : left.asks = asks)
    (whenFalse : right.asks = asks) : (if c then left else right).asks = asks := by
  split
  · exact whenTrue
  · exact whenFalse

section
variable (session : Session)

@[simp] theorem asks_prune : session.pruneRuntimeMetadata.asks = session.asks := by
  rw [prune_fields session]
  rfl

@[simp] theorem asks_setTaskListVersionMeta (value : String) :
    (session.setTaskListVersionMeta value).asks = session.asks :=
  asks_congr rfl (lookup_insert_other _ _ (by decide))

@[simp] theorem asks_setLastRunStatus (value : String) :
    (session.setLastRunStatus value).asks = session.asks :=
  asks_congr rfl (lookup_insert_other _ _ (by decide))

@[simp] theorem asks_setWorkspacePathMeta (value : String) :
    (session.setWorkspacePathMeta value).asks = session.asks :=
  asks_congr rfl (lookup_insert_other _ _ (by decide))

@[simp] theorem asks_setProjectIdMeta (value : String) :
    (session.setProjectIdMeta value).asks = session.asks :=
  asks_congr rfl (lookup_insert_other _ _ (by decide))

@[simp] theorem asks_clearProjectIdMeta : session.clearProjectIdMeta.asks = session.asks := by
  unfold Session.clearProjectIdMeta
  rw [asks_prune]
  exact asks_congr rfl (lookup_erase_other _ (by decide))

end

@[simp] theorem asks_appendMissing (codec : Codec) (session durable : Session) :
    (appendMissingRuntimeMessages codec session durable).asks = session.asks := rfl

@[simp] theorem asks_restoreMissing (session durable : Session) :
    (restoreMissingAdmittedInboxMessages session durable).asks = session.asks := rfl

@[simp] theorem asks_mergeAdmission (session durable : Session) :
    (mergeSessionInboxAdmission session durable).asks = session.asks := by
  unfold mergeSessionInboxAdmission
  split <;> rfl

@[simp] theorem asks_adoptLedger (session latest : Session) :
    (adoptFresherDurableModelContextState session latest).asks = session.asks := by
  unfold adoptFresherDurableModelContextState
  split <;> rfl

@[simp] theorem asks_adoptPosture (rfc3339 : String → Bool) (clock : Clock)
    (session latest : Session) :
    (adoptFresherDiskPermissionPosture rfc3339 clock session latest).asks = session.asks := by
  unfold adoptFresherDiskPermissionPosture
  split
  · rfl
  · dsimp only
    split
    · rfl
    · exact asks_congr rfl (lookup_writeTo _ _ (by decide))

@[simp] theorem asks_adoptTaskControlPlane (session durable : Session) :
    (adoptDurableTaskControlPlane session durable).asks = session.asks := by
  unfold adoptDurableTaskControlPlane
  dsimp only
  split
  on_goal 1 => rw [asks_setTaskListVersionMeta]
  all_goals
    rw [asks_prune]
    exact asks_congr rfl (lookup_erase_other _ (by decide))

@[simp] theorem asks_placePrompt (prompt : Option String) (draw : Draw) (session : Session) :
    (placePrompt prompt draw session).asks = session.asks := by
  unfold placePrompt
  split <;> rfl

theorem asks_adoptOutcomes
    (run : adoptDurableSupervisedOutcomes codec session latest = .ok supervised) :
    supervised.asks = session.asks := by
  obtain ⟨_, rfl, _⟩ := adoptOutcomes_ok run
  rfl

@[simp] theorem asks_preserveResumesOf (latest : Session) (outcome : Session × Option Nat) :
    (preserveResumesOf latest outcome).asks = outcome.1.asks := by
  unfold preserveResumesOf
  split <;> rfl

@[simp] theorem asks_adoptTaggedWait (session latest : Session) :
    (adoptDurableTaggedChildWait session latest).1.asks = session.asks := by
  unfold adoptDurableTaggedChildWait
  repeat' split
  all_goals
    first
    | rfl
    | exact asks_congr rfl (lookup_erase_other _ (by decide))

@[simp] theorem asks_adoptFinalizedWait (codec : Codec) (session latest : Session) :
    (adoptFinalizedChildWait codec session latest).1.asks = session.asks := by
  unfold adoptFinalizedChildWait
  split
  · split
    · rfl
    · have adopted : ∀ (state : AgentRuntimeState) (metadata : Metadata),
          metadata.lookup consumedResponseOccurrencesKey =
            session.metadata.lookup consumedResponseOccurrencesKey →
          Session.asks { session with
              agentRuntimeState := some state,
              metadata := mirrorRuntimeState codec state metadata } = session.asks :=
        fun state metadata same =>
          asks_congr rfl ((lookup_mirror codec state metadata (by decide)).trans same)
      have reasons : ∀ cleared : Bool,
          (if cleared then adoptKey latest.metadata session.metadata suspendReasonKey
            else session.metadata).lookup consumedResponseOccurrencesKey =
            session.metadata.lookup consumedResponseOccurrencesKey := by
        intro cleared
        cases cleared with
        | true => exact (lookup_adoptKey _ _ _ _).trans (if_neg (by decide))
        | false => rfl
      refine asks_ite ?_ ?_
      · rw [asks_setLastRunStatus]
        exact adopted _ _ (reasons _)
      · exact adopted _ _ (reasons _)
  · rfl

/- The authoritative step. -/

section
variable (session latest : Session)

@[simp] theorem asks_adoptGenerations : (adoptChildGenerations session latest).asks = session.asks := by
  unfold adoptChildGenerations adoptIntentGeneration adoptCancelledGeneration
    adoptLaunchGeneration
  dsimp only
  repeat' split
  all_goals rfl

@[simp] theorem asks_adoptProject : (session.adoptProject latest).asks = session.asks := by
  unfold Session.adoptProject
  split
  · exact asks_setProjectIdMeta session _
  · exact asks_clearProjectIdMeta session

@[simp] theorem asks_adoptWorkspacePath : (session.adoptWorkspacePath latest).asks = session.asks := by
  unfold Session.adoptWorkspacePath
  split
  · exact asks_setWorkspacePathMeta session _
  · exact asks_congr rfl (lookup_erase_other _ (by decide))

@[simp] theorem asks_adoptProjectContext : (adoptProjectContext session latest).asks = session.asks := by
  unfold adoptProjectContext
  split
  · refine Eq.trans (b := ((session.adoptProject latest).adoptWorkspacePath latest).asks)
      (asks_congr rfl ?_) (by rw [asks_adoptWorkspacePath, asks_adoptProject])
    exact (lookup_adoptKeys _ _ _ _).trans (if_neg (by decide))
  · rfl

@[simp] theorem asks_adoptRootMode : (adoptRootMode session latest).asks = session.asks := by
  unfold adoptRootMode adoptRootToolAuthorityFrom
  split
  · split <;> rfl
  · rfl

@[simp] theorem asks_adoptFence : (adoptActivationFence session latest).asks = session.asks := by
  unfold adoptActivationFence
  split
  · exact asks_congr rfl ((lookup_adoptKey _ _ _ _).trans (if_neg (by decide)))
  · rfl

@[simp] theorem asks_adoptGroup : (adoptMetadataGroup session latest).asks = session.asks := by
  unfold adoptMetadataGroup
  split
  · exact asks_congr rfl ((lookup_adoptKeys _ _ _ _).trans (if_neg (by decide)))
  · rfl

@[simp] theorem asks_applyAuthoritative :
    (applyAuthoritativeMetadata session latest).asks = session.asks := by
  have identity : ∀ s : Session, (adoptAuthorityIdentity s latest).asks = s.asks := by
    intro s
    unfold adoptAuthorityIdentity
    split <;> rfl
  have management : ∀ s : Session, (adoptSupervisorManagement s latest).asks = s.asks := by
    intro s
    unfold adoptSupervisorManagement
    split <;> rfl
  unfold applyAuthoritativeMetadata
  rw [asks_adoptGroup, asks_adoptProjectContext, management, asks_adoptRootMode, identity,
    asks_adoptGenerations, asks_adoptFence]

end

/- Occurrences in a transcript. -/

section Occurrences
variable (codec : Codec)

/-- The last result of a call. -/
def occurrenceIn (messages : List Message) (toolCallId : String) : Option ResponseOccurrence :=
  (messages.reverse.find? (fun message => message.toolCallId == some toolCallId)).map
    (fun message =>
      { toolCallId, toolResultMessageId := message.id,
        permissionGeneration := permissionRequestGeneration codec message })

theorem latest_eq (session : Session) (toolCallId : String) :
    latestResponseOccurrence codec session toolCallId =
      occurrenceIn codec session.messages toolCallId := rfl

variable {codec}

theorem occurrenceIn_append (first second : List Message) (toolCallId : String) :
    occurrenceIn codec (first ++ second) toolCallId =
      (occurrenceIn codec second toolCallId).or (occurrenceIn codec first toolCallId) := by
  unfold occurrenceIn
  rw [List.reverse_append, List.find?_append]
  cases second.reverse.find? (fun message => message.toolCallId == some toolCallId) <;> rfl

theorem occurrenceIn_none (silent : ∀ m ∈ messages, m.toolCallId ≠ some toolCallId) :
    occurrenceIn codec messages toolCallId = none := by
  unfold occurrenceIn
  rw [map_eq_none_iff, List.find?_eq_none]
  intro m member
  simpa using silent m (List.mem_reverse.1 member)

theorem occurrenceIn_found (found : occurrenceIn codec messages toolCallId = some occurrence) :
    occurrence.toolCallId = toolCallId ∧ ∃ m ∈ messages, m.id = occurrence.toolResultMessageId := by
  obtain ⟨m, there, rfl⟩ := map_eq_some_iff.1 found
  exact ⟨rfl, m, List.mem_reverse.1 (List.mem_of_find?_eq_some there), rfl⟩

theorem occurrenceIn_insert (before added after : List Message)
    (other : ∀ m ∈ added, m.id ≠ occurrence.toolResultMessageId)
    (found : occurrenceIn codec (before ++ (added ++ after)) toolCallId = some occurrence) :
    occurrenceIn codec (before ++ after) toolCallId = some occurrence := by
  rw [occurrenceIn_append, occurrenceIn_append] at found
  rw [occurrenceIn_append]
  cases late : occurrenceIn codec after toolCallId with
  | some last =>
    rw [late] at found
    exact found
  | none =>
    rw [late] at found
    cases middle : occurrenceIn codec added toolCallId with
    | some new =>
      rw [middle] at found
      cases found
      obtain ⟨m, member, same⟩ := (occurrenceIn_found middle).2
      exact absurd same (other m member)
    | none =>
      rw [middle] at found
      exact found

end Occurrences

def pendingOccurrence (codec : Codec) (session : Session) : Option ResponseOccurrence :=
  session.pendingQuestion.bind (fun pending =>
    latestResponseOccurrence codec session pending.toolCallId)

/- What a session records of an answered question. -/

/-- A question that was answered: its occurrence, and what was answered. -/
structure Answer where
  occurrence : ResponseOccurrence
  content : String

/-- The answer is the result of the call that asked. -/
def Answer.HeldBy (answer : Answer) (messages : List Message) : Prop :=
  ∃ m ∈ messages, m.id = answer.occurrence.toolResultMessageId ∧
    m.toolCallId = some answer.occurrence.toolCallId ∧ m.role = .tool ∧
    m.content = answer.content

structure Recorded (codec : Codec) (answer : Answer) (session : Session) : Prop where
  ledger : ∃ text consumed, session.asks.2 = some text ∧
    codec.occurrences text = some consumed ∧ answer.occurrence ∈ consumed
  response : answer.HeldBy session.messages

/-- The answer is recorded, and the question is not pending. -/
structure Settled (codec : Codec) (answer : Answer) (session : Session) : Prop where
  recorded : Recorded codec answer session
  closed : pendingOccurrence codec session ≠ some answer.occurrence

/-- The copy still carries an ask that the durable session has consumed. -/
def StillAsks (codec : Codec) (latest session : Session) : Prop :=
  ∃ pending, session.pendingQuestion = some pending ∧
    wasConsumed codec session latest pending.toolCallId = true

/-- Only the result of a call names one, and a resume of a wait is no such result. -/
def Plain (message : Message) : Prop :=
  message.toolCallId.isSome →
    message.role = .tool ∧
      (message.metadata.bind MessageMetadata.runtimeKind).any (· ∈ resumeKinds) = false

section Answers
variable {answer : Answer}

theorem heldBy_mono (kept : ∀ m ∈ before, m ∈ after) (held : answer.HeldBy before) :
    answer.HeldBy after := by
  obtain ⟨m, member, response⟩ := held
  exact ⟨m, kept m member, response⟩

theorem recorded_congr (recorded : Recorded codec answer session) (asks : next.asks = session.asks)
    (kept : ∀ m ∈ session.messages, m ∈ next.messages) : Recorded codec answer next where
  ledger := by
    rw [asks]
    exact recorded.ledger
  response := heldBy_mono kept recorded.response

theorem pendingOccurrence_congr (asks : next.asks = session.asks)
    (messages : next.messages = session.messages) :
    pendingOccurrence codec next = pendingOccurrence codec session := by
  have pending : next.pendingQuestion = session.pendingQuestion := congrArg Prod.fst asks
  simp only [pendingOccurrence, latest_eq, pending, messages]

theorem settled_congr (settled : Settled codec answer session) (asks : next.asks = session.asks)
    (messages : next.messages = session.messages) : Settled codec answer next where
  recorded := recorded_congr settled.recorded asks (by
    rw [messages]
    exact fun _ member => member)
  closed := by
    rw [pendingOccurrence_congr asks messages]
    exact settled.closed

theorem consumed_of_recorded {pending : PendingQuestion} (recorded : Recorded codec answer latest)
    (found : latestResponseOccurrence codec session pending.toolCallId = some answer.occurrence) :
    wasConsumed codec session latest pending.toolCallId = true := by
  obtain ⟨text, consumed, ledger, parsed, member⟩ := recorded.ledger
  have present : latest.metadata.lookup consumedResponseOccurrencesKey = some text := ledger
  unfold wasConsumed
  rw [present]
  simp only [parsed, found, any_some, decide_eq_true_eq]
  exact member

theorem settled_adoptConsumed (durable : Settled codec answer latest)
    (copy : Recorded codec answer session ∨ StillAsks codec latest session) :
    Settled codec answer (adoptDurableConsumedClarification codec session latest) := by
  unfold adoptDurableConsumedClarification
  split
  · rename_i silent
    have recorded : Recorded codec answer session := by
      rcases copy with recorded | ⟨pending, asked, _⟩
      · exact recorded
      · rw [silent] at asked
        cases asked
    refine ⟨recorded, ?_⟩
    rw [pendingOccurrence, silent]
    exact fun absent => nomatch absent
  · rename_i pending asked
    split
    · rename_i fresh
      have notConsumed : wasConsumed codec session latest pending.toolCallId = false := by
        simpa using fresh
      have recorded : Recorded codec answer session := by
        rcases copy with recorded | ⟨other, same, consumed⟩
        · exact recorded
        · cases some.inj (asked.symm.trans same)
          rw [notConsumed] at consumed
          cases consumed
      refine ⟨recorded, fun open_ => ?_⟩
      rw [pendingOccurrence, asked] at open_
      rw [consumed_of_recorded durable.recorded open_] at notConsumed
      cases notConsumed
    · have ledger : (adoptKeys responseControlMetadataKeys latest.metadata
          session.metadata).lookup consumedResponseOccurrencesKey = latest.asks.2 :=
        (lookup_adoptKeys _ _ _ _).trans (if_pos (by decide))
      obtain ⟨m, member, named, _⟩ := durable.recorded.response
      refine ⟨⟨?_, heldBy_mono (fun _ member => List.mem_append_left _ member)
        durable.recorded.response⟩, fun open_ => durable.closed ?_⟩
      · obtain ⟨text, consumed, present, parsed, listed⟩ := durable.recorded.ledger
        exact ⟨text, consumed, ledger.trans present, parsed, listed⟩
      · obtain ⟨question, pending, found⟩ := bind_eq_some_iff.1 open_
        refine bind_eq_some_iff.2 ⟨question, pending, ?_⟩
        have whole := occurrenceIn_insert latest.messages
          (unseenMessages (latest.messages.map (·.id)) session.messages) [] ?_ (by
            rw [List.append_nil]
            exact found)
        · rw [List.append_nil] at whole
          exact whole
        · intro other new same
          refine (mem_unseen new).2 (List.mem_map.2 ⟨m, member, ?_⟩)
          exact named.trans same.symm

end Answers

/- The saves. -/

theorem wasConsumed_congr
    (same : occurrenceIn codec next.messages toolCallId =
      occurrenceIn codec session.messages toolCallId) :
    wasConsumed codec next latest toolCallId = wasConsumed codec session latest toolCallId := by
  unfold wasConsumed
  rw [latest_eq codec next, same]
  rfl

theorem stillAsks_congr (asks : next.asks = session.asks)
    (same : ∀ toolCallId, occurrenceIn codec next.messages toolCallId =
      occurrenceIn codec session.messages toolCallId) (copy : StillAsks codec latest session) :
    StillAsks codec latest next := by
  obtain ⟨pending, asked, consumed⟩ := copy
  have kept : next.pendingQuestion = session.pendingQuestion := congrArg Prod.fst asks
  exact ⟨pending, kept.trans asked, (wasConsumed_congr (same _)).trans consumed⟩

theorem handoff_shape
    (run : adoptDurableActorParentQuestionHandoff codec session latest = .ok handed) :
    (session.metadata.lookup actorParentQuestionHandoffKey ≠ some "true" ∧ handed = session) ∨
      (handed.asks = latest.asks ∧ handed.messages = latest.messages) := by
  unfold adoptDurableActorParentQuestionHandoff at run
  dsimp only at run
  split at run
  · rename_i plain
    exact .inl ⟨plain, (Except.ok.inj run).symm⟩
  · split at run
    · cases run
    · cases run
      refine .inr ⟨Prod.ext rfl ?_, rfl⟩
      exact (lookup_erase_other _ (by decide)).trans
        ((lookup_adoptKeys _ _ _ _).trans (if_pos (by decide)))

theorem occurrenceIn_resumes (plain : ∀ m ∈ latest.messages, Plain m)
    (outcome : Session × Option Nat) (toolCallId : String) :
    occurrenceIn codec (preserveResumesOf latest outcome).messages toolCallId =
      occurrenceIn codec outcome.1.messages toolCallId := by
  unfold preserveResumesOf preserveFinalizedHiddenChildResumes
  split
  · rw [occurrenceIn_append, occurrenceIn_none, none_or]
    intro m missing answers
    obtain ⟨member, kept⟩ := List.mem_filter.1 missing
    simp only [Bool.and_eq_true] at kept
    have resumes := (plain m member (by rw [answers]; rfl)).2
    rw [resumes] at kept
    cases kept.2
  · rfl

theorem resumes_kept (outcome : Session × Option Nat) :
    ∀ m ∈ outcome.1.messages, m ∈ (preserveResumesOf latest outcome).messages := by
  intro m member
  unfold preserveResumesOf preserveFinalizedHiddenChildResumes
  split
  · exact List.mem_append_left _ member
  · exact member

theorem prepareRuntime_settled (durable : Settled codec answer latest)
    (plain : ∀ m ∈ latest.messages, Plain m)
    (copy : Recorded codec answer session ∨ StillAsks codec latest session ∨
      session.metadata.lookup actorParentQuestionHandoffKey = some "true")
    (run : prepareRuntime codec finalizeChildWait session latest = .ok answered) :
    Settled codec answer answered := by
  let P : Session → Prop := fun s => Recorded codec answer s ∨ StillAsks codec latest s
  have kept : ∀ s next : Session, next.asks = s.asks →
      (∀ m ∈ s.messages, m ∈ next.messages) →
      (∀ t, occurrenceIn codec next.messages t = occurrenceIn codec s.messages t) →
      P s → P next := by
    rintro s next asks members same (recorded | still)
    · exact .inl (recorded_congr recorded asks members)
    · exact .inr (stillAsks_congr asks same still)
  refine prepareRuntime_rule (P := P) (Q := Settled codec answer) ?_ ?_ ?_ ?_ ?_ run
  · intro next handoff
    rcases handoff_shape handoff with ⟨unflagged, rfl⟩ | ⟨asks, messages⟩
    · rcases copy with recorded | still | flagged
      · exact .inl recorded
      · exact .inr still
      · exact absurd flagged unflagged
    · exact .inl (settled_congr durable asks messages).recorded
  · intro s next before outcomes
    have same := messages_adoptOutcomes outcomes
    exact kept s next (asks_adoptOutcomes outcomes) (by rw [same]; exact fun _ member => member)
      (fun _ => by rw [same]) before
  · intro s before
    have same := messages_adoptFinalizedWait codec s latest
    refine kept s _ (by rw [asks_preserveResumesOf, asks_adoptFinalizedWait]) ?_ ?_ before
    · intro m member
      exact resumes_kept _ m (same.symm ▸ member)
    · intro t
      rw [occurrenceIn_resumes plain, same]
  · intro s before
    have same := messages_adoptTaggedWait s latest
    refine kept s _ (by rw [asks_preserveResumesOf, asks_adoptTaggedWait]) ?_ ?_ before
    · intro m member
      exact resumes_kept _ m (same.symm ▸ member)
    · intro t
      rw [occurrenceIn_resumes plain, same]
  · exact fun s before => settled_adoptConsumed durable before

theorem settled_restore (settled : Settled codec answer session) :
    Settled codec answer (restoreMissingAdmittedInboxMessages session latest) := by
  let P : List Message → Prop := fun messages => answer.HeldBy messages ∧
    ∀ pending, session.pendingQuestion = some pending →
      occurrenceIn codec messages pending.toolCallId ≠ some answer.occurrence
  have before : P session.messages := by
    refine ⟨settled.recorded.response, fun pending asked found => settled.closed ?_⟩
    exact bind_eq_some_iff.2 ⟨pending, asked, found⟩
  have after : P (restoreMissingAdmittedInboxMessages session latest).messages :=
    restore_rule (P := P) (by
      rintro front back message _ _ fresh ⟨held, closed⟩
      have more : ∀ m ∈ front ++ back, m ∈ front ++ ([message] ++ back) := by
        intro m member
        simp only [List.mem_append] at member ⊢
        tauto
      refine ⟨heldBy_mono more held, fun pending asked found => closed pending asked ?_⟩
      obtain ⟨m, member, named, _⟩ := held
      refine occurrenceIn_insert front [message] back ?_ found
      intro other only same
      cases List.mem_singleton.1 only
      exact fresh m member (named.trans same.symm)) [] session.messages before
  refine ⟨⟨settled.recorded.ledger, after.1⟩, fun open_ => ?_⟩
  obtain ⟨pending, asked, found⟩ := bind_eq_some_iff.1 open_
  exact after.2 pending asked found

theorem settleRuntime_settled (clock : Clock) (adoptBypass : Bool)
    (settled : Settled codec answer answered) :
    Settled codec answer (settleRuntime codec clock adoptBypass answered latest) := by
  have merged : Settled codec answer (applyAuthoritativeMetadata answered latest) :=
    settled_congr settled (asks_applyAuthoritative _ _) (messages_applyAuthoritative _ _)
  have restored : Settled codec answer (restoreMissingAdmittedInboxMessages
      (applyAuthoritativeMetadata answered latest) latest) := settled_restore merged
  have admitted := settled_congr restored (asks_mergeAdmission _ latest)
    (messages_mergeAdmission _ latest)
  refine settled_congr ?_ (asks_adoptLedger _ latest) (messages_adoptLedger _ latest)
  split
  · exact settled_congr admitted (asks_adoptPosture _ _ _ _) (messages_adoptPosture _ _ _ _)
  · exact admitted

theorem saveRuntime_settled (durable : Settled codec answer latest)
    (plain : ∀ m ∈ latest.messages, Plain m)
    (copy : Recorded codec answer session ∨ StillAsks codec latest session ∨
      session.metadata.lookup actorParentQuestionHandoffKey = some "true")
    (run : mergeSaveRuntimeInner codec clock storage adoptBypass finalizeChildWait (some latest)
      session = .ok saved) : Settled codec answer saved := by
  refine saveRuntime_rule (fun s settled => settled_congr settled
    (asks_adoptTaskControlPlane s latest) (messages_adoptTaskControlPlane s latest))
    (fun candidate merged => ?_) run
  obtain ⟨answered, prepared, rfl⟩ := mergeRuntime_eq_ok merged
  exact settleRuntime_settled clock adoptBypass (prepareRuntime_settled durable plain copy prepared)

theorem reconcile_settled (durable : Settled codec answer latest)
    (copy : Recorded codec answer session ∨
      StillAsks codec latest (appendMissingRuntimeMessages codec session latest))
    (run : reconcileRuntimeCheckpoint codec clock session latest = .ok candidate) :
    Settled codec answer candidate := by
  obtain ⟨_, _, run⟩ := bind_eq_ok.1 run
  obtain ⟨supervised, outcomes, run⟩ := bind_eq_ok.1 run
  have asks : (mergeSessionInboxAdmission
      (appendMissingRuntimeMessages codec supervised latest) latest).asks =
        (appendMissingRuntimeMessages codec session latest).asks := by
    rw [asks_mergeAdmission, asks_appendMissing, asks_adoptOutcomes outcomes,
      asks_appendMissing]
  have messages : (mergeSessionInboxAdmission
      (appendMissingRuntimeMessages codec supervised latest) latest).messages =
        (appendMissingRuntimeMessages codec session latest).messages := by
    rw [messages_mergeAdmission, messages_appendMissing, messages_appendMissing,
      messages_adoptOutcomes outcomes]
  rw [← pure_eq_ok.1 run]
  refine settled_congr ?_ (asks_adoptTaggedWait _ latest) (messages_adoptTaggedWait _ latest)
  refine settled_congr ?_ (asks_adoptPosture _ _ _ latest) (messages_adoptPosture _ _ _ latest)
  refine settled_congr ?_ (asks_applyAuthoritative _ latest) (messages_applyAuthoritative _ latest)
  refine settled_adoptConsumed durable ?_
  rcases copy with recorded | still
  · left
    refine ⟨?_, ?_⟩
    · rw [asks]
      exact recorded.ledger
    · rw [messages]
      exact heldBy_mono (fun m member => appendMissing_durable codec session latest member)
        durable.recorded.response
  · exact .inr (stillAsks_congr asks (fun _ => by rw [messages]) still)

theorem reconcile_plain (durablePlain : ∀ m ∈ latest.messages, Plain m)
    (plain : ∀ m ∈ session.messages, Plain m)
    (run : reconcileRuntimeCheckpoint codec clock session latest = .ok candidate) :
    ∀ m ∈ candidate.messages, Plain m := by
  intro m member
  obtain ⟨_, _, _, _, _, _, drawn, _⟩ := reconcile_shape run
  rcases drawn m member with held | old
  · exact plain m held
  · exact durablePlain m old

theorem plain_placePrompt (prompt : Option String) (draw : Draw)
    (plain : ∀ m ∈ session.messages, Plain m) :
    ∀ m ∈ (placePrompt prompt draw session).messages, Plain m := by
  cases prompt with
  | none => exact plain
  | some text =>
    intro m member
    rcases List.mem_cons.1 member with rfl | kept
    · exact fun names => nomatch names
    · exact plain m (List.mem_filter.1 kept).1

theorem occurrenceIn_placePrompt (prompt : Option String) (draw : Draw)
    (plain : ∀ m ∈ session.messages, Plain m) (toolCallId : String) :
    occurrenceIn codec (placePrompt prompt draw session).messages toolCallId =
      occurrenceIn codec session.messages toolCallId := by
  cases prompt with
  | none => rfl
  | some text =>
    have kept : ∀ messages : List Message, (∀ m ∈ messages, Plain m) →
        occurrenceIn codec (messages.filter (fun m => m.role ≠ .system)) toolCallId =
          occurrenceIn codec messages toolCallId := by
      intro messages
      induction messages with
      | nil => exact fun _ => rfl
      | cons first rest ih =>
        intro plain
        have later := ih (fun m member => plain m (List.mem_cons_of_mem first member))
        have whole : occurrenceIn codec (first :: rest) toolCallId =
            (occurrenceIn codec rest toolCallId).or (occurrenceIn codec [first] toolCallId) :=
          occurrenceIn_append [first] rest toolCallId
        by_cases system : first.role = .system
        · have silent : occurrenceIn codec [first] toolCallId = none := by
            refine occurrenceIn_none (fun m only answers => ?_)
            cases List.mem_singleton.1 only
            have tool := (plain first List.mem_cons_self (by rw [answers]; rfl)).1
            rw [system] at tool
            cases tool
          rw [List.filter_cons_of_neg (by simp [system]), later, whole, silent, or_none]
        · rw [List.filter_cons_of_pos (by simp [system]), whole, ← later]
          exact occurrenceIn_append [first] _ toolCallId
    have fresh : occurrenceIn codec [systemMessage draw text] toolCallId = none :=
      occurrenceIn_none (fun m only names => by
        cases List.mem_singleton.1 only
        cases names)
    refine (occurrenceIn_append [systemMessage draw text]
      (session.messages.filter (fun m => m.role ≠ .system)) toolCallId).trans ?_
    rw [fresh, or_none, kept session.messages plain]

theorem settled_placePrompt (prompt : Option String) (draw : Draw)
    (plain : ∀ m ∈ session.messages, Plain m) (settled : Settled codec answer session) :
    Settled codec answer (placePrompt prompt draw session) where
  recorded := by
    refine ⟨?_, ?_⟩
    · rw [asks_placePrompt]
      exact settled.recorded.ledger
    · obtain ⟨m, member, named, called, tool, content⟩ := settled.recorded.response
      cases prompt with
      | none => exact settled.recorded.response
      | some text =>
        exact ⟨m, List.mem_cons_of_mem _ (List.mem_filter.2 ⟨member, by simp [tool]⟩), named,
          called, tool, content⟩
  closed := by
    intro open_
    obtain ⟨pending, asked, found⟩ := bind_eq_some_iff.1 open_
    have same : (placePrompt prompt draw session).pendingQuestion = session.pendingQuestion :=
      congrArg Prod.fst (asks_placePrompt prompt draw session)
    rw [latest_eq, occurrenceIn_placePrompt prompt draw plain] at found
    exact settled.closed (bind_eq_some_iff.2 ⟨pending, same.symm.trans asked, found⟩)

theorem checkpoint_settled (durable : Settled codec answer latest)
    (durablePlain : ∀ m ∈ latest.messages, Plain m) (plain : ∀ m ∈ session.messages, Plain m)
    (copy : Recorded codec answer session ∨
      StillAsks codec latest (appendMissingRuntimeMessages codec session latest))
    (run : checkpointRuntimeSessionWithInput codec clock storage draws input (some latest)
      session = .ok saved) : Settled codec answer saved ∧ ∀ m ∈ saved.messages, Plain m := by
  refine checkpoint_rule (P := fun s => Settled codec answer s ∧ ∀ m ∈ s.messages, Plain m)
    ?_ ?_ ?_ (fun candidate merged => ⟨reconcile_settled durable copy merged,
      reconcile_plain durablePlain plain merged⟩) run
  · rintro s ⟨settled, own⟩
    have same := messages_adoptTaskControlPlane s latest
    exact ⟨settled_congr settled (asks_adoptTaskControlPlane s latest) same,
      same ▸ own⟩
  · exact fun prompt _ n s before => ⟨settled_placePrompt prompt (draws n) before.2 before.1,
      plain_placePrompt prompt (draws n) before.2⟩
  · rintro s next ⟨settled, own⟩ reconciled
    exact ⟨reconcile_settled durable (.inl settled.recorded) reconciled,
      reconcile_plain durablePlain own reconciled⟩

theorem saveRuntime_plain (durablePlain : ∀ m ∈ latest.messages, Plain m)
    (plain : ∀ m ∈ session.messages, Plain m)
    (run : mergeSaveRuntimeInner codec clock storage adoptBypass finalizeChildWait (some latest)
      session = .ok saved) : ∀ m ∈ saved.messages, Plain m := by
  refine saveRuntime_rule (P := fun s => ∀ m ∈ s.messages, Plain m) ?_ ?_ run
  · intro s own
    rw [messages_adoptTaskControlPlane]
    exact own
  · intro candidate merged
    obtain ⟨answered, prepared, rfl⟩ := mergeRuntime_eq_ok merged
    rw [messages_settleRuntime]
    intro m member
    have drawn : Drawn latest.messages session.messages (restoreFrom latest.id
        latest.inboxAdmission [] latest.messages answered.messages) :=
      drawn_trans (prepareRuntime_drawn prepared).2 restore_drawn
    rcases drawn m member with held | old
    · exact plain m held
    · exact durablePlain m old

end Sessions
