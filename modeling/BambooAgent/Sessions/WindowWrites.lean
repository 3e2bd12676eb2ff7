import BambooAgent.Compression.RetrievalSafety
import BambooAgent.Sessions.StagedChecks
import BambooAgent.Sessions.Summaries

/- Retrieval windows on a whole session: which applications pass the check of the
   checkpoint. -/
namespace Sessions
open SortedMaps Compression Checks List

/-- The id is new to the session: no event has it and no message carries it. -/
structure FreshEvent (session : Session) (eventId : String) : Prop where
  named : eventId ≠ ""
  newEvent : eventId ∉ session.compressionEvents.map (·.id)
  unused : ∀ message ∈ session.messages, message.compressedByEventId ≠ some eventId

theorem appendedEvent_append
    (events : staged.compressionEvents = expected.compressionEvents ++ [event]) :
    appendedEvent expected staged = some event := by
  simp [appendedEvent, events]

theorem appendedEvent_take {expected staged : Session}
    (events : staged.compressionEvents = expected.compressionEvents ++ [event]) :
    staged.compressionEvents.take expected.compressionEvents.length =
      expected.compressionEvents := by
  simp [events]

/- Retrieval windows. -/

theorem contextPart_getElem? (session : Session) (index : Nat) :
    session.contextPart.messages[index]? = session.messages[index]?.map (·.toMessage) :=
  List.getElem?_map ..

theorem withContextPart_length {session : Session}
    (length : part.messages.length = session.messages.length) :
    (session.withContextPart part).messages.length = session.messages.length := by
  simp [Session.withContextPart, length]

theorem withContextPart_getElem? (session : Session) (part : Compression.Session)
    (index : Nat) :
    (session.withContextPart part).messages[index]? =
      session.messages[index]?.bind (fun message =>
        part.messages[index]?.map (fun rewritten => { message with toMessage := rewritten })) := by
  rw [Session.withContextPart, List.getElem?_zipWith]
  cases session.messages[index]? with
  | none => rfl
  | some message =>
    cases part.messages[index]? with
    | none => rfl
    | some rewritten => rfl

theorem contextPart_withContextPart {session : Session}
    (length : part.messages.length = session.messages.length)
    (summary : part.conversationSummary = session.contextPart.conversationSummary) :
    (session.withContextPart part).contextPart = part := by
  have messages : (session.withContextPart part).contextPart.messages = part.messages := by
    apply ext_getElem?
    intro index
    rw [contextPart_getElem?, withContextPart_getElem?]
    cases held : session.messages[index]? with
    | none =>
      have beyond := List.getElem?_eq_none_iff.1 held
      exact (List.getElem?_eq_none_iff.2 (length ▸ beyond)).symm
    | some message =>
      cases part.messages[index]? with
      | none => rfl
      | some rewritten => rfl
  cases part with
  | mk rewritten summarized events usage model provider updated =>
    subst summary
    rw [Session.contextPart] at ⊢
    simp only [Compression.Session.mk.injEq]
    exact ⟨messages, rfl, rfl, rfl, rfl, rfl, rfl⟩

theorem forall₂_of_getElem? {α β : Type} {related : α → β → Prop} {befores : List α}
    {afters : List β} (length : befores.length = afters.length)
    (each : ∀ (index : Nat) before after, befores[index]? = some before →
      afters[index]? = some after → related before after) :
    List.Forall₂ related befores afters := by
  apply forall₂_iff_get.2
  refine ⟨length, ?_⟩
  intro index inBefores inAfters
  exact each index _ _ (List.getElem?_eq_getElem inBefores) (List.getElem?_eq_getElem inAfters)

theorem countP_of_marked (marked : List.Forall₂ (Marked eventId) befores afters)
    (unused : ∀ message ∈ befores, message.compressedByEventId ≠ some eventId) :
    (List.zip befores afters).countP (fun pair => !pair.1.compressed && pair.2.compressed) =
      afters.countP (fun message => decide (message.compressedByEventId = some eventId)) := by
  induction marked with
  | nil => rfl
  | cons here rest ih =>
    rename_i before after befores afters
    have others := ih (fun message member => unused message (mem_cons_of_mem before member))
    have plain := unused before mem_cons_self
    rw [zip_cons_cons, countP_cons, others]
    rcases here.marker with ⟨early, _, late, named⟩ | ⟨still, same⟩
    · simp [early, late, named]
    · rw [same] at plain
      cases kept : after.compressed <;> simp [still, kept, plain]

theorem resetModelContextEpoch_reason (session : Compression.Session) :
    session.resetModelContextEpoch.modelContextState.bind ModelContextState.lastResetReason =
      some .compression := by
  unfold Compression.Session.resetModelContextEpoch
  dsimp only [Option.bind_some]
  split
  · split
    · rfl
    · rename_i same
      exact not_not.1 same
  · rfl

section Window
variable {session : Session}

def Session.withBoundary (session : Session) (plan : RetrievalWindowCandidatePlan)
    (usage : ValidatedRetrievalWindowUsage) (indexes : List Nat)
    (triggerType : CompressionTriggerType) (eventId : String) (now : Nat) : Session :=
  session.withContextPart
    (commitBoundary session.contextPart plan usage indexes triggerType eventId now)

theorem commit_length : (commitBoundary session.contextPart plan usage indexes triggerType
    eventId now).messages.length = session.messages.length := by
  have ids : ((commitBoundary session.contextPart plan usage indexes triggerType eventId
      now).messages.map (·.id)).length = (session.contextPart.messages.map (·.id)).length :=
    congrArg List.length commit_ids
  simpa [Session.contextPart] using ids

theorem contextPart_withBoundary :
    (session.withBoundary plan usage indexes triggerType eventId now).contextPart =
      commitBoundary session.contextPart plan usage indexes triggerType eventId now :=
  contextPart_withContextPart commit_length rfl

theorem withBoundary_getElem? (index : Nat) :
    (session.withBoundary plan usage indexes triggerType eventId now).messages[index]? =
      session.messages[index]?.map (fun message =>
        if index ∈ indexes then
          { message with compressed := true, compressedByEventId := some eventId }
        else message) := by
  rw [Session.withBoundary, withContextPart_getElem?, commit_at, contextPart_getElem?]
  cases session.messages[index]? with
  | none => rfl
  | some message => split <;> rfl

variable (committed : Committed digests session.contextPart plan currentPolicy currentBudget
  currentAccounting usage indexes)
include committed

theorem candidate_unmarked (member : index ∈ indexes)
    (found : session.messages[index]? = some message) :
    message.compressed = false ∧ message.compressedByEventId = none := by
  have part : session.contextPart.messages[index]? = some message.toMessage := by
    rw [contextPart_getElem?, found]
    rfl
  have among : message.toMessage ∈ messagesAt session.contextPart indexes :=
    mem_filterMap.2 ⟨index, member, part⟩
  obtain ⟨_, uncorrelated, _⟩ := bind_eq_ok.1 (committed.candidates _ among)
  exact ⟨committed.active _ among, by simpa using refuse_eq_ok.1 uncorrelated⟩

theorem withBoundary_marked :
    List.Forall₂ (Marked eventId) session.messages
      (session.withBoundary plan usage indexes triggerType eventId now).messages := by
  have length : (session.withBoundary plan usage indexes triggerType eventId
      now).messages.length = session.messages.length := withContextPart_length commit_length
  apply forall₂_of_getElem? length.symm
  intro index before after found there
  rw [withBoundary_getElem?, found, Option.map_some, Option.some.injEq] at there
  split at there
  case isTrue member =>
    obtain ⟨active, plain⟩ := candidate_unmarked committed member found
    rw [← there]
    exact ⟨rfl, .inl ⟨active, plain, rfl, rfl⟩⟩
  case isFalse =>
    rw [← there]
    exact ⟨rfl, .inr ⟨rfl, rfl⟩⟩

theorem withBoundary_count
    (unused : ∀ message ∈ session.messages, message.compressedByEventId ≠ some eventId) :
    (session.withBoundary plan usage indexes triggerType eventId now).messages.countP
      (fun message => decide (message.compressedByEventId = some eventId)) =
        plan.messageIdsToArchive.length := by
  have plain : ∀ message ∈ session.contextPart.messages,
      message.compressedByEventId ≠ some eventId := by
    intro message member
    obtain ⟨held, there, same⟩ := mem_map.1 member
    exact same ▸ unused held there
  have correlated : ((commitBoundary session.contextPart plan usage indexes triggerType eventId
      now).messages.filter
        (fun message => decide (message.compressedByEventId = some eventId))).map (·.id) =
          plan.messageIdsToArchive := commit_correlated committed plain
  rw [← contextPart_withBoundary, Session.contextPart] at correlated
  rw [← correlated, length_map, ← countP_eq_length_filter, countP_map]
  rfl

theorem withBoundary_accepted (codec : Codec) (fresh : FreshEvent session eventId) :
    WindowAccepted codec session
      (session.withBoundary plan usage indexes triggerType eventId now)
      (boundaryEvent eventId plan triggerType) := by
  have marked : List.Forall₂ (Marked eventId) session.messages
      (session.withBoundary plan usage indexes triggerType eventId now).messages :=
    withBoundary_marked committed
  have events : (session.withBoundary plan usage indexes triggerType eventId
      now).compressionEvents =
        session.compressionEvents ++ [boundaryEvent eventId plan triggerType] := rfl
  have noSummary : session.conversationSummary = none := by
    simpa [Session.contextPart] using committed.noSummary
  obtain ⟨_, something, arithmetic⟩ := bind_eq_ok.1 committed.arithmetic
  obtain ⟨_, counted, _⟩ := bind_eq_ok.1 arithmetic
  have archiveCount := not_not.1 (refuse_eq_ok.1 counted)
  refine ⟨rfl, noSummary, noSummary, marked.length_eq, appendedEvent_append events, ?_, rfl,
    fresh.named, fresh.newEvent, marked, ?_, ?_, resetModelContextEpoch_reason _⟩
  · rw [appendedEvent_take events]
  · rw [countP_of_marked marked fresh.unused, withBoundary_count committed fresh.unused]
    exact archiveCount.symm
  · intro none
    have length : plan.messageIdsToArchive.length = 0 := archiveCount.symm.trans none
    exact refuse_eq_ok.1 something (length_eq_zero_iff.1 length)

end Window

theorem validateWindow_same (codec : Codec) (session staged : Session)
    (events : staged.compressionEvents = session.compressionEvents) :
    validateStagedRetrievalWindowTransition codec session staged ≠ .ok () := by
  intro run
  obtain ⟨event, accepted⟩ := validateWindow_eq_ok.1 run
  have appended := accepted.appended
  simp [appendedEvent, events] at appended

theorem withContextPart_contextPart (session : Session) :
    session.withContextPart session.contextPart = session := by
  have messages : (session.withContextPart session.contextPart).messages = session.messages := by
    apply ext_getElem?
    intro index
    rw [withContextPart_getElem?, contextPart_getElem?]
    cases session.messages[index]? with
    | none => rfl
    | some message => rfl
  cases session with
  | mk fields summary events =>
    rw [Session.withContextPart] at messages ⊢
    simp only at messages
    simp only [messages]
    rfl

/-- A retrieval window that was applied passes its check, unless the plan had been applied
    before and nothing was left to do. -/
theorem window_accepted_iff (codec : Codec) (fresh : FreshEvent session eventId)
    (applied : (applyRetrievalWindowPlanWithTrigger digests session plan currentPolicy
      currentBudget currentAccounting triggerType eventId now).2 = .ok result) :
    validateStagedRetrievalWindowTransition codec session
        (applyRetrievalWindowPlanWithTrigger digests session plan currentPolicy currentBudget
          currentAccounting triggerType eventId now).1 = .ok () ↔
      result.idempotentReplay = false := by
  unfold applyRetrievalWindowPlanWithTrigger
    Compression.applyRetrievalWindowPlanWithTrigger at applied ⊢
  cases decided : decideApply digests session.contextPart plan currentPolicy currentBudget
    currentAccounting triggerType with
  | error failure =>
    rw [decided] at applied
    cases applied
  | ok decision =>
    cases decision with
    | replay first =>
      have replayed := decideApply_replay decided
      rw [decided] at applied
      cases applied
      dsimp only
      rw [withContextPart_contextPart, replayed]
      exact iff_of_false (validateWindow_same codec session session rfl) (fun same => nomatch same)
    | commit usage indexes =>
      have committed := decideApply_commit decided
      rw [decided] at applied
      cases applied
      exact iff_of_true
        (validateWindow_eq_ok.2 ⟨_, withBoundary_accepted committed codec fresh⟩) rfl

/-- A plan that was applied is recognised when it is applied again, and changes nothing. -/
theorem window_replayed (fresh : FreshEvent session eventId)
    (applied : (applyRetrievalWindowPlanWithTrigger digests session plan currentPolicy
      currentBudget currentAccounting triggerType eventId now).2 = .ok result)
    (nextEventId : String) (later : Nat) :
    let first := (applyRetrievalWindowPlanWithTrigger digests session plan currentPolicy
      currentBudget currentAccounting triggerType eventId now).1
    ∃ replay, applyRetrievalWindowPlanWithTrigger digests first plan currentPolicy currentBudget
      currentAccounting triggerType nextEventId later = (first, .ok replay) := by
  unfold applyRetrievalWindowPlanWithTrigger
    Compression.applyRetrievalWindowPlanWithTrigger at applied ⊢
  cases decided : decideApply digests session.contextPart plan currentPolicy currentBudget
    currentAccounting triggerType with
  | error failure =>
    rw [decided] at applied
    cases applied
  | ok decision =>
    cases decision with
    | replay first =>
      refine ⟨first, ?_⟩
      dsimp only
      rw [withContextPart_contextPart, decided]
      rw [withContextPart_contextPart]
    | commit usage indexes =>
      have committed := decideApply_commit decided
      have unused : ∀ message ∈ session.contextPart.messages,
          message.compressedByEventId ≠ some eventId := by
        intro message member
        obtain ⟨held, there, same⟩ := mem_map.1 member
        exact same ▸ fresh.unused held there
      have newEvent : ∀ event ∈ session.contextPart.compressionEvents, event.id ≠ eventId :=
        fun event member same => fresh.newEvent (mem_map.2 ⟨event, member, same⟩)
      have again : decideApply digests
          (session.withContextPart (commitBoundary session.contextPart plan usage indexes
            triggerType eventId now)).contextPart plan currentPolicy currentBudget
            currentAccounting triggerType =
          .ok (.replay { eventId, newlyArchivedMessageCount := 0, idempotentReplay := true }) := by
        rw [contextPart_withContextPart commit_length rfl]
        exact commit_again committed unused newEvent
      refine ⟨{ eventId, newlyArchivedMessageCount := 0, idempotentReplay := true }, ?_⟩
      dsimp only
      rw [again]
      rw [withContextPart_contextPart]

end Sessions
