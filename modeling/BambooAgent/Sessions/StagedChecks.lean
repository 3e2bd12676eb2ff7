import BambooAgent.Sessions.Transcripts

/- What an accepted staged transition says about the session it was planned from. -/
namespace Sessions
open List hiding after count
open SortedMaps Compression Checks

theorem rejectWhen_eq_ok [Decidable condition] {message : String}
    {u : Unit} : rejectWhen condition message = .ok u ↔ ¬ condition := refuse_eq_ok

/- Archive markers. -/

/-- The message after the archive: the same but for its marker, which is new or the old one. -/
structure Marked (eventId : String) (before after : Message) : Prop where
  same : before = normalizedAfter before after
  marker : (before.compressed = false ∧ before.compressedByEventId = none ∧
      after.compressed = true ∧ after.compressedByEventId = some eventId) ∨
    (before.compressed = after.compressed ∧
      before.compressedByEventId = after.compressedByEventId)

variable {eventId : String}

theorem marked_id (marked : Marked eventId before after) : before.id = after.id := by
  rw [marked.same]
  rfl

theorem archivedNow_eq_ok :
    archivedNow eventId before after = .ok archived ↔
      Marked eventId before after ∧ archived = (!before.compressed && after.compressed) := by
  have shape : archivedNow eventId before after = .ok archived ↔
      before.id = after.id ∧
      (if (!before.compressed && after.compressed) = true then
          before.compressedByEventId = none ∧ after.compressedByEventId = some eventId
        else before.compressed = after.compressed ∧
          before.compressedByEventId = after.compressedByEventId) ∧
      before = normalizedAfter before after ∧
      (!before.compressed && after.compressed) = archived := by
    unfold archivedNow
    cases new : (!before.compressed && after.compressed) <;>
      simp only [bind_eq_ok, rejectWhen_eq_ok, pure_eq_ok, exists_const, if_true, if_false,
        Bool.false_eq_true, ne_eq, not_not, not_or, Bool.not_eq_true,
        Option.isSome_eq_false_iff, Option.isNone_iff_eq_none]
  rw [shape]
  constructor
  · rintro ⟨_, marker, same, rfl⟩
    refine ⟨⟨same, ?_⟩, rfl⟩
    cases early : before.compressed <;> cases late : after.compressed <;>
      simp [early, late] at marker <;> simp [marker]
  · rintro ⟨marked, rfl⟩
    refine ⟨marked_id marked, ?_, marked.same, rfl⟩
    rcases marked.marker with ⟨early, unnamed, late, named⟩ | ⟨still, named⟩
    · simp [early, unnamed, late, named]
    · simp [still, named]

theorem newlyArchived_eq_ok (length : befores.length = afters.length) :
    newlyArchived eventId befores afters = .ok count ↔
      List.Forall₂ (Marked eventId) befores afters ∧
        count = (List.zip befores afters).countP
          (fun pair => !pair.1.compressed && pair.2.compressed) := by
  induction befores generalizing afters count with
  | nil =>
    cases afters with
    | nil => simp [newlyArchived, eq_comm]
    | cons _ _ => simp at length
  | cons before rest ih =>
    cases afters with
    | nil => simp at length
    | cons after later =>
      have shorter : rest.length = later.length := by simpa using length
      simp only [newlyArchived, bind_eq_ok, archivedNow_eq_ok, ih shorter, pure_eq_ok,
        forall₂_cons, zip_cons_cons, countP_cons]
      constructor
      · rintro ⟨_, ⟨marked, rfl⟩, _, ⟨all, rfl⟩, rfl⟩
        exact ⟨⟨marked, all⟩, add_comm _ _⟩
      · rintro ⟨⟨marked, all⟩, rfl⟩
        exact ⟨_, ⟨marked, rfl⟩, _, ⟨all, rfl⟩, add_comm _ _⟩

theorem ids_of_marked (marked : List.Forall₂ (Marked eventId) befores afters) :
    befores.map (·.id) = afters.map (·.id) := by
  induction marked with
  | nil => rfl
  | cons here _ ih => simp only [map_cons, marked_id here, ih]

/- Message summaries. -/

def archiveMark (eventId : String) (latestUser : Option String) (message : Message) : Message :=
  if !message.compressed && shouldArchive latestUser message then
    { message with compressed := true, compressedByEventId := some eventId }
  else message

theorem archiveMark_id (eventId : String) (latestUser : Option String) (message : Message) :
    (archiveMark eventId latestUser message).id = message.id := by
  unfold archiveMark
  split <;> rfl

theorem summaryScan_canonical :
    ∀ {scan final : SummaryScan},
    summaryScan eventId latestUser scan messages = .ok final →
      final.canonical = scan.canonical ++ messages.map (archiveMark eventId latestUser) ∧
      final.newlyArchived = scan.newlyArchived + messages.countP
        (fun message => !message.compressed && shouldArchive latestUser message) := by
  induction messages with
  | nil =>
    intro scan final run
    cases run
    exact ⟨by simp, by simp⟩
  | cons before rest ih =>
    intro scan final run
    unfold summaryScan at run
    split at run
    · rename_i archived
      obtain ⟨canonical, count⟩ := ih run
      refine ⟨?_, ?_⟩
      · rw [canonical]
        simp [archiveMark, archived]
      · rw [count]
        simp [archived]
    · rename_i active
      obtain ⟨next, scanned, run⟩ := bind_eq_ok.1 run
      obtain ⟨canonical, count⟩ := ih run
      obtain ⟨_, _, scanned⟩ := bind_eq_ok.1 scanned
      obtain ⟨_, _, scanned⟩ := bind_eq_ok.1 scanned
      obtain ⟨calls, _, scanned⟩ := bind_eq_ok.1 scanned
      obtain ⟨results, _, scanned⟩ := bind_eq_ok.1 scanned
      rw [canonical, count]
      split at scanned
      · rename_i archives
        obtain ⟨_, _, scanned⟩ := bind_eq_ok.1 scanned
        cases pure_eq_ok.1 scanned
        refine ⟨by simp [archiveMark, active, archives], ?_⟩
        simp [active, archives]
        omega
      · rename_i keeps
        cases pure_eq_ok.1 scanned
        exact ⟨by simp [archiveMark, keeps], by simp [keeps]⟩

/- Accepted transitions. -/

/-- What the retrieval-window check demands. -/
structure WindowAccepted (codec : Codec) (expected staged : Session)
    (event : CompressionEvent) : Prop where
  id : expected.id = staged.id
  before : expected.conversationSummary = none
  after : staged.conversationSummary = none
  length : expected.messages.length = staged.messages.length
  appended : appendedEvent expected staged = some event
  kept : expected.compressionEvents.map codec.eventJson =
    (staged.compressionEvents.take expected.compressionEvents.length).map codec.eventJson
  kind : event.kind = .retrievalWindow
  named : event.id ≠ ""
  fresh : event.id ∉ expected.compressionEvents.map (·.id)
  marked : List.Forall₂ (Marked event.id) expected.messages staged.messages
  archived : (List.zip expected.messages staged.messages).countP
    (fun pair => !pair.1.compressed && pair.2.compressed) = event.messagesCompressed
  some : event.messagesCompressed ≠ 0
  reset : staged.modelContextState.bind ModelContextState.lastResetReason = .some .compression

variable {expected staged : Session}

theorem validateWindow_eq_ok :
    validateStagedRetrievalWindowTransition codec expected staged = .ok () ↔
      ∃ event, WindowAccepted codec expected staged event := by
  constructor
  · intro run
    obtain ⟨_, id, run⟩ := bind_eq_ok.1 run
    obtain ⟨_, summaries, run⟩ := bind_eq_ok.1 run
    obtain ⟨_, length, run⟩ := bind_eq_ok.1 run
    have sameLength := not_not.1 (rejectWhen_eq_ok.1 length)
    split at run
    · cases run
    · rename_i event appended
      obtain ⟨_, kept, run⟩ := bind_eq_ok.1 run
      obtain ⟨_, valid, run⟩ := bind_eq_ok.1 run
      obtain ⟨count, walked, run⟩ := bind_eq_ok.1 run
      obtain ⟨_, counted, run⟩ := bind_eq_ok.1 run
      obtain ⟨marked, total⟩ := (newlyArchived_eq_ok sameLength).1 walked
      have noSummary := rejectWhen_eq_ok.1 summaries
      have validEvent := rejectWhen_eq_ok.1 valid
      have exact_ := rejectWhen_eq_ok.1 counted
      simp only [not_or, Bool.not_eq_true, Option.isSome_eq_false_iff,
        Option.isNone_iff_eq_none] at noSummary
      simp only [not_or, ne_eq, not_not] at validEvent exact_
      refine ⟨event, not_not.1 (rejectWhen_eq_ok.1 id), noSummary.1, noSummary.2, sameLength,
        appended, not_not.1 (rejectWhen_eq_ok.1 kept), validEvent.1, validEvent.2.1,
        validEvent.2.2, marked, total.symm.trans exact_.2, ?_,
        not_not.1 (rejectWhen_eq_ok.1 run)⟩
      rw [← exact_.2]
      exact exact_.1
  · rintro ⟨event, accepted⟩
    refine bind_eq_ok.2 ⟨(), rejectWhen_eq_ok.2 (not_not.2 accepted.id),
      bind_eq_ok.2 ⟨(), rejectWhen_eq_ok.2 (by simp [accepted.before, accepted.after]),
      bind_eq_ok.2 ⟨(), rejectWhen_eq_ok.2 (not_not.2 accepted.length), ?_⟩⟩⟩
    rw [accepted.appended]
    exact bind_eq_ok.2 ⟨(), rejectWhen_eq_ok.2 (not_not.2 accepted.kept),
      bind_eq_ok.2 ⟨(), rejectWhen_eq_ok.2 (by
        simp only [accepted.kind, accepted.named, accepted.fresh, ne_eq, not_true_eq_false,
          or_self, not_false_eq_true]),
      bind_eq_ok.2 ⟨_, (newlyArchived_eq_ok accepted.length).2 ⟨accepted.marked, rfl⟩,
      bind_eq_ok.2 ⟨(), rejectWhen_eq_ok.2 (by
        rw [accepted.archived]
        simp [accepted.some]),
      rejectWhen_eq_ok.2 (not_not.2 accepted.reset)⟩⟩⟩⟩

/-- What the message-summary check demands. -/
structure SummaryAccepted (codec : Codec) (expected staged : Session)
    (event : CompressionEvent) (scan : SummaryScan) : Prop where
  id : expected.id = staged.id
  length : expected.messages.length = staged.messages.length
  appended : appendedEvent expected staged = some event
  kind : event.kind = .messageSummary
  named : event.id ≠ ""
  fresh : event.id ∉ expected.compressionEvents.map (·.id)
  scanned : summaryScan event.id (latestUserId expected.messages) SummaryScan.start
    expected.messages = .ok scan
  complete : sameIds scan.calls scan.results = true
  some : scan.newlyArchived ≠ 0
  counted : event.messagesCompressed = scan.newlyArchived
  consistent : ∀ summary, staged.conversationSummary = .some summary →
    (trim summary.content).isEmpty = false ∧ summary.messageCount = scan.newlyArchived ∧
      summary.tokenCount = event.summaryTokens
  projected : sameJson codec (canonicalSummary expected staged scan.canonical event) staged = true

theorem validateSummary_eq_ok :
    validateStagedMessageSummaryTransition codec expected staged = .ok () ↔
      ∃ event scan, SummaryAccepted codec expected staged event scan := by
  constructor
  · intro run
    obtain ⟨_, same, run⟩ := bind_eq_ok.1 run
    have raw := rejectWhen_eq_ok.1 same
    simp only [not_or, ne_eq, not_not] at raw
    split at run
    · cases run
    · rename_i event appended
      obtain ⟨_, valid, run⟩ := bind_eq_ok.1 run
      obtain ⟨scan, scanned, run⟩ := bind_eq_ok.1 run
      obtain ⟨_, counted, run⟩ := bind_eq_ok.1 run
      obtain ⟨_, consistent, run⟩ := bind_eq_ok.1 run
      have validEvent := rejectWhen_eq_ok.1 valid
      have exact_ := rejectWhen_eq_ok.1 counted
      have summaries := rejectWhen_eq_ok.1 consistent
      simp only [not_or, ne_eq, not_not] at validEvent exact_
      refine ⟨event, scan, raw.1, raw.2, appended, validEvent.1, validEvent.2.1,
        validEvent.2.2, scanned, exact_.1, exact_.2.1, exact_.2.2, ?_,
        not_not.1 (rejectWhen_eq_ok.1 run)⟩
      intro summary held
      simpa [held, and_assoc] using summaries
  · rintro ⟨event, scan, accepted⟩
    refine bind_eq_ok.2 ⟨(), rejectWhen_eq_ok.2 (by
      simp only [accepted.id, accepted.length, ne_eq, not_true_eq_false, or_self,
        not_false_eq_true]), ?_⟩
    rw [accepted.appended]
    refine bind_eq_ok.2 ⟨(), rejectWhen_eq_ok.2 (by
        simp only [accepted.kind, accepted.named, accepted.fresh, ne_eq, not_true_eq_false,
          or_self, not_false_eq_true]),
      bind_eq_ok.2 ⟨scan, accepted.scanned,
      bind_eq_ok.2 ⟨(), rejectWhen_eq_ok.2 (by
        simp only [accepted.complete, accepted.some, accepted.counted, ne_eq,
          not_true_eq_false, or_self, not_false_eq_true]),
      bind_eq_ok.2 ⟨(), rejectWhen_eq_ok.2 ?_,
      rejectWhen_eq_ok.2 (not_not.2 accepted.projected)⟩⟩⟩⟩
    cases held : staged.conversationSummary with
    | none => simp
    | some summary =>
      obtain ⟨text, messages, tokens⟩ := accepted.consistent summary held
      simp [text, messages, tokens]

theorem ids_of_validateStaged (run : validateStaged codec expected staged = .ok ()) :
    expected.messages.map (·.id) = staged.messages.map (·.id) := by
  unfold validateStaged at run
  split at run
  · obtain ⟨event, scan, accepted⟩ := validateSummary_eq_ok.1 run
    have projected := accepted.projected
    unfold sameJson at projected
    simp only [Bool.and_eq_true, decide_eq_true_eq] at projected
    have messages : scan.canonical = staged.messages :=
      congrArg SessionFields.messages projected.1.1
    obtain ⟨canonical, _⟩ := summaryScan_canonical accepted.scanned
    rw [← messages, canonical]
    simp [SummaryScan.start, Function.comp_def, archiveMark_id]
  · obtain ⟨event, accepted⟩ := validateWindow_eq_ok.1 run
    exact ids_of_marked accepted.marked

/- The base of a staged rewrite. -/

theorem matches_id {expected : Message}
    (same : messageMatchesRetrievalWindowBase expected durable = true) :
    expected.id = durable.id := by
  unfold messageMatchesRetrievalWindowBase at same
  split at same
  · cases same
  · have equal := of_decide_eq_true same
    have ids := congrArg (fun m : Message => m.id) equal
    exact ids

theorem idsKept_of_matches {expected : List Message}
    (length : durable.length ≤ expected.length)
    (same : (List.zipWith messageMatchesRetrievalWindowBase expected durable).all
      (fun same => same) = true) : IdsKept durable expected := by
  induction durable generalizing expected with
  | nil => exact fun m member => nomatch member
  | cons first rest ih =>
    cases expected with
    | nil => simp at length
    | cons planned later =>
      simp only [zipWith_cons_cons, all_cons, Bool.and_eq_true] at same
      intro m member
      rcases mem_cons.1 member with rfl | inRest
      · exact ⟨planned, mem_cons_self, matches_id same.1⟩
      · obtain ⟨held, there, id⟩ := ih (by simpa using length) same.2 m inRest
        exact ⟨held, mem_cons_of_mem planned there, id⟩

theorem idsKept_of_base (same : retrievalWindowBaseMatches codec expected durable = true) :
    IdsKept durable.messages expected.messages := by
  unfold retrievalWindowBaseMatches at same
  split at same
  · cases same
  · split at same
    · cases same
    · rename_i prefixed
      exact idsKept_of_matches (by omega) (not_not.1 prefixed)

theorem idsKept_of_ids (same : before.map (·.id) = after.map (·.id)) : IdsKept before after := by
  intro m member
  have listed : m.id ∈ after.map (·.id) := same ▸ mem_map.2 ⟨m, member, rfl⟩
  exact mem_map.1 listed

end Sessions
