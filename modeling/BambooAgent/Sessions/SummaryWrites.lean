import BambooAgent.Sessions.Durability
import BambooAgent.Sessions.WindowWrites

/- Message summaries on a whole session: which of the writer's rewrites pass the check of the
   checkpoint, and what the check lets through at all. -/
namespace Sessions
open List hiding after
open SortedMaps Compression Checks

/- One tool protocol, scanned twice. -/

def protocolRecord (message : Message) : Bool :=
  hasToolCalls message.toMessage || message.toolCallId.isSome || decide (message.role = .tool)

theorem recordCalls_eq_ok :
    ∀ {calls out : List String}, recordCalls calls new = .ok out ↔ insertCalls calls new = .ok out
      := by
  induction new with
  | nil =>
    simp [recordCalls, insertCalls]
  | cons call rest ih =>
    intro calls out
    unfold recordCalls insertCalls
    split
    · exact iff_of_false (fun same => nomatch same) (fun same => nomatch same)
    · exact ih

theorem recordResult_eq_ok :
    recordResult results message = .ok out ↔ insertResult results message = .ok out := by
  unfold recordResult insertResult
  cases message.toolCallId.filter (fun id => id ≠ "") with
  | none =>
    split
    · simp
    · split <;> simp
  | some id =>
    dsimp only
    split
    · split <;> simp
    · split <;> simp

theorem scanProtocol_eq_ok {next : List String × List String} :
    scanProtocol scan message = .ok next ↔
      ¬ (message.neverCompress = true ∧ protocolRecord message = true) ∧
      ¬ (hasToolCalls message.toMessage = true ∧ message.role ≠ .assistant) ∧
      insertCalls scan.1 (callsOf message.toMessage) = .ok next.1 ∧
      insertResult scan.2 message = .ok next.2 := by
  unfold scanProtocol protocolRecord
  simp only [bind_eq_ok, refuse_eq_ok, pure_eq_ok, exists_const]
  constructor
  · rintro ⟨anchored, spoken, calls, called, results, answered, rfl⟩
    exact ⟨anchored, spoken, called, answered⟩
  · rintro ⟨anchored, spoken, called, answered⟩
    exact ⟨anchored, spoken, _, called, _, answered, rfl⟩

/-- What the check asks of an active message, beside the protocol itself. -/
def Archivable (latestUser : Option String) (message : Message) : Prop :=
  (protocolRecord message = true → shouldArchive latestUser message = true) ∧
    (shouldArchive latestUser message = true → message.compressedByEventId = none)

theorem archivable_of_scanActive {next : SummaryScan} (run : scanActive eventId latestUser scan message = .ok next) :
    Archivable latestUser message := by
  obtain ⟨_, anchored, run⟩ := bind_eq_ok.1 run
  obtain ⟨_, _, run⟩ := bind_eq_ok.1 run
  obtain ⟨_, _, run⟩ := bind_eq_ok.1 run
  obtain ⟨_, _, run⟩ := bind_eq_ok.1 run
  have kept := rejectWhen_eq_ok.1 anchored
  refine ⟨?_, ?_⟩
  · intro record
    by_contra keeps
    exact kept ⟨record, .inr keeps⟩
  · intro archives
    rw [if_pos archives] at run
    obtain ⟨_, plain, _⟩ := bind_eq_ok.1 run
    simpa using rejectWhen_eq_ok.1 plain

theorem scanActive_of_scanProtocol {next : List String × List String}
    (run : scanProtocol (scan.calls, scan.results) message = .ok next)
    (archivable : Archivable latestUser message) :
    ∃ done, scanActive eventId latestUser scan message = .ok done ∧ done.calls = next.1 ∧
      done.results = next.2 := by
  obtain ⟨anchored, spoken, called, answered⟩ := scanProtocol_eq_ok.1 run
  have kept : ¬ (protocolRecord message = true ∧
      (message.neverCompress = true ∨ ¬ shouldArchive latestUser message = true)) := by
    rintro ⟨record, never | keeps⟩
    · exact anchored ⟨never, record⟩
    · exact keeps (archivable.1 record)
  by_cases archives : shouldArchive latestUser message = true
  · have plain : ¬ message.compressedByEventId.isSome = true := by
      simp [archivable.2 archives]
    refine ⟨{ canonical := scan.canonical ++
                [{ message with compressed := true, compressedByEventId := some eventId }],
              newlyArchived := scan.newlyArchived + 1, calls := next.1, results := next.2 },
      bind_eq_ok.2 ⟨(), rejectWhen_eq_ok.2 kept, bind_eq_ok.2
      ⟨(), rejectWhen_eq_ok.2 spoken, bind_eq_ok.2 ⟨_, recordCalls_eq_ok.2 called,
      bind_eq_ok.2 ⟨_, recordResult_eq_ok.2 answered, ?_⟩⟩⟩⟩, rfl, rfl⟩
    rw [if_pos archives]
    exact bind_eq_ok.2 ⟨(), rejectWhen_eq_ok.2 plain, rfl⟩
  · refine ⟨{ scan with
              canonical := scan.canonical ++ [message], calls := next.1, results := next.2 },
      bind_eq_ok.2 ⟨(), rejectWhen_eq_ok.2 kept, bind_eq_ok.2
      ⟨(), rejectWhen_eq_ok.2 spoken, bind_eq_ok.2 ⟨_, recordCalls_eq_ok.2 called,
      bind_eq_ok.2 ⟨_, recordResult_eq_ok.2 answered, ?_⟩⟩⟩⟩, rfl, rfl⟩
    rw [if_neg archives]
    rfl

theorem archivable_of_summaryScan :
    ∀ {scan final : SummaryScan}, summaryScan eventId latestUser scan messages = .ok final → ∀
      message ∈ messages, message.compressed = false → Archivable latestUser message := by
  induction messages with
  | nil => exact fun _ message member => nomatch member
  | cons before rest ih =>
    intro scan final run message member active
    unfold summaryScan at run
    split at run
    · rename_i archived
      rcases mem_cons.1 member with rfl | later
      · rw [active] at archived
        cases archived
      · exact ih run message later active
    · obtain ⟨next, scanned, run⟩ := bind_eq_ok.1 run
      rcases mem_cons.1 member with rfl | later
      · exact archivable_of_scanActive scanned
      · exact ih run message later active

theorem summaryScan_of_protocol :
    ∀ {scan : SummaryScan} {final : List String × List String},
    (messages.filter (fun message => !message.compressed)).foldlM scanProtocol
        (scan.calls, scan.results) = .ok final →
      (∀ message ∈ messages, message.compressed = false → Archivable latestUser message) →
      ∃ done, summaryScan eventId latestUser scan messages = .ok done ∧
        done.calls = final.1 ∧ done.results = final.2 := by
  induction messages with
  | nil =>
    intro scan final run _
    cases pure_eq_ok.1 run
    exact ⟨scan, rfl, rfl, rfl⟩
  | cons before rest ih =>
    intro scan final run archivable
    have later : ∀ message ∈ rest, message.compressed = false →
        Archivable latestUser message :=
      fun message member => archivable message (mem_cons_of_mem before member)
    unfold summaryScan
    cases kept : before.compressed with
    | true =>
      rw [filter_cons_of_neg (by simp [kept])] at run
      exact ih run later
    | false =>
      rw [filter_cons_of_pos (by simp [kept])] at run
      obtain ⟨next, scanned, run⟩ := bind_eq_ok.1 run
      obtain ⟨middle, walked, called, answered⟩ := scanActive_of_scanProtocol scanned
        (archivable before mem_cons_self kept)
      have goesOn : (rest.filter (fun message => !message.compressed)).foldlM scanProtocol
          (middle.calls, middle.results) = .ok final := by
        rw [called, answered]
        exact run
      obtain ⟨done, walkedOn, sums⟩ := ih goesOn later
      exact ⟨done, bind_eq_ok.2 ⟨middle, walked, walkedOn⟩, sums⟩

/- What the writer archives. -/

theorem latestActiveUser_active (session : Session) :
    latestActiveUser (activeMessagesForBudget session) = latestUserId session.messages := by
  unfold latestActiveUser activeMessagesForBudget latestUserId
  rw [← filter_reverse, List.find?_filter]
  simp

/-- The active messages that a summary takes out of the context. -/
def archivedMessages (session : Session) : List Message :=
  (activeMessagesForBudget session).filter (shouldArchive (latestUserId session.messages))

/-- What a finished plan says of the session it was made from. -/
structure SummaryPlanned (session : Session) (plan : CompressionPlan) : Prop where
  kind : plan.kind = .messageSummary
  unnamed : plan.logicalPassId = none
  ids : plan.compressedMessageIds = (archivedMessages session).map (·.id)
  some : archivedMessages session ≠ []
  protocol : ∃ final, (activeMessagesForBudget session).foldlM scanProtocol ([], []) = .ok final ∧
    sameIds final.1 final.2 = true

theorem protocol_of_validate (run : validateMessageSummaryToolProtocol messages = .ok ()) :
    ∃ final, messages.foldlM scanProtocol ([], []) = .ok final ∧
      sameIds final.1 final.2 = true := by
  obtain ⟨final, scanned, complete⟩ := bind_eq_ok.1 run
  exact ⟨final, scanned, not_not.1 (refuse_eq_ok.1 complete)⟩

theorem planned_of_run
    (built : buildMessageSummaryCandidatePlanWithInputCosts tools session budget
      summaryTargetRatio triggerType additionalFixedTokens inputCosts = .ok candidate)
    (finalized : finalizeCompressionCandidatePlan tools recoveryTokens session candidate
      summaryContent = .ok plan) : SummaryPlanned session plan := by
  obtain ⟨_, _, built⟩ := bind_eq_ok.1 built
  obtain ⟨_, protocol, built⟩ := bind_eq_ok.1 built
  obtain ⟨_, something, built⟩ := bind_eq_ok.1 built
  obtain ⟨target, _, built⟩ := bind_eq_ok.1 built
  split at built
  · cases built
  · cases built
    obtain ⟨_, _, finalized⟩ := bind_eq_ok.1 finalized
    obtain ⟨_, _, finalized⟩ := bind_eq_ok.1 finalized
    obtain ⟨_, _, finalized⟩ := bind_eq_ok.1 finalized
    obtain ⟨_, _, finalized⟩ := bind_eq_ok.1 finalized
    cases pure_eq_ok.1 finalized
    have archived : (activeMessagesForBudget session).filter
        (isArchived (latestActiveUser (activeMessagesForBudget session))) =
          archivedMessages session := by
      rw [latestActiveUser_active]
      rfl
    exact ⟨rfl, rfl, congrArg (List.map (·.id)) archived,
      fun none => refuse_eq_ok.1 something (archived.trans none), protocol_of_validate protocol⟩

/- The rewrite in one piece. -/

def changedMessages (session : Session) (plan : CompressionPlan) : Nat :=
  session.messages.countP (fun message =>
    !message.compressed && decide (message.id ∈ plan.compressedMessageIds))

def summaryArchived (session : Session) (plan : CompressionPlan) (stamp : Stamp) : Session :=
  { session with
    messages := session.messages.map (archiveIds plan.compressedMessageIds stamp.eventId),
    compressionEvents :=
      session.compressionEvents ++ [plan.event stamp (changedMessages session plan)],
    conversationSummary := plan.summary stamp }

/-- What applying a message summary makes of the session. -/
def summarized (tools : SummaryTools) (session : Session) (plan : CompressionPlan)
    (stamp : Stamp) : Session :=
  let archived := summaryArchived session plan stamp
  let counted := { archived with tokenUsage := some (usageAfterSummary tools archived plan) }
  { counted.resetModelContextEpoch with updatedAt := stamp.updatedAt }

section Applying
theorem mem_archivedMessages :
    message ∈ archivedMessages session ↔
      message ∈ session.messages ∧ message.compressed = false ∧
        shouldArchive (latestUserId session.messages) message = true := by
  unfold archivedMessages activeMessagesForBudget
  rw [mem_filter]
  simp [and_assoc]

variable (planned : SummaryPlanned session plan)
include planned

theorem mem_planned :
    messageId ∈ plan.compressedMessageIds ↔
      ∃ message ∈ archivedMessages session, message.id = messageId := by
  rw [planned.ids, mem_map]

theorem changedMessages_planned : changedMessages session plan ≠ 0 := by
  obtain ⟨message, archived⟩ := exists_mem_of_ne_nil _ planned.some
  obtain ⟨member, active, _⟩ := mem_archivedMessages.1 archived
  intro none
  have listed : message.id ∈ plan.compressedMessageIds :=
    (mem_planned planned).2 ⟨message, archived, rfl⟩
  have untouched := countP_eq_zero.1 none message member
  simp [active, listed] at untouched

theorem applied_planned :
    (applyCompressionPlan tools recovery session plan stamp).1 =
      summarized tools session plan stamp := by
  have changed := changedMessages_planned planned
  have named : ∀ count, (plan.event stamp count).id = stamp.eventId := by
    simp [CompressionPlan.event, CompressionEvent.new, planned.unnamed]
  unfold changedMessages at changed
  simp only [applyCompressionPlan, if_neg changed, if_pos planned.kind, named]
  rfl

omit planned in
theorem sameJson_summarized {codec : Codec} {messages : List Message} {metadata : Metadata}
    {force : Option String} :
    sameJson codec
        (canonicalSummary session
          { summarized tools session plan stamp with
            metadata := metadata, forceManualCompression := force }
          messages (plan.event stamp (changedMessages session plan)))
        { summarized tools session plan stamp with
          metadata := metadata, forceManualCompression := force } = true ↔
      messages = session.messages.map (archiveIds plan.compressedMessageIds stamp.eventId) ∧
        session.metadata.erase previousResponseIdKey = metadata := by
  unfold sameJson
  rw [Bool.and_eq_true, Bool.and_eq_true, decide_eq_true_eq, decide_eq_true_eq,
    decide_eq_true_eq]
  constructor
  · rintro ⟨⟨fields, _⟩, _⟩
    exact ⟨congrArg SessionFields.messages fields, congrArg SessionFields.metadata fields⟩
  · rintro ⟨rfl, rfl⟩
    exact ⟨⟨rfl, rfl⟩, rfl⟩

end Applying

/-- The session's active messages can be archived one by one: a tool record is archived, what
    is archived carries no event yet, and what stays shares no id with it. -/
structure Untangled (session : Session) : Prop where
  archivable : ∀ message ∈ session.messages, message.compressed = false →
    Archivable (latestUserId session.messages) message
  apart : ∀ message ∈ session.messages, message.compressed = false →
    (∃ archived ∈ archivedMessages session, archived.id = message.id) →
      shouldArchive (latestUserId session.messages) message = true

section Checking
variable {stamp : Stamp}

theorem archived_agree_iff (planned : SummaryPlanned session plan) :
    session.messages.map (archiveMark stamp.eventId (latestUserId session.messages)) =
        session.messages.map (archiveIds plan.compressedMessageIds stamp.eventId) ↔
      ∀ message ∈ session.messages, message.compressed = false →
        (∃ archived ∈ archivedMessages session, archived.id = message.id) →
          shouldArchive (latestUserId session.messages) message = true := by
  rw [map_inj_left]
  constructor
  · intro agree message member active shared
    have listed := (mem_planned planned).2 shared
    have marked : (archiveMark stamp.eventId (latestUserId session.messages) message).compressed =
        true := by
      rw [agree message member]
      simp [archiveIds, active, listed]
    by_contra keeps
    simp [archiveMark, active, keeps] at marked
  · intro apart message member
    cases active : message.compressed with
    | true => simp [archiveMark, archiveIds, active]
    | false =>
      by_cases archives : shouldArchive (latestUserId session.messages) message = true
      · have listed : message.id ∈ plan.compressedMessageIds :=
          (mem_planned planned).2
            ⟨message, mem_archivedMessages.2 ⟨member, active, archives⟩, rfl⟩
        simp [archiveMark, archiveIds, active, archives, listed]
      · have unlisted : message.id ∉ plan.compressedMessageIds := by
          intro listed
          exact archives (apart message member active ((mem_planned planned).1 listed))
        simp [archiveMark, archiveIds, active, archives, unlisted]

theorem archived_count :
    (archivedMessages session).length = session.messages.countP (fun message =>
      !message.compressed && shouldArchive (latestUserId session.messages) message) := by
  unfold archivedMessages activeMessagesForBudget
  rw [filter_filter, countP_eq_length_filter]
  congr 2
  funext message
  rw [Bool.and_comm]

theorem changed_count (planned : SummaryPlanned session plan)
    (apart : ∀ message ∈ session.messages, message.compressed = false →
      (∃ archived ∈ archivedMessages session, archived.id = message.id) →
        shouldArchive (latestUserId session.messages) message = true) :
    changedMessages session plan = (archivedMessages session).length := by
  rw [archived_count]
  apply countP_congr
  intro message member
  rw [Bool.and_eq_true, Bool.and_eq_true, decide_eq_true_eq, Bool.not_eq_true']
  constructor
  · rintro ⟨active, listed⟩
    exact ⟨active, apart message member active ((mem_planned planned).1 listed)⟩
  · rintro ⟨active, archives⟩
    exact ⟨active, (mem_planned planned).2
      ⟨message, mem_archivedMessages.2 ⟨member, active, archives⟩, rfl⟩⟩

theorem summary_consistent (planned : SummaryPlanned session plan)
    (held : plan.summary stamp = some summary) :
    (trim summary.content).isEmpty = false ∧
      summary.messageCount = (archivedMessages session).length ∧
      summary.tokenCount = plan.summaryTokens := by
  unfold CompressionPlan.summary at held
  split at held
  · cases held
  · rename_i written
    cases held
    refine ⟨?_, ?_, rfl⟩
    · simpa [planned.kind] using written
    · rw [planned.ids, length_map]

theorem summary_accepted_iff (codec : Codec) (planned : SummaryPlanned session plan)
    (fresh : FreshEvent session stamp.eventId) :
    validateStagedMessageSummaryTransition codec session
        { summarized tools session plan stamp with
          metadata := metadata, forceManualCompression := force } = .ok () ↔
      Untangled session ∧ session.metadata.erase previousResponseIdKey = metadata := by
  have events : ({ summarized tools session plan stamp with
      metadata := metadata, forceManualCompression := force } : Session).compressionEvents =
        session.compressionEvents ++ [plan.event stamp (changedMessages session plan)] := rfl
  have named : (plan.event stamp (changedMessages session plan)).id = stamp.eventId := by
    simp [CompressionPlan.event, CompressionEvent.new, planned.unnamed]
  constructor
  · intro run
    obtain ⟨event, scan, accepted⟩ := validateSummary_eq_ok.1 run
    have appended := appendedEvent_append events
    rw [accepted.appended] at appended
    cases appended
    have canonical := (summaryScan_canonical accepted.scanned).1
    have projected := sameJson_summarized.1 accepted.projected
    rw [canonical, named] at projected
    exact ⟨⟨archivable_of_summaryScan accepted.scanned,
      (archived_agree_iff planned).1 projected.1⟩, projected.2⟩
  · rintro ⟨untangled, erased⟩
    obtain ⟨final, protocol, complete⟩ := planned.protocol
    obtain ⟨scan, scanned, called, answered⟩ :
        ∃ scan, summaryScan stamp.eventId (latestUserId session.messages) SummaryScan.start
          session.messages = .ok scan ∧ scan.calls = final.1 ∧ scan.results = final.2 :=
      summaryScan_of_protocol protocol untangled.archivable
    obtain ⟨canonical, count⟩ := summaryScan_canonical scanned
    have total : scan.newlyArchived = (archivedMessages session).length := by
      rw [count, archived_count]
      exact zero_add _
    refine validateSummary_eq_ok.2 ⟨_, scan, rfl, ?_, appendedEvent_append events, planned.kind,
      ?_, ?_, ?_, ?_, ?_, ?_, ?_, sameJson_summarized.2 ⟨?_, erased⟩⟩
    · exact (length_map _).symm
    · rw [named]
      exact fresh.named
    · rw [named]
      exact fresh.newEvent
    · rw [named]
      exact scanned
    · rw [called, answered]
      exact complete
    · rw [total]
      exact fun none => planned.some (length_eq_zero_iff.1 none)
    · exact (changed_count planned untangled.apart).trans total.symm
    · intro summary held
      rw [total]
      exact summary_consistent planned held
    · rw [canonical]
      exact (archived_agree_iff planned).2 untangled.apart

end Checking

/- Sessions whose active messages have ids of their own. -/

theorem scanned_of_foldlM {messages : List Message} :
    ∀ {scan final : List String × List String}, messages.foldlM scanProtocol scan = .ok final →
      ∀ message ∈ messages, ∃ before after, scanProtocol before message = .ok after := by
  induction messages with
  | nil => exact fun _ message member => nomatch member
  | cons first rest ih =>
    intro scan final run message member
    obtain ⟨next, scanned, run⟩ := bind_eq_ok.1 run
    rcases mem_cons.1 member with rfl | later
    · exact ⟨scan, next, scanned⟩
    · exact ih run message later

theorem protocolRecord_role (run : scanProtocol before message = .ok after)
    (record : protocolRecord message = true) :
    message.neverCompress = false ∧ (message.role = .assistant ∨ message.role = .tool) := by
  obtain ⟨anchored, spoken, _, answered⟩ := scanProtocol_eq_ok.1 run
  refine ⟨?_, ?_⟩
  · cases never : message.neverCompress with
    | false => rfl
    | true => exact absurd ⟨never, record⟩ anchored
  · unfold protocolRecord at record
    rw [Bool.or_eq_true, Bool.or_eq_true, decide_eq_true_eq] at record
    rcases record with (calls | named) | tool
    · exact .inl (by_contra fun other => spoken ⟨calls, other⟩)
    · unfold insertResult at answered
      split at answered
      · rename_i tool
        exact .inr tool
      · cases answered
    · exact .inr tool

theorem latestUserId_found (latest : latestUserId messages = some messageId) :
    ∃ user ∈ messages, user.compressed = false ∧ user.role = .user ∧ user.id = messageId := by
  obtain ⟨user, found, same⟩ := Option.map_eq_some_iff.1 latest
  have member := mem_reverse.1 (mem_of_find?_eq_some found)
  have holds := List.find?_some found
  rw [Bool.and_eq_true, Bool.not_eq_true', decide_eq_true_eq] at holds
  exact ⟨user, member, holds.1, holds.2, same⟩

theorem untangled_of_distinct (planned : SummaryPlanned session plan)
    (distinct : ((activeMessagesForBudget session).map (·.id)).Nodup)
    (plain : ∀ message ∈ activeMessagesForBudget session, message.compressedByEventId = none) :
    Untangled session := by
  obtain ⟨final, protocol, _⟩ := planned.protocol
  have live : ∀ {message : Message}, message ∈ session.messages → message.compressed = false →
      message ∈ activeMessagesForBudget session :=
    fun member active => mem_filter.2 ⟨member, by simp [active]⟩
  refine ⟨?_, ?_⟩
  · intro message member active
    refine ⟨?_, fun _ => plain message (live member active)⟩
    intro record
    obtain ⟨_, _, scanned⟩ := scanned_of_foldlM protocol message (live member active)
    obtain ⟨mayGo, role⟩ := protocolRecord_role scanned record
    have notLatest : some message.id ≠ latestUserId session.messages := by
      intro same
      obtain ⟨user, held, open_, asked, named⟩ := latestUserId_found same.symm
      have one := inj_on_of_nodup_map distinct (live held open_) (live member active) named
      rw [one] at asked
      rcases role with role | role <;> rw [role] at asked <;> cases asked
    have notSystem : message.role ≠ .system := by
      intro system
      rcases role with role | role <;> rw [role] at system <;> cases system
    simp [shouldArchive, mayGo, notLatest, notSystem]
  · intro message member active ⟨archived, picked, same⟩
    obtain ⟨held, open_, archives⟩ := mem_archivedMessages.1 picked
    rw [← inj_on_of_nodup_map distinct (live held open_) (live member active) same]
    exact archives

/- What the check lets through. -/

/-- After an accepted message summary every message is the old one up to its archive marker,
    one event follows the old ones, and nothing else of the persisted session differs but the
    summary, the accounting, the lanes that were reset and the continuation that was dropped. -/
structure SummaryOnly (codec : Codec) (before after : Session) : Prop where
  event : ∃ event,
    after.compressionEvents.map codec.eventJson =
      before.compressionEvents.map codec.eventJson ++ [codec.eventJson event] ∧
    List.Forall₂ (Marked event.id) before.messages after.messages
  continuation : after.metadata = before.metadata.erase previousResponseIdKey
  modelContext : after.modelContextState = before.resetModelContextEpoch.modelContextState
  provider : after.providerTranscript = before.resetModelContextEpoch.providerTranscript
  others :
    { after.toSessionFields with
      messages := before.messages, metadata := before.metadata,
      modelContextState := before.modelContextState,
      providerTranscript := before.providerTranscript, tokenUsage := before.tokenUsage,
      updatedAt := before.updatedAt,
      observedRuntimeSessionVersion := before.observedRuntimeSessionVersion,
      forceManualCompression := before.forceManualCompression } = before.toSessionFields

theorem archiveMark_marked
    (archivable : message.compressed = false → Archivable latestUser message) :
    Marked eventId message (archiveMark eventId latestUser message) := by
  unfold archiveMark
  split
  · rename_i archives
    rw [Bool.and_eq_true, Bool.not_eq_true'] at archives
    exact ⟨rfl, .inl ⟨archives.1, (archivable archives.1).2 archives.2, rfl, rfl⟩⟩
  · exact ⟨rfl, .inr ⟨rfl, rfl⟩⟩

theorem summaryOnly_of_accepted
    (run : validateStagedMessageSummaryTransition codec before after = .ok ()) :
    SummaryOnly codec before after := by
  obtain ⟨event, scan, accepted⟩ := validateSummary_eq_ok.1 run
  have projected := accepted.projected
  unfold sameJson at projected
  rw [Bool.and_eq_true, Bool.and_eq_true, decide_eq_true_eq, decide_eq_true_eq,
    decide_eq_true_eq] at projected
  obtain ⟨⟨fields, _⟩, events⟩ := projected
  have messages : scan.canonical = after.messages := congrArg SessionFields.messages fields
  have canonical := (summaryScan_canonical accepted.scanned).1
  have archivable := archivable_of_summaryScan accepted.scanned
  refine ⟨⟨event, ?_, ?_⟩, ?_, ?_, ?_, ?_⟩
  · rw [← events]
    exact map_append
  · rw [← messages, canonical, ]
    refine forall₂_map_right_iff.2 (forall₂_same.2 ?_)
    intro message member
    exact archiveMark_marked (archivable message member)
  · exact (congrArg SessionFields.metadata fields).symm
  · exact (congrArg SessionFields.modelContextState fields).symm
  · exact (congrArg SessionFields.providerTranscript fields).symm
  · exact (congrArg (fun held : SessionFields =>
      { held with
        messages := before.messages, metadata := before.metadata,
        modelContextState := before.modelContextState,
        providerTranscript := before.providerTranscript, tokenUsage := before.tokenUsage,
        updatedAt := before.updatedAt,
        observedRuntimeSessionVersion := before.observedRuntimeSessionVersion,
        forceManualCompression := before.forceManualCompression }) fields).symm

/- Writers and checks. -/

theorem erase_absent {metadata : Metadata} :
    metadata.erase key = metadata ↔ metadata.lookup key = none := by
  constructor
  · intro same
    rw [← same]
    simp
  · intro absent
    apply SortedMap.ext_lookup
    intro other
    rw [SortedMap.lookup_erase]
    split
    · rename_i same
      rw [same, absent]
    · rfl

theorem staged_accepted_iff (codec : Codec) (planned : SummaryPlanned session plan)
    (fresh : FreshEvent session stamp.eventId) :
    validateStagedMessageSummaryTransition codec session
      (stageMessageSummary tools recovery session plan stamp) = .ok () ↔ Untangled session := by
  have staged : stageMessageSummary tools recovery session plan stamp =
      { summarized tools session plan stamp with
        metadata := session.metadata.erase previousResponseIdKey,
        forceManualCompression := none } := by
    unfold stageMessageSummary
    rw [applied_planned planned]
    rfl
  rw [staged, summary_accepted_iff codec planned fresh]
  simp

theorem applied_accepted_iff (codec : Codec) (planned : SummaryPlanned session plan)
    (fresh : FreshEvent session stamp.eventId) :
    validateStagedMessageSummaryTransition codec session
        (applyCompressionPlan tools recovery session plan stamp).1 = .ok () ↔
      Untangled session ∧ session.metadata.lookup previousResponseIdKey = none := by
  have applied : (applyCompressionPlan tools recovery session plan stamp).1 =
      { summarized tools session plan stamp with
        metadata := session.metadata,
        forceManualCompression := session.forceManualCompression } := by
    rw [applied_planned planned]
    rfl
  rw [applied, summary_accepted_iff codec planned fresh, erase_absent]

/-- The writers of archives and the checks of their checkpoints agree. A retrieval window that
    was applied passes unless the application was a replay; a message summary that was built,
    finalized and applied passes, once the provider's continuation is dropped, exactly when the
    active messages can be archived one by one, as they can when they have ids of their own and
    carry no event. What the summary check lets through changes nothing of the session but
    archive markers, the summary, the events and the accounting. -/
theorem writers_and_checks_agree (codec : Codec) (digests : Digests) (tools : SummaryTools)
    (recoveryTokens : List Message → Session → Nat)
    (recovery : List Message → Session → Option Message) (session : Session) :
    (∀ plan currentPolicy currentBudget currentAccounting triggerType eventId now result,
      FreshEvent session eventId →
      (applyRetrievalWindowPlanWithTrigger digests session plan currentPolicy currentBudget
        currentAccounting triggerType eventId now).2 = .ok result →
      (validateStagedRetrievalWindowTransition codec session
          (applyRetrievalWindowPlanWithTrigger digests session plan currentPolicy currentBudget
            currentAccounting triggerType eventId now).1 = .ok () ↔
        result.idempotentReplay = false)) ∧
    (∀ budget summaryTargetRatio triggerType additionalFixedTokens inputCosts candidate
        summaryContent plan stamp,
      FreshEvent session stamp.eventId →
      buildMessageSummaryCandidatePlanWithInputCosts tools session budget summaryTargetRatio
        triggerType additionalFixedTokens inputCosts = .ok candidate →
      finalizeCompressionCandidatePlan tools recoveryTokens session candidate summaryContent =
        .ok plan →
      (validateStagedMessageSummaryTransition codec session
        (stageMessageSummary tools recovery session plan stamp) = .ok () ↔ Untangled session) ∧
      (validateStagedMessageSummaryTransition codec session
          (applyCompressionPlan tools recovery session plan stamp).1 = .ok () ↔
        Untangled session ∧ session.metadata.lookup previousResponseIdKey = none) ∧
      (((activeMessagesForBudget session).map (·.id)).Nodup →
        (∀ message ∈ activeMessagesForBudget session, message.compressedByEventId = none) →
          Untangled session)) ∧
    (∀ staged, validateStagedMessageSummaryTransition codec session staged = .ok () →
      SummaryOnly codec session staged) := by
  refine ⟨?_, ?_, ?_⟩
  · intro plan currentPolicy currentBudget currentAccounting triggerType eventId now result fresh
      applied
    exact window_accepted_iff codec fresh applied
  · intro budget summaryTargetRatio triggerType additionalFixedTokens inputCosts candidate
      summaryContent plan stamp fresh built finalized
    have planned := planned_of_run built finalized
    exact ⟨staged_accepted_iff codec planned fresh, applied_accepted_iff codec planned fresh,
      untangled_of_distinct planned⟩
  · intro staged accepted
    exact summaryOnly_of_accepted accepted

/- A turn with a tool call and a newer one, under a counter that counts nothing. -/

def Sample.lookedUp : Session :=
  { Session.new "session" "model" 0 with
    messages := Compression.Sample.lookedUp.messages.map (fun message =>
      { toMessage := message, createdAt := 0, metadata := none }) }

def Sample.tools : SummaryTools :=
  { counter := { countMessage := fun _ => 0, countMessages := fun _ => 0,
                 countText := fun _ => 0 },
    messageSummarySnapshot := fun _ _ _ => some "snapshot" }

def Sample.budget : TokenBudget := .withSafetyMargin 1000 200 100

def Sample.stamp : Stamp := { eventId := "event", summarizedAt := 1, updatedAt := 1 }

theorem capSummary_of_room (nothing : required = 0) (room : 0 < targetLimit) :
    capSummaryToContextTarget desired required targetLimit = .ok (min desired targetLimit) := by
  unfold capSummaryToContextTarget
  rw [nothing, if_neg (by omega), Nat.sub_zero]

def Sample.continuing (metadata : Metadata) : Session :=
  { Sample.lookedUp with metadata := metadata }

theorem Sample.finalizes (kind : candidate.kind = .messageSummary)
    (snapshot : candidate.messageSummarySnapshot = some "snapshot")
    (active : candidate.compressedMessageIds ⊆ (activeMessagesForBudget session).map (·.id))
    (fixed : candidate.additionalFixedTokens = 0) (retained : candidate.retainedInputTokens = 0) :
    ∃ plan, finalizeCompressionCandidatePlan Sample.tools (fun _ _ => 0) session candidate
      "summary" = .ok plan := by
  have written : (trim "summary").isEmpty = false := by decide
  refine ⟨_, bind_eq_ok.2 ⟨(), refuse_eq_ok.2 ?_, bind_eq_ok.2 ⟨(), refuse_eq_ok.2 ?_,
    bind_eq_ok.2 ⟨(), refuse_eq_ok.2 ?_, bind_eq_ok.2 ⟨(), refuse_eq_ok.2 ?_, rfl⟩⟩⟩⟩⟩
  · rintro ⟨_, _, blank⟩
    cases blank
  · exact fun changed => changed.2 snapshot
  · exact fun ⟨_, listed, unlisted⟩ => unlisted (active listed)
  · rw [kind, fixed, retained, ]
    exact Nat.not_lt_zero _

theorem Sample.builds (metadata : Metadata) :
    ∃ candidate, buildMessageSummaryCandidatePlanWithInputCosts Sample.tools
        (Sample.continuing metadata) Sample.budget 0.2 .auto 0 SortedMap.empty = .ok candidate ∧
      ∃ plan, finalizeCompressionCandidatePlan Sample.tools (fun _ _ => 0)
        (Sample.continuing metadata) candidate "summary" = .ok plan := by
  have protocol : validateMessageSummaryToolProtocol
      (activeMessagesForBudget (Sample.continuing metadata)) = .ok () := by
    rfl
  have room : 0 < Sample.budget.compressionThresholds.targetTokens := by decide
  refine ⟨_, bind_eq_ok.2 ⟨(), rfl, bind_eq_ok.2 ⟨(), protocol, bind_eq_ok.2 ⟨(), rfl,
    bind_eq_ok.2 ⟨_, capSummary_of_room ?_ room, rfl⟩⟩⟩⟩, Sample.finalizes rfl rfl ?_ rfl rfl⟩
  · rw [show ∀ n, (if 0 < n then Sample.tools.countSummary "" else 0) = 0 from fun n => by
      split <;> rfl]
    rfl
  · exact map_subset _ filter_sublist.subset

/-- The plan that archives the older turn, applied to a session. -/
def Sample.window (session : Session) (eventId : String) :
    Session × Applying RetrievalWindowApplyResult :=
  applyRetrievalWindowPlanWithTrigger Compression.Sample.constantDigests session
    Compression.Sample.olderTurn { minRecentUserTurns := 1, targetUsagePercent := 50 }
    (.withSafetyMargin 10 0 0)
    { fixedPromptTokens := 0, boundaryReclaimableTokens := 0, providerMessageTokens := .empty }
    .auto eventId 1

theorem Sample.window_lookedUp :
    (Sample.window Sample.lookedUp "event").2 =
      .ok { eventId := "event", newlyArchivedMessageCount := 3, idempotentReplay := false } := by
  decide

theorem Sample.lookedUp_fresh : FreshEvent Sample.lookedUp "event" := by
  refine ⟨by decide, by decide, ?_⟩
  decide

theorem writers_and_checks_agree_lookedUp :
    validateStagedRetrievalWindowTransition sampleCodec Sample.lookedUp
      (Sample.window Sample.lookedUp "event").1 = .ok () ∧
    ∃ plan, SummaryPlanned Sample.lookedUp plan ∧
      validateStagedMessageSummaryTransition sampleCodec Sample.lookedUp
        (stageMessageSummary Sample.tools (fun _ _ => none) Sample.lookedUp plan Sample.stamp) =
          .ok () ∧
      SummaryOnly sampleCodec Sample.lookedUp
        (stageMessageSummary Sample.tools (fun _ _ => none) Sample.lookedUp plan Sample.stamp) := by
  obtain ⟨windows, summaries, changes⟩ := writers_and_checks_agree sampleCodec
    Compression.Sample.constantDigests Sample.tools (fun _ _ => 0) (fun _ _ => none)
    Sample.lookedUp
  obtain ⟨candidate, built, plan, finalized⟩ := Sample.builds SortedMap.empty
  obtain ⟨staged, _, distinct⟩ := summaries Sample.budget 0.2 .auto 0 SortedMap.empty candidate
    "summary" plan Sample.stamp Sample.lookedUp_fresh built finalized
  have accepted := staged.mpr (distinct (by decide) (by decide))
  exact ⟨(windows _ _ _ _ _ "event" 1 _ Sample.lookedUp_fresh Sample.window_lookedUp).mpr rfl,
    plan, planned_of_run built finalized, accepted, changes _ accepted⟩

/-- Not every successful rewrite passes as it is: the check wants the provider's continuation
    dropped, which the writer leaves to the engine, and a plan that is applied again changes
    nothing, where the check wants an event. One more reset does not help. -/
theorem continuation_and_replay_refused :
    (∃ session candidate plan,
      buildMessageSummaryCandidatePlanWithInputCosts Sample.tools session Sample.budget 0.2 .auto
        0 SortedMap.empty = .ok candidate ∧
      finalizeCompressionCandidatePlan Sample.tools (fun _ _ => 0) session candidate "summary" =
        .ok plan ∧
      let applied := (applyCompressionPlan Sample.tools (fun _ _ => none) session plan
        Sample.stamp).1
      validateStagedMessageSummaryTransition sampleCodec session applied ≠ .ok () ∧
      validateStagedMessageSummaryTransition sampleCodec session
        applied.resetModelContextEpoch ≠ .ok ()) ∧
    (∃ session result, Sample.window session "again" = (session, .ok result) ∧
      validateStagedRetrievalWindowTransition sampleCodec session session ≠ .ok () ∧
      validateStagedRetrievalWindowTransition sampleCodec session
        session.resetModelContextEpoch ≠ .ok ()) := by
  constructor
  · obtain ⟨candidate, built, plan, finalized⟩ :=
      Sample.builds (SortedMap.empty.insert previousResponseIdKey "response")
    have planned := planned_of_run built finalized
    refine ⟨_, candidate, plan, built, finalized, ?_⟩
    rw [applied_planned planned]
    refine ⟨?_, ?_⟩
    · intro accepted
      have dropped := (summaryOnly_of_accepted accepted).continuation
      exact absurd (erase_absent.mp dropped.symm) (by decide)
    · intro accepted
      have dropped := (summaryOnly_of_accepted accepted).continuation
      exact absurd (erase_absent.mp dropped.symm) (by decide)
  · obtain ⟨replay, replayed⟩ := window_replayed Sample.lookedUp_fresh Sample.window_lookedUp
      "again" 1
    exact ⟨_, replay, replayed, validateWindow_same _ _ _ rfl, validateWindow_same _ _ _ rfl⟩

end Sessions
