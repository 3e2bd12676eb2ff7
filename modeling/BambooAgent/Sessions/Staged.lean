import BambooAgent.Sessions.Merging

/- The checks on a staged archive rewrite: what it may change of the session it was planned
   from. -/
namespace Sessions
open SortedMaps Compression

def previousResponseIdKey : String := "responses.previous_response_id"

def invalidRetrievalWindowCheckpoint (message : String) : IoError :=
  { kind := .invalidInput, cause := .none, message }

/-- `if condition { return Err(...) }`. -/
def rejectWhen (condition : Prop) [Decidable condition] (message : String) :
    Except IoError Unit :=
  if condition then .error (invalidRetrievalWindowCheckpoint message) else .ok ()

/-- `reset_model_context_epoch(Compression)` on the two lanes that it resets. -/
def Session.resetModelContextEpoch (session : Session) : Session :=
  let lanes := Compression.Session.resetModelContextEpoch
    { Compression.Session.ofMessages [] with
      modelContextState := session.modelContextState,
      providerTranscript := session.providerTranscript }
  { session with
    modelContextState := lanes.modelContextState,
    providerTranscript := lanes.providerTranscript }

/-- Equal JSON: the skipped fields do not count, the summaries and events go by their texts. -/
def sameJson (codec : Codec) (left right : Session) : Bool :=
  decide
    ({ left.toSessionFields with
        observedRuntimeSessionVersion := none, forceManualCompression := none } =
      { right.toSessionFields with
        observedRuntimeSessionVersion := none, forceManualCompression := none }) &&
    decide (left.conversationSummary.map codec.summaryJson =
      right.conversationSummary.map codec.summaryJson) &&
    decide (left.compressionEvents.map codec.eventJson =
      right.compressionEvents.map codec.eventJson)

def appendedEvent (expected staged : Session) : Option CompressionEvent :=
  if staged.compressionEvents.length = expected.compressionEvents.length + 1 then
    staged.compressionEvents.getLast?
  else none

/-- `normalized_after`: the later message under the marker of the earlier one. -/
def normalizedAfter (before after : Message) : Message :=
  { after with
    compressed := before.compressed, compressedByEventId := before.compressedByEventId }

def archivedNow (eventId : String) (before after : Message) : Except IoError Bool := do
  rejectWhen (before.id ≠ after.id)
    "retrieval-window checkpoint reordered or replaced a message"
  let isNewArchive := !before.compressed && after.compressed
  if isNewArchive then
    rejectWhen (before.compressedByEventId.isSome ∨ after.compressedByEventId ≠ some eventId)
      "retrieval-window checkpoint has an invalid message correlation"
  else
    rejectWhen (before.compressed ≠ after.compressed ∨
        before.compressedByEventId ≠ after.compressedByEventId)
      "retrieval-window checkpoint contains an unsupported archive mutation"
  rejectWhen (before ≠ normalizedAfter before after)
    "retrieval-window checkpoint mutated message content"
  return isNewArchive

def newlyArchived (eventId : String) : List Message → List Message → Except IoError Nat
  | before :: befores, after :: afters => do
    let archived ← archivedNow eventId before after
    let count ← newlyArchived eventId befores afters
    return (if archived then 1 else 0) + count
  | _, _ => .ok 0

def validateStagedRetrievalWindowTransition (codec : Codec) (expected staged : Session) :
    Except IoError Unit := do
  rejectWhen (expected.id ≠ staged.id) "retrieval-window checkpoint Session IDs differ"
  rejectWhen (expected.conversationSummary.isSome ∨ staged.conversationSummary.isSome)
    "retrieval-window checkpoint cannot contain a conversation summary"
  rejectWhen (expected.messages.length ≠ staged.messages.length)
    "retrieval-window checkpoint must preserve the message array"
  match appendedEvent expected staged with
  | none =>
    .error (invalidRetrievalWindowCheckpoint
      "retrieval-window checkpoint must append exactly one compression event")
  | some event =>
    rejectWhen (expected.compressionEvents.map codec.eventJson ≠
        (staged.compressionEvents.take expected.compressionEvents.length).map codec.eventJson)
      "retrieval-window checkpoint rewrote an existing compression event"
    rejectWhen (event.kind ≠ .retrievalWindow ∨ event.id = "" ∨
        event.id ∈ expected.compressionEvents.map (·.id))
      "retrieval-window checkpoint has an invalid archive event"
    let archived ← newlyArchived event.id expected.messages staged.messages
    rejectWhen (archived = 0 ∨ archived ≠ event.messagesCompressed)
      "retrieval-window checkpoint event count does not match message correlations"
    rejectWhen (staged.modelContextState.bind ModelContextState.lastResetReason ≠
        some .compression)
      "retrieval-window checkpoint is missing its model-context reset"

/- Message summaries. -/

/-- What the walk over the messages has found: the archived projection, and the calls and
    results of the active tool protocol. -/
structure SummaryScan where
  canonical : List Message
  newlyArchived : Nat
  calls : List String
  results : List String

def SummaryScan.start : SummaryScan :=
  { canonical := [], newlyArchived := 0, calls := [], results := [] }

def latestUserId (messages : List Message) : Option String :=
  (messages.reverse.find? (fun message =>
    !message.compressed && decide (message.role = .user))).map (·.id)

def startsWith (text start : String) : Bool := start.toList.isPrefixOf text.toList

def shouldArchive (latestUser : Option String) (before : Message) : Bool :=
  let generatedRecovery := decide (before.role = .assistant) &&
    startsWith before.content "[post-compaction-recovery]\n"
  decide (before.role ≠ .system) && decide (some before.id ≠ latestUser) &&
    (!before.neverCompress || generatedRecovery)

def recordCalls : List String → List ToolCall → Except IoError (List String)
  | calls, [] => .ok calls
  | calls, call :: rest =>
    if call.id = "" ∨ call.id ∈ calls then
      .error (invalidRetrievalWindowCheckpoint
        "message-summary checkpoint has empty or duplicate tool call identifiers")
    else recordCalls (call.id :: calls) rest

def recordResult (results : List String) (before : Message) : Except IoError (List String) :=
  if before.role = .tool then
    match before.toolCallId.filter (fun id => id ≠ "") with
    | none =>
      .error (invalidRetrievalWindowCheckpoint
        "message-summary checkpoint has an uncorrelated tool result")
    | some id =>
      if id ∈ results then
        .error (invalidRetrievalWindowCheckpoint
          "message-summary checkpoint has duplicate tool results")
      else .ok (id :: results)
  else if before.toolCallId.isSome then
    .error (invalidRetrievalWindowCheckpoint
      "message-summary checkpoint has a tool result identifier outside a tool message")
  else .ok results

def scanActive (eventId : String) (latestUser : Option String) (scan : SummaryScan)
    (before : Message) : Except IoError SummaryScan := do
  let hasCalls := hasToolCalls before.toMessage
  let hasToolProtocol := hasCalls || before.toolCallId.isSome || decide (before.role = .tool)
  let archives := shouldArchive latestUser before
  rejectWhen (hasToolProtocol ∧ (before.neverCompress ∨ ¬ archives))
    "message-summary checkpoint cannot retain active tool protocol"
  rejectWhen (hasCalls ∧ before.role ≠ .assistant)
    "message-summary checkpoint has tool calls outside an assistant message"
  let calls ← recordCalls scan.calls (callsOf before.toMessage)
  let results ← recordResult scan.results before
  if archives then do
    rejectWhen before.compressedByEventId.isSome
      "message-summary checkpoint has a pre-existing active archive correlation"
    let archived := { before with compressed := true, compressedByEventId := some eventId }
    return {
      canonical := scan.canonical ++ [archived], newlyArchived := scan.newlyArchived + 1,
      calls, results }
  else
    return { scan with canonical := scan.canonical ++ [before], calls, results }

def summaryScan (eventId : String) (latestUser : Option String) :
    SummaryScan → List Message → Except IoError SummaryScan
  | scan, [] => .ok scan
  | scan, before :: rest =>
    if before.compressed then
      summaryScan eventId latestUser { scan with canonical := scan.canonical ++ [before] } rest
    else do
      let next ← scanActive eventId latestUser scan before
      summaryScan eventId latestUser next rest

/-- `calls != results` on hash sets. -/
def sameIds (calls results : List String) : Bool :=
  calls.all (· ∈ results) && results.all (· ∈ calls)

/-- What the staged session has to be, apart from the accounting it may set itself. -/
def canonicalSummary (expected staged : Session) (messages : List Message)
    (event : CompressionEvent) : Session :=
  Session.resetModelContextEpoch
    { expected with
      messages, compressionEvents := expected.compressionEvents ++ [event],
      conversationSummary := staged.conversationSummary, tokenUsage := staged.tokenUsage,
      updatedAt := staged.updatedAt, forceManualCompression := none,
      metadata := expected.metadata.erase previousResponseIdKey }

def validateStagedMessageSummaryTransition (codec : Codec) (expected staged : Session) :
    Except IoError Unit := do
  rejectWhen (expected.id ≠ staged.id ∨ expected.messages.length ≠ staged.messages.length)
    "message-summary checkpoint must preserve the Session ID and raw message array"
  match appendedEvent expected staged with
  | none =>
    .error (invalidRetrievalWindowCheckpoint
      "message-summary checkpoint must append exactly one compression event")
  | some event =>
    rejectWhen (event.kind ≠ .messageSummary ∨ event.id = "" ∨
        event.id ∈ expected.compressionEvents.map (·.id))
      "message-summary checkpoint has an invalid archive event"
    let scan ← summaryScan event.id (latestUserId expected.messages) SummaryScan.start
      expected.messages
    rejectWhen (¬ sameIds scan.calls scan.results ∨ scan.newlyArchived = 0 ∨
        event.messagesCompressed ≠ scan.newlyArchived)
      "message-summary checkpoint must archive complete tool chains with an exact event count"
    rejectWhen (staged.conversationSummary.any (fun summary =>
        (trim summary.content).isEmpty || summary.messageCount != scan.newlyArchived ||
          summary.tokenCount != event.summaryTokens))
      "message-summary checkpoint has inconsistent summary metadata"
    rejectWhen (¬ sameJson codec (canonicalSummary expected staged scan.canonical event) staged)
      ("message-summary checkpoint changed raw history, protected anchors, or state outside " ++
        "the compression projection and provider reset")

end Sessions
