import BambooAgent.Library.Checks
import BambooAgent.Sessions.Staged

/- The entry points of the locked store. Each takes the durable session that it loads under
   the session's lock and answers with what it leaves there; an error leaves it alone. -/
namespace Sessions
open SortedMaps Compression

/-- The verdict of the storage on a session that is to be written over the durable one. -/
abbrev Storage := Option Session → Session → Except IoError Unit

def taskControlPlaneConflictPrefix : String :=
  "Task control-plane changed while saving session "

def maxTaskControlPlaneRebaseRetries : Nat := 3

def isTaskControlPlaneSaveConflict (error : IoError) : Bool :=
  decide (error.kind = .wouldBlock) && startsWith error.message taskControlPlaneConflictPrefix

def isDirectParentTerminalConflict (error : IoError) : Bool :=
  decide (error.kind = .wouldBlock) && decide (error.cause = .directParentTerminalConflict)

/-- `save_runtime_snapshot` of a store that no execution has bound. -/
def saveRuntimeSnapshot (storage : Storage) (durable : Option Session) (session : Session) :
    Except IoError Unit := do
  ensureScopedLoopCheckpointKnown session
  storage durable session

/-- The snapshot as the attempts leave it, and how the last of them ended. -/
def saveSessionRebasingTaskConflicts (codec : Codec) (storage : Storage)
    (durable : Option Session) (retries : Nat) (session : Session) :
    Session × Except IoError Unit :=
  match saveRuntimeSnapshot storage durable session with
  | .ok () => (session, .ok ())
  | .error error =>
    if isTaskControlPlaneSaveConflict error then
      match durable with
      | none => (session, .error error)
      | some latest =>
        match ensureConversationGenerationIsCurrent codec session latest with
        | .error stale => (session, .error stale)
        | .ok () =>
          match retries with
          | 0 => (adoptDurableTaskControlPlane session latest, .error error)
          | rest + 1 =>
            saveSessionRebasingTaskConflicts codec storage durable rest
              (adoptDurableTaskControlPlane session latest)
    else (session, .error error)

/-- What the attempts wrote, if one of them came through. -/
def written (outcome : Session × Except IoError Unit) : Except IoError Session :=
  match outcome.2 with
  | .ok () => .ok outcome.1
  | .error error => .error error

def commitMetadata (codec : Codec) (storage : Storage) (durable : Option Session)
    (session : Session) : Except IoError Session := do
  let committed ← match durable with
    | none => .ok session
    | some latest => do
      ensureConversationGenerationIsCurrent codec session latest
      .ok (adoptDurableModelContextState session latest)
  written (saveSessionRebasingTaskConflicts codec storage durable
    maxTaskControlPlaneRebaseRetries committed)

/- Runtime saves. -/

/-- What the copy takes before its metadata: the parent's handoff, the supervised outcomes,
    the child waits and the answered question. -/
def prepareRuntime (codec : Codec) (finalizeChildWait : Bool) (session latest : Session) :
    Except IoError Session := do
  let handed ← adoptDurableActorParentQuestionHandoff codec session latest
  let supervised ← adoptDurableSupervisedOutcomes codec handed latest
  let finalized :=
    if finalizeChildWait then
      preserveResumesOf latest (adoptFinalizedChildWait codec supervised latest)
    else supervised
  let tagged := preserveResumesOf latest (adoptDurableTaggedChildWait finalized latest)
  return adoptDurableConsumedClarification codec tagged latest

/-- The authoritative metadata, and what no stale copy may take away. -/
def settleRuntime (codec : Codec) (clock : Clock) (adoptBypass : Bool)
    (answered latest : Session) : Session :=
  let merged := applyAuthoritativeMetadata answered latest
  let restored := restoreMissingAdmittedInboxMessages merged latest
  let admitted := mergeSessionInboxAdmission restored latest
  let postured :=
    if adoptBypass then adoptFresherDiskPermissionPosture codec.rfc3339 clock admitted latest
    else admitted
  adoptFresherDurableModelContextState postured latest

def mergeRuntime (codec : Codec) (clock : Clock) (adoptBypass finalizeChildWait : Bool)
    (session latest : Session) : Except IoError Session := do
  ensureSessionExecutionCompatible latest
  ensureConversationGenerationIsCurrent codec session latest
  let answered ← prepareRuntime codec finalizeChildWait session latest
  return settleRuntime codec clock adoptBypass answered latest

/-- `merge_save_runtime_inner_and_publish` of a store that no execution has bound. -/
def mergeSaveRuntimeInner (codec : Codec) (clock : Clock) (storage : Storage)
    (adoptBypass finalizeChildWait : Bool) (durable : Option Session) (session : Session) :
    Except IoError Session := do
  ensureSessionExecutionCompatible session
  ensureScopedLoopCheckpointKnown session
  let candidate ← match durable with
    | none => .ok session
    | some latest => mergeRuntime codec clock adoptBypass finalizeChildWait session latest
  written (saveSessionRebasingTaskConflicts codec storage durable
    maxTaskControlPlaneRebaseRetries candidate)

def mergeSaveRuntime (codec : Codec) (clock : Clock) (storage : Storage)
    (durable : Option Session) (session : Session) : Except IoError Session :=
  mergeSaveRuntimeInner codec clock storage true false durable session

def mergeSaveFinalizedRuntime (codec : Codec) (clock : Clock) (storage : Storage)
    (durable : Option Session) (session : Session) : Except IoError Session :=
  mergeSaveRuntimeInner codec clock storage true true durable session

def saveRuntimeAuthoritativeFlags (codec : Codec) (clock : Clock) (storage : Storage)
    (durable : Option Session) (session : Session) : Except IoError Session :=
  mergeSaveRuntimeInner codec clock storage false false durable session

/- Runtime checkpoints. -/

def reconcileRuntimeCheckpoint (codec : Codec) (clock : Clock) (session latest : Session) :
    Except IoError Session := do
  ensureModelContextCheckpointIsCurrent codec session latest
  let supervised ← adoptDurableSupervisedOutcomes codec session latest
  let appended := appendMissingRuntimeMessages codec supervised latest
  let admitted := mergeSessionInboxAdmission appended latest
  let answered := adoptDurableConsumedClarification codec admitted latest
  let merged := applyAuthoritativeMetadata answered latest
  let postured := adoptFresherDiskPermissionPosture codec.rfc3339 clock merged latest
  return (adoptDurableTaggedChildWait postured latest).1

/-- An inbox claim that a checkpoint admits: which messages match its envelope, and the
    prompt that the envelope carries. -/
structure RootInput where
  isMatchingSessionMessage : Message → Bool
  rootChatPrompt : Except String (Option String)

def inputPrompt (input : Option RootInput) (durable : Option Session) :
    Except IoError (Option String) :=
  match input with
  | none => .ok none
  | some input =>
    if durable.any (fun latest => latest.messages.any input.isMatchingSessionMessage) then
      .ok none
    else
      match input.rootChatPrompt with
      | .ok prompt => .ok prompt
      | .error message => .error { kind := .other, cause := .none, message }

/-- The identifier and the time of the system message that an attempt makes. -/
structure Draw where
  id : String
  createdAt : Nat

def systemMessage (draw : Draw) (prompt : String) : Message :=
  { Compression.Message.system draw.id prompt with
    createdAt := draw.createdAt, metadata := none }

/-- The prompt takes the place of the system messages. -/
def placePrompt (prompt : Option String) (draw : Draw) (session : Session) : Session :=
  match prompt with
  | none => session
  | some text =>
    { session with
      messages := systemMessage draw text ::
        session.messages.filter (fun message => message.role ≠ .system) }

/-- The save, and the reconciliation with the durable session after each conflict with a
    parent's terminal. -/
def checkpointAttempts (codec : Codec) (clock : Clock) (storage : Storage)
    (draws : Nat → Draw) (prompt : Option String) (durable : Option Session) (retries : Nat)
    (session : Session) : Except IoError Session :=
  let outcome := saveSessionRebasingTaskConflicts codec storage durable
    maxTaskControlPlaneRebaseRetries (placePrompt prompt (draws retries) session)
  match outcome.2 with
  | .ok () => .ok outcome.1
  | .error error =>
    match retries, durable with
    | rest + 1, some latest =>
      if isDirectParentTerminalConflict error then do
        let reconciled ← reconcileRuntimeCheckpoint codec clock outcome.1 latest
        checkpointAttempts codec clock storage draws prompt durable rest reconciled
      else .error error
    | _, _ => .error error

def checkpointRuntimeSessionWithInput (codec : Codec) (clock : Clock) (storage : Storage)
    (draws : Nat → Draw) (input : Option RootInput) (durable : Option Session)
    (session : Session) : Except IoError Session := do
  ensureScopedLoopCheckpointKnown session
  let prompt ← inputPrompt input durable
  let candidate ← match durable with
    | none => .ok session
    | some latest => reconcileRuntimeCheckpoint codec clock session latest
  checkpointAttempts codec clock storage draws prompt durable maxTaskControlPlaneRebaseRetries
    candidate

/- Rules: what every adjustment between the attempts keeps holds of what is written. -/

theorem rebasing_rule {P : Session → Prop} {codec : Codec} {storage : Storage}
    {durable : Option Session}
    (task : ∀ latest, durable = some latest → ∀ s, P s →
      P (adoptDurableTaskControlPlane s latest))
    (retries : Nat) {session : Session} (start : P session) :
    P (saveSessionRebasingTaskConflicts codec storage durable retries session).1 := by
  fun_induction saveSessionRebasingTaskConflicts codec storage durable retries session with
  | case1 => exact start
  | case2 => exact start
  | case3 => exact start
  | case4 session _ _ _ latest present => exact task latest present session start
  | case5 session _ _ _ latest present _ _ ih =>
    rw [← present]
    exact ih (task latest present session start)
  | case6 => exact start

theorem written_eq_ok (run : written outcome = .ok saved) : saved = outcome.1 := by
  unfold written at run
  split at run
  · exact (Except.ok.inj run).symm
  · cases run

variable {P : Session → Prop}

theorem written_rule
    (task : ∀ latest, durable = some latest → ∀ s, P s → P (adoptDurableTaskControlPlane s latest))
    (start : P session)
    (run : written (saveSessionRebasingTaskConflicts codec storage durable retries session) =
      .ok saved) : P saved := by
  rw [written_eq_ok run]
  exact rebasing_rule task retries start

theorem attempts_rule
    (task : ∀ latest, durable = some latest → ∀ s, P s → P (adoptDurableTaskControlPlane s latest))
    (place : ∀ n s, P s → P (placePrompt prompt (draws n) s))
    (reconcile : ∀ latest, durable = some latest → ∀ s next, P s →
      reconcileRuntimeCheckpoint codec clock s latest = .ok next → P next) :
    ∀ (retries : Nat) {session saved : Session}, P session →
      checkpointAttempts codec clock storage draws prompt durable retries session = .ok saved →
        P saved := by
  intro retries
  induction retries with
  | zero =>
    intro session saved start run
    have left := @rebasing_rule P codec storage durable task
      maxTaskControlPlaneRebaseRetries _ (place 0 session start)
    unfold checkpointAttempts at run
    dsimp only at run
    split at run
    · cases run
      exact left
    · cases run
  | succ rest ih =>
    intro session saved start run
    have left := @rebasing_rule P codec storage durable task
      maxTaskControlPlaneRebaseRetries _ (place (rest + 1) session start)
    unfold checkpointAttempts at run
    dsimp only at run
    split at run
    · cases run
      exact left
    · cases durable with
      | none => cases run
      | some latest =>
        dsimp only at run
        split at run
        · obtain ⟨reconciled, step, run⟩ := Checks.bind_eq_ok.1 run
          exact ih (reconcile latest rfl _ _ left step) run
        · cases run

theorem mergeRuntime_eq_ok
    (run : mergeRuntime codec clock adoptBypass finalizeChildWait session latest = .ok candidate) :
    ∃ answered, prepareRuntime codec finalizeChildWait session latest = .ok answered ∧
      settleRuntime codec clock adoptBypass answered latest = candidate := by
  obtain ⟨_, _, run⟩ := Checks.bind_eq_ok.1 run
  obtain ⟨_, _, run⟩ := Checks.bind_eq_ok.1 run
  obtain ⟨answered, prepared, run⟩ := Checks.bind_eq_ok.1 run
  exact ⟨answered, prepared, Checks.pure_eq_ok.1 run⟩

theorem saveRuntime_rule (task : ∀ s, P s → P (adoptDurableTaskControlPlane s latest))
    (start : ∀ candidate,
      mergeRuntime codec clock adoptBypass finalizeChildWait session latest = .ok candidate →
        P candidate)
    (run : mergeSaveRuntimeInner codec clock storage adoptBypass finalizeChildWait (some latest)
      session = .ok saved) : P saved := by
  obtain ⟨_, _, run⟩ := Checks.bind_eq_ok.1 run
  obtain ⟨_, _, run⟩ := Checks.bind_eq_ok.1 run
  obtain ⟨candidate, merged, run⟩ := Checks.bind_eq_ok.1 run
  refine written_rule (fun other same => ?_) (start candidate merged) run
  cases same
  exact task

theorem checkpoint_rule (task : ∀ s, P s → P (adoptDurableTaskControlPlane s latest))
    (place : ∀ prompt, inputPrompt input (some latest) = .ok prompt →
      ∀ n s, P s → P (placePrompt prompt (draws n) s))
    (again : ∀ s next, P s → reconcileRuntimeCheckpoint codec clock s latest = .ok next → P next)
    (start : ∀ candidate,
      reconcileRuntimeCheckpoint codec clock session latest = .ok candidate → P candidate)
    (run : checkpointRuntimeSessionWithInput codec clock storage draws input (some latest)
      session = .ok saved) : P saved := by
  obtain ⟨_, _, run⟩ := Checks.bind_eq_ok.1 run
  obtain ⟨prompt, asked, run⟩ := Checks.bind_eq_ok.1 run
  obtain ⟨candidate, merged, run⟩ := Checks.bind_eq_ok.1 run
  refine attempts_rule (fun other same => ?_) (place prompt asked) (fun other same => ?_)
    maxTaskControlPlaneRebaseRetries (start candidate merged) run
  · cases same
    exact task
  · cases same
    exact again

theorem prepareRuntime_rule {Q : Session → Prop}
    (handoff : ∀ next,
      adoptDurableActorParentQuestionHandoff codec session latest = .ok next → P next)
    (outcomes : ∀ s next, P s → adoptDurableSupervisedOutcomes codec s latest = .ok next → P next)
    (finalized : ∀ s, P s → P (preserveResumesOf latest (adoptFinalizedChildWait codec s latest)))
    (tagged : ∀ s, P s → P (preserveResumesOf latest (adoptDurableTaggedChildWait s latest)))
    (consumed : ∀ s, P s → Q (adoptDurableConsumedClarification codec s latest))
    (run : prepareRuntime codec finalizeChildWait session latest = .ok answered) : Q answered := by
  obtain ⟨handed, taken, run⟩ := Checks.bind_eq_ok.1 run
  obtain ⟨supervised, adopted, run⟩ := Checks.bind_eq_ok.1 run
  have before : P supervised := outcomes handed supervised (handoff handed taken) adopted
  rw [← Checks.pure_eq_ok.1 run]
  refine consumed _ (tagged _ ?_)
  cases finalizeChildWait with
  | true => exact finalized supervised before
  | false => exact before

/- Retrieval-window checkpoints. -/

/-- An OCR cache may be newer than the durable one; nothing else may differ. -/
def messageMatchesRetrievalWindowBase (expected durable : Message) : Bool :=
  if durable.imageOcr.isSome ∧ durable.imageOcr ≠ expected.imageOcr then false
  else decide ({ expected with imageOcr := none } = { durable with imageOcr := none })

def retrievalWindowBaseMatches (codec : Codec) (expected durable : Session) : Bool :=
  if expected.id ≠ durable.id ∨ expected.messages.length < durable.messages.length then false
  else if ¬ (List.zipWith messageMatchesRetrievalWindowBase expected.messages
      durable.messages).all (fun same => same) then false
  else if expected.compressionEvents.length < durable.compressionEvents.length then false
  else if durable.compressionEvents.map codec.eventJson ≠
      (expected.compressionEvents.take durable.compressionEvents.length).map codec.eventJson then
    false
  else if expected.conversationSummary.map codec.summaryJson ≠
      durable.conversationSummary.map codec.summaryJson then false
  else if expected.metadata ≠ durable.metadata ∨
      expected.runtimeMetadata ≠ durable.runtimeMetadata ∨
      expected.metadataVersion ≠ durable.metadataVersion ∨ expected.model ≠ durable.model ∨
      expected.modelRef ≠ durable.modelRef ∨
      expected.reasoningEffort ≠ durable.reasoningEffort then false
  else
    match ensureModelContextCheckpointIsCurrent codec expected durable with
    | .ok () => true
    | .error _ => false

def rebaseRetrievalWindowBase (codec : Codec) (expected durable : Session) : Session :=
  let rebased := appendMissingRuntimeMessages codec expected durable
  let adopted :=
    { rebased with
      metadata := durable.metadata, runtimeMetadata := durable.runtimeMetadata,
      model := durable.model, modelRef := durable.modelRef,
      reasoningEffort := durable.reasoningEffort }
  let admitted := mergeSessionInboxAdmission adopted durable
  { admitted with
    conversationSummary := durable.conversationSummary,
    compressionEvents := durable.compressionEvents, tokenUsage := durable.tokenUsage,
    modelContextState := durable.modelContextState,
    updatedAt := max admitted.updatedAt durable.updatedAt }

inductive WindowOutcome where
  | committed (saved : Session)
  | rebased (session : Session)

def mergeWindow (codec : Codec) (clock : Clock) (staged latest : Session) :
    Except IoError Session := do
  ensureModelContextCheckpointIsCurrent codec staged latest
  let admitted := mergeSessionInboxAdmission staged latest
  let merged := applyAuthoritativeMetadata admitted latest
  return adoptFresherDiskPermissionPosture codec.rfc3339 clock merged latest

def validateStaged (codec : Codec) (expectedBase staged : Session) : Except IoError Unit :=
  if staged.compressionEvents.getLast?.any (fun event => decide (event.kind = .messageSummary))
  then validateStagedMessageSummaryTransition codec expectedBase staged
  else validateStagedRetrievalWindowTransition codec expectedBase staged

def commitWindow (codec : Codec) (storage : Storage) (durable : Option Session)
    (candidate : Session) : Except IoError WindowOutcome := do
  let saved ← written (saveSessionRebasingTaskConflicts codec storage durable
    maxTaskControlPlaneRebaseRetries candidate)
  return .committed saved

def checkpointRetrievalWindow (codec : Codec) (clock : Clock) (storage : Storage)
    (durable : Option Session) (expectedBase staged : Session) :
    Except IoError WindowOutcome := do
  validateStaged codec expectedBase staged
  match durable with
  | none => commitWindow codec storage durable staged
  | some latest => do
    ensureConversationGenerationIsCurrent codec expectedBase latest
    ensureConversationGenerationIsCurrent codec staged latest
    if retrievalWindowBaseMatches codec expectedBase latest then do
      let candidate ← mergeWindow codec clock staged latest
      commitWindow codec storage durable candidate
    else
      let rebased := applyAuthoritativeMetadata
        (rebaseRetrievalWindowBase codec expectedBase latest) latest
      return .rebased (adoptFresherDiskPermissionPosture codec.rfc3339 clock rebased latest)

end Sessions
