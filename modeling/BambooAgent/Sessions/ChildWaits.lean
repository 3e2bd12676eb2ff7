import BambooAgent.Sessions.Durability

/- The compare and exchange of a session's child waits under its physical writer lock. -/
namespace Sessions
open SortedMaps Compression Checks List

/-- The JSON library, for the legacy copy of the runtime state. -/
structure RuntimeJson where
  parse : String → Option AgentRuntimeState
  serialize : AgentRuntimeState → Except String String

def AgentRuntimeState.new (runId : String) : AgentRuntimeState :=
  { AgentRuntimeState.default with runId }

def runtime (json : RuntimeJson) (session : Session) : AgentRuntimeState :=
  (session.agentRuntimeState.or ((session.metadata.lookup runtimeStateKey).bind json.parse)).getD
    (AgentRuntimeState.new (session.id ++ "-child-wait"))

def writeRuntime (json : RuntimeJson) (session : Session) (state : AgentRuntimeState) :
    Except IoError Session :=
  match json.serialize state with
  | .ok serialized =>
    .ok { session with
      metadata := session.metadata.insert runtimeStateKey serialized,
      agentRuntimeState := some state }
  | .error message => .error { kind := .other, cause := .none, message }

def validateIncarnation (codec : Codec) (expected latest : Session) : Except IoError Unit := do
  ensureConversationGenerationIsCurrent codec expected latest
  if expected.id ≠ latest.id ∨ expected.createdAt ≠ latest.createdAt ∨
      expected.kind ≠ latest.kind ∨ expected.parentSessionId ≠ latest.parentSessionId ∨
      expected.rootSessionId ≠ latest.rootSessionId ∨
      expected.authorityIdentity ≠ latest.authorityIdentity ∨
      expected.spawnDepth ≠ latest.spawnDepth ∨ expected.projectIdMeta ≠ latest.projectIdMeta then
    .error (authorityConflict .wouldBlock "child wait Session incarnation changed")
  else .ok ()

def childWaitKeys : List String := [suspendReasonKey, "guardian.state"]

def isObservation (json : RuntimeJson) (expected updated : Session) : Bool :=
  decide (runtime json expected = runtime json updated) &&
    childWaitKeys.all (fun key => expected.metadata.lookup key == updated.metadata.lookup key) &&
    expected.messages.map (·.id) == updated.messages.map (·.id)

/-- What `updated` changes of a field of `expected`, else the latest. -/
def changed {α : Type} [DecidableEq α] (expected updated latest : α) : α :=
  if updated = expected then latest else updated

def transitionKey (expected updated metadata : Metadata) (key : String) : Metadata :=
  if updated.lookup key = expected.lookup key then metadata else adoptKey updated metadata key

def appendNew (expected messages : List Message) (message : Message) : List Message :=
  if expected.any (fun old => old.id == message.id) ||
      messages.any (fun old => old.id == message.id) then messages
  else messages ++ [message]

def transitionState (latest before desired : AgentRuntimeState) : AgentRuntimeState :=
  { latest with
    waitingForChildren := desired.waitingForChildren,
    status := changed before.status desired.status latest.status,
    suspension := changed before.suspension desired.suspension latest.suspension }

def applyTransition (json : RuntimeJson) (now : Nat) (latest expected updated : Session)
    (runtimeOnly : Bool) : Except IoError Session := do
  let session ← writeRuntime json latest
    (transitionState (runtime json latest) (runtime json expected) (runtime json updated))
  return { session with
    metadata := childWaitKeys.foldl (transitionKey expected.metadata updated.metadata)
      session.metadata,
    updatedAt := now,
    messages := if runtimeOnly then session.messages
      else updated.messages.foldl (appendNew expected.messages) session.messages }

def runtimeSidecarSnapshot (session : Session) : Session :=
  { session with
    messages := [],
    providerTranscript := (Compression.Session.ofMessages []).providerTranscript,
    runtimeMetadata := session.runtimeMetadata.map (fun metadata =>
      { metadata with sessionInboxAdmission := none, supervisedRootOutcomes := none }) }

def overlayRuntimeSidecar (main side : Session) : Session :=
  let admission := main.runtimeMetadata.bind RuntimeMetadata.sessionInboxAdmission
  let outcomes := main.runtimeMetadata.bind RuntimeMetadata.supervisedRootOutcomes
  { side with
    observedRuntimeSessionVersion := some side.sessionVersion,
    sessionVersion := main.sessionVersion,
    messages := main.messages,
    providerTranscript := main.providerTranscript,
    runtimeMetadata :=
      if admission.isSome ∨ outcomes.isSome then
        some { side.runtimeMetadataMut with
          sessionInboxAdmission := admission, supervisedRootOutcomes := outcomes }
      else side.runtimeMetadata.map (fun metadata =>
        { metadata with sessionInboxAdmission := none, supervisedRootOutcomes := none }) }

structure Exchange where
  committed : Bool
  updated : Session
  durable : Session

/-- `compare_exchange_child_wait`, over the durable session as its two files make it. -/
def compareExchangeChildWait (codec : Codec) (json : RuntimeJson) (storage : Storage) (now : Nat)
    (main expected updated : Session) (runtimeOnly : Bool) : Except IoError Exchange := do
  let latest := if runtimeOnly then runtimeSidecarSnapshot main else main
  validateIncarnation codec expected latest
  validateIncarnation codec expected updated
  if (runtime json latest).waitingForChildren ≠ (runtime json expected).waitingForChildren then
    return { committed := false, updated, durable := main }
  else if isObservation json expected updated then
    return { committed := true, updated := latest, durable := main }
  else do
    let committed ← applyTransition json now latest expected updated runtimeOnly
    storage (some main) committed
    return { committed := true, updated := committed,
             durable := if runtimeOnly then overlayRuntimeSidecar main committed else committed }

variable {json : RuntimeJson} {now : Nat} {main expected updated durable : Session}
  {runtimeOnly : Bool}

/-- Three-way: what `updated` changes of `expected`, and all else as the durable session
    had it. -/
structure Exchanged (json : RuntimeJson) (main expected updated durable : Session)
    (runtimeOnly : Bool) : Prop where
  current : (runtime json main).waitingForChildren = (runtime json expected).waitingForChildren
  waits : (runtime json durable).waitingForChildren = (runtime json updated).waitingForChildren
  status : (runtime json durable).status =
    if (runtime json updated).status = (runtime json expected).status then
      (runtime json main).status
    else (runtime json updated).status
  suspension : (runtime json durable).suspension =
    if (runtime json updated).suspension = (runtime json expected).suspension then
      (runtime json main).suspension
    else (runtime json updated).suspension
  rest : ∀ waiting status suspension,
    { runtime json durable with waitingForChildren := waiting, status, suspension } =
      { runtime json main with waitingForChildren := waiting, status, suspension }
  keys : ∀ key ∈ childWaitKeys, durable.metadata.lookup key =
    if updated.metadata.lookup key = expected.metadata.lookup key then main.metadata.lookup key
    else updated.metadata.lookup key
  kept : main.messages <+: durable.messages
  added : runtimeOnly = false → ∀ message ∈ updated.messages,
    message.id ∈ expected.messages.map (·.id) ∨ message.id ∈ durable.messages.map (·.id)

theorem lookup_transitionKey (expected updated metadata : Metadata) (key other : String) :
    (transitionKey expected updated metadata key).lookup other =
      if other = key ∧ updated.lookup key ≠ expected.lookup key then updated.lookup key
      else metadata.lookup other := by
  unfold transitionKey
  by_cases edits : updated.lookup key = expected.lookup key
  · simp [edits]
  · rw [if_neg edits, lookup_adoptKey]
    by_cases same : other = key <;> simp [same, edits]

theorem appendNew_keeps (expected messages news : List Message) :
    messages <+: news.foldl (appendNew expected) messages := by
  induction news generalizing messages with
  | nil => exact prefix_rfl
  | cons first rest step =>
    refine List.IsPrefix.trans ?_ (step (appendNew expected messages first))
    unfold appendNew
    split
    · exact prefix_rfl
    · exact prefix_append ..

theorem appendNew_adds {expected news : List Message} (member : message ∈ news) :
    message.id ∈ expected.map (·.id) ∨ message.id ∈ (news.foldl (appendNew expected) messages).map
      (·.id) := by
  induction news generalizing messages with
  | nil => cases member
  | cons first rest step =>
    rcases mem_cons.1 member with rfl | later
    · have here : message.id ∈ expected.map (·.id) ∨
          message.id ∈ (appendNew expected messages message).map (·.id) := by
        unfold appendNew
        split
        · rename_i held
          simp only [Bool.or_eq_true, any_eq_true, beq_iff_eq] at held
          simpa only [mem_map] using held
        · simp
      refine here.imp_right fun there => ?_
      exact ((appendNew_keeps expected _ rest).map (·.id)).subset there
    · exact step later

theorem applyTransition_ok
    (run : applyTransition json now latest expected updated runtimeOnly = .ok committed) :
    committed.agentRuntimeState = some (transitionState (runtime json latest)
      (runtime json expected) (runtime json updated)) ∧
    (∃ serialized, committed.metadata = childWaitKeys.foldl
      (transitionKey expected.metadata updated.metadata)
      (latest.metadata.insert runtimeStateKey serialized)) ∧
    committed.messages = if runtimeOnly then latest.messages
      else updated.messages.foldl (appendNew expected.messages) latest.messages := by
  unfold applyTransition writeRuntime at run
  obtain ⟨session, wrote, run⟩ := bind_eq_ok.1 run
  cases pure_eq_ok.1 run
  split at wrote
  · cases wrote
    exact ⟨rfl, ⟨_, rfl⟩, rfl⟩
  · cases wrote

theorem transition_exchanged
    (current : (runtime json main).waitingForChildren = (runtime json expected).waitingForChildren)
    (state : durable.agentRuntimeState = some (transitionState (runtime json main)
      (runtime json expected) (runtime json updated)))
    (metadata : ∃ serialized, durable.metadata = childWaitKeys.foldl
      (transitionKey expected.metadata updated.metadata)
      (main.metadata.insert runtimeStateKey serialized))
    (messages : durable.messages = if runtimeOnly then main.messages
      else updated.messages.foldl (appendNew expected.messages) main.messages) :
    Exchanged json main expected updated durable runtimeOnly := by
  have read : runtime json durable = transitionState (runtime json main)
      (runtime json expected) (runtime json updated) := by
    rw [runtime, state]
    rfl
  obtain ⟨serialized, metadata⟩ := metadata
  refine ⟨current, ?_, ?_, ?_, ?_, ?_, ?_, ?_⟩
  · rw [read]
    rfl
  · rw [read]
    rfl
  · rw [read]
    rfl
  · rw [read]
    intros
    rfl
  · intro key member
    rw [metadata]
    rcases mem_pair.1 member with rfl | rfl
    · simp [childWaitKeys, lookup_transitionKey, suspendReasonKey, runtimeStateKey, eq_comm]
    · simp [childWaitKeys, lookup_transitionKey, suspendReasonKey, runtimeStateKey, eq_comm]
  · rw [messages]
    split
    · exact prefix_rfl
    · exact appendNew_keeps ..
  · rintro rfl message member
    rw [messages]
    exact appendNew_adds member

theorem exchange_loses_nothing {codec : Codec} {storage : Storage} {result : Exchange}
    (run : compareExchangeChildWait codec json storage now main expected updated runtimeOnly =
      .ok result) :
    (result.committed = false ∧ result.durable = main) ∨
      result.committed = true ∧
        Exchanged json main expected updated result.durable runtimeOnly := by
  obtain ⟨_, _, run⟩ := bind_eq_ok.mp run
  obtain ⟨_, _, run⟩ := bind_eq_ok.mp run
  have same : runtime json (if runtimeOnly then runtimeSidecarSnapshot main else main) =
      runtime json main := by cases runtimeOnly <;> rfl
  rw [same] at run
  split at run
  · cases pure_eq_ok.mp run
    exact .inl ⟨rfl, rfl⟩
  rename_i current
  have current := not_not.1 current
  split at run
  · rename_i observed
    cases pure_eq_ok.mp run
    simp only [isObservation, Bool.and_eq_true, decide_eq_true_eq, List.all_eq_true,
      beq_iff_eq] at observed
    obtain ⟨⟨states, keys⟩, ids⟩ := observed
    refine .inr ⟨rfl, current, current.trans (by rw [states]), (if_pos ?_).symm,
      (if_pos ?_).symm, fun _ _ _ => rfl, ?_, List.prefix_rfl, ?_⟩
    · rw [states]
    · rw [states]
    · exact fun key member => (if_pos (keys key member).symm).symm
    · exact fun _ message member => .inl (ids ▸ List.mem_map_of_mem member)
  · obtain ⟨committed, transition, run⟩ := bind_eq_ok.mp run
    obtain ⟨_, _, run⟩ := bind_eq_ok.mp run
    cases pure_eq_ok.mp run
    obtain ⟨state, metadata, messages⟩ := applyTransition_ok transition
    cases runtimeOnly with
    | true => exact .inr ⟨rfl, transition_exchanged current state metadata rfl⟩
    | false => exact .inr ⟨rfl, transition_exchanged current state metadata messages⟩

/- A parent that another owner has activated while the coordinator retires its wait. -/

def sampleJson : RuntimeJson := { parse := fun _ => none, serialize := fun state => .ok state.runId }

def sampleWaiting : AgentRuntimeState :=
  { AgentRuntimeState.new "waiting-run" with
    status := .suspended,
    suspension := some ⟨childWaitReason, 0, true, some "ChildCompletion"⟩,
    waitingForChildren := some ⟨["guardian"], "all", 0, none, none⟩ }

def sampleParent : Session :=
  { Session.new "parent" "model" 0 with agentRuntimeState := some sampleWaiting }

def sampleActivated : Session :=
  { sampleParent with
    agentRuntimeState := some
      { sampleWaiting with runId := "new-parent-owner", status := .running, suspension := none } }

def sampleResumed : Session :=
  { sampleParent with
    agentRuntimeState := some
      { sampleWaiting with status := .idle, suspension := none, waitingForChildren := none },
    messages :=
      [{ Compression.Message.user "resume" "Child finished." with createdAt := 1, metadata := none }] }

def sampleExchange : Except IoError Exchange :=
  compareExchangeChildWait sampleCodec sampleJson (fun _ _ => .ok ()) 1 sampleActivated sampleParent
    sampleResumed true

theorem exchange_loses_nothing_sample : ∃ result, sampleExchange = .ok result ∧
    Exchanged sampleJson sampleActivated sampleParent sampleResumed result.durable true := by
  have run : compareExchangeChildWait sampleCodec sampleJson (fun _ _ => .ok ()) 1 sampleActivated
    sampleParent sampleResumed true = .ok _ := rfl
  refine ⟨_, run, ((exchange_loses_nothing run).resolve_left ?_).2⟩
  rintro ⟨impossible, _⟩
  cases impossible

theorem exchange_overrides_activation : ∃ result, sampleExchange = .ok result ∧
    result.committed = true ∧ (runtime sampleJson sampleActivated).status = .running ∧
    (runtime sampleJson result.durable).status = .idle ∧ sampleResumed.messages ≠ [] ∧
    result.durable.messages = [] :=
  ⟨_, rfl, rfl, rfl, rfl, by simp [sampleResumed], rfl⟩

end Sessions
