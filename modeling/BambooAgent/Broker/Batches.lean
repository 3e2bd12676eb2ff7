import BambooAgent.Broker.Messages
import BambooAgent.Library.Json

/- The batches that the events of a Run are sent in. -/
namespace Brokers
open JsonValues List

inductive ActorEventQos where
  | durable | snapshot | ephemeral
  deriving DecidableEq

mutual
def classify : Json → ActorEventQos
  | .object fields =>
    match (fields.lookup "type").bind Json.asString with
    | some type =>
      if type ∈ ["token", "reasoning_token", "tool_token", "sub_agent_heartbeat"] then .ephemeral
      else if type = "sub_agent_event" then (classifyInner fields).getD .durable
      else if type ∈ ["runner_progress", "token_budget_updated", "context_pressure_notification"]
      then .snapshot
      else .durable
    | none => .durable
  | _ => .durable
/-- The class of the field `event`. -/
def classifyInner : List (String × Json) → Option ActorEventQos
  | [] => none
  | (key, value) :: rest => if key = "event" then some (classify value) else classifyInner rest
end

def maxActorEventBatchEvents : Nat := 64

def maxSeq : Nat := 2 ^ 64 - 1

structure ActorEventBatch where
  logicalSession : Option LogicalSessionIdentity
  activationId : Option String
  executionEpoch : Nat
  sourceNodeId : Option String
  sourceActorId : Option String
  firstSeq : Nat
  lastSeq : Nat
  qos : ActorEventQos
  events : List Json

def ActorEventBatch.validate (batch : ActorEventBatch) : Except String Unit :=
  if batch.events.isEmpty then .error "actor event batch is empty"
  else if maxActorEventBatchEvents < batch.events.length then
    .error s!"actor event batch has {batch.events.length} events; maximum is {maxActorEventBatchEvents}"
  else if maxSeq < batch.firstSeq + (batch.events.length - 1) then
    .error "actor event batch sequence range overflows"
  else if batch.firstSeq = 0 ∨ batch.lastSeq ≠ batch.firstSeq + (batch.events.length - 1) then
    .error "actor event batch has an invalid sequence range"
  else if batch.qos ≠ .durable ∧ batch.events.any (fun event => classify event ≠ batch.qos) then
    .error "actor event batch QoS does not match its events"
  else .ok ()

structure ActorEventWatermark where
  version : Nat
  logicalSession : Option LogicalSessionIdentity
  activationId : Option String
  executionEpoch : Nat
  finalSeq : Nat

structure PendingActorEventBatch where
  firstSeq : Nat
  qos : ActorEventQos
  events : List Json

structure ActorEventBatcher where
  logicalSession : Option LogicalSessionIdentity
  activationId : Option String
  executionEpoch : Nat
  sourceNodeId : Option String
  sourceActorId : Option String
  nextSeq : Nat
  pending : Option PendingActorEventBatch
  durableEvents : Bool

namespace ActorEventBatcher

def forRun (spec : RunSpec) (sourceNodeId sourceActorId : Option String) : ActorEventBatcher where
  logicalSession := spec.logicalSession
  activationId := spec.activationRunId
  executionEpoch := spec.executionEpoch
  sourceNodeId := sourceNodeId
  sourceActorId := sourceActorId
  nextSeq := 1
  pending := none
  durableEvents := false

def withDurableEvents (batcher : ActorEventBatcher) (required : Bool) : ActorEventBatcher :=
  { batcher with durableEvents := required }

def build (batcher : ActorEventBatcher) (firstSeq : Nat) (qos : ActorEventQos)
    (events : List Json) : ActorEventBatch where
  logicalSession := batcher.logicalSession
  activationId := batcher.activationId
  executionEpoch := batcher.executionEpoch
  sourceNodeId := batcher.sourceNodeId
  sourceActorId := batcher.sourceActorId
  firstSeq := firstSeq
  lastSeq := firstSeq + events.length - 1
  qos := if batcher.durableEvents then .durable else qos
  events := events

def flush (batcher : ActorEventBatcher) : ActorEventBatcher × Option ActorEventBatch :=
  ({ batcher with pending := none },
    batcher.pending.map (fun held => batcher.build held.firstSeq held.qos held.events))

/-- The flush at a boundary. -/
def makeRoom (batcher : ActorEventBatcher) (qos : ActorEventQos) :
    ActorEventBatcher × Option ActorEventBatch :=
  if batcher.pending.any (fun held =>
    held.qos ≠ qos || maxActorEventBatchEvents ≤ held.events.length) then batcher.flush
  else (batcher, none)

def join (batcher : ActorEventBatcher) (seq : Nat) (qos : ActorEventQos) (event : Json) :
    ActorEventBatcher × Option ActorEventBatch :=
  let held := batcher.pending.getD ⟨seq, qos, []⟩
  let held := { held with events := held.events ++ [event] }
  let batcher := { batcher with pending := some held }
  if maxActorEventBatchEvents ≤ held.events.length then batcher.flush else (batcher, none)

def push (batcher : ActorEventBatcher) (event : Json) :
    ActorEventBatcher × List ActorEventBatch :=
  let qos := classify event
  let seq := batcher.nextSeq
  let batcher := { batcher with nextSeq := min (seq + 1) maxSeq }
  if qos = .durable then
    let (batcher, ready) := batcher.flush
    (batcher, ready.toList ++ [batcher.build seq qos [event]])
  else
    let (batcher, ready) := batcher.makeRoom qos
    let (batcher, full) := batcher.join seq qos event
    (batcher, ready.toList ++ full.toList)

def finalWatermark (batcher : ActorEventBatcher) : Option ActorEventWatermark :=
  if batcher.durableEvents ∧ batcher.executionEpoch ≠ 0 ∧ batcher.pending.isNone ∧
    batcher.nextSeq < maxSeq then
    some ⟨1, batcher.logicalSession, batcher.activationId, batcher.executionEpoch,
      batcher.nextSeq - 1⟩
  else none

end ActorEventBatcher

inductive BatcherCall where
  | push (event : Json)
  | flush

/-- The batcher and what it has emitted. -/
abbrev Emission := ActorEventBatcher × List ActorEventBatch

def Emission.perform (emission : Emission) : BatcherCall → Emission
  | .push event => ((emission.1.push event).1, emission.2 ++ (emission.1.push event).2)
  | .flush => (emission.1.flush.1, emission.2 ++ emission.1.flush.2.toList)

def pushedBy (calls : List BatcherCall) : List Json :=
  calls.flatMap (fun call => match call with | .push event => [event] | .flush => [])

def ActorEventBatch.numbered (batch : ActorEventBatch) : List (Json × Nat) :=
  batch.events.zipIdx batch.firstSeq

def ActorEventBatcher.held (batcher : ActorEventBatcher) : List (Json × Nat) :=
  (batcher.pending.map (fun held => held.events.zipIdx held.firstSeq)).getD []

/-- Each event goes out once, in order and numbered from 1 on; a durable one at once. -/
structure Faithful (pushed : List Json) (emission : Emission) : Prop where
  lossless : emission.2.flatMap ActorEventBatch.numbered ++ emission.1.held = pushed.zipIdx 1
  valid : ∀ batch ∈ emission.2, batch.validate = .ok ()
  prompt : ∀ entry ∈ emission.1.held, classify entry.1 ≠ .durable
  watermark : ∀ mark, emission.1.finalWatermark = some mark → mark.finalSeq = pushed.length

/-- What is pending ends at the last event pushed. -/
structure Pending (count : Nat) (held : PendingActorEventBatch) : Prop where
  some : held.events ≠ []
  few : held.events.length ≤ maxActorEventBatchEvents
  first : 0 < held.firstSeq
  last : held.firstSeq + held.events.length = count + 1
  classed : ∀ event ∈ held.events, classify event = held.qos
  lossy : held.qos ≠ .durable

structure Sound (pushed : List Json) (batcher : ActorEventBatcher)
    (emitted : List ActorEventBatch) : Prop where
  lossless : emitted.flatMap ActorEventBatch.numbered ++ batcher.held = pushed.zipIdx 1
  valid : ∀ batch ∈ emitted, batch.validate = .ok ()
  pending : ∀ held, batcher.pending = some held → Pending pushed.length held

namespace ActorEventBatcher

theorem valid_build {batcher : ActorEventBatcher} (first : 0 < firstSeq)
    (some : events ≠ []) (few : events.length ≤ maxActorEventBatchEvents)
    (last : firstSeq + events.length ≤ maxSeq + 1)
    (classed : qos ≠ .durable → ∀ event ∈ events, classify event = qos) :
    (batcher.build firstSeq qos events).validate = .ok () := by
  have long : 0 < events.length := length_pos_iff.2 some
  unfold ActorEventBatch.validate build
  dsimp only
  rw [if_neg (by simpa using some), if_neg (not_lt.2 few), if_neg (by omega),
    if_neg (by omega), if_neg]
  rintro ⟨lossy, mixed⟩
  split at lossy
  · exact lossy rfl
  · rename_i plain
    rw [if_neg plain, any_eq_true] at mixed
    obtain ⟨event, member, other⟩ := mixed
    exact of_decide_eq_true other (classed lossy event member)

theorem flush_sound (sound : Sound pushed batcher emitted)
    (below : pushed.length < maxSeq) :
    Sound pushed batcher.flush.1 (emitted ++ batcher.flush.2.toList) := by
  obtain ⟨lossless, valid, pending⟩ := sound
  unfold held at lossless
  refine ⟨?_, fun batch member => ?_, fun _ none => by cases none⟩
  · rw [← lossless, ]
    cases kept : batcher.pending with
    | none => simp [flush, held, kept]
    | some waiting => simp [flush, held, kept, build, ActorEventBatch.numbered]
  · rcases mem_append.1 member with old | new
    · exact valid batch old
    · obtain ⟨waiting, kept, rfl⟩ := Option.map_eq_some_iff.1 (Option.mem_toList.1 new)
      have fine := pending waiting kept
      have last := fine.last
      exact valid_build fine.first fine.some fine.few (by omega) (fun _ => fine.classed)

theorem makeRoom_sound (sound : Sound pushed batcher emitted)
    (below : pushed.length < maxSeq) :
    Sound pushed (batcher.makeRoom qos).1 (emitted ++ (batcher.makeRoom qos).2.toList) := by
  unfold makeRoom
  split
  · exact flush_sound sound below
  · simpa using sound

theorem room_of_makeRoom {batcher : ActorEventBatcher}
    (kept : (batcher.makeRoom qos).1.pending = some waiting) :
    waiting.qos = qos ∧ waiting.events.length < maxActorEventBatchEvents := by
  unfold makeRoom at kept
  split at kept
  · cases kept
  · rename_i fits
    change batcher.pending = some waiting at kept
    simpa [kept] using fits

theorem join_sound (sound : Sound pushed batcher emitted)
    (below : (pushed ++ [event]).length < maxSeq) (lossy : classify event ≠ .durable)
    (room : ∀ held, batcher.pending = some held →
      held.qos = classify event ∧ held.events.length < maxActorEventBatchEvents) :
    Sound (pushed ++ [event]) (batcher.join (pushed.length + 1) (classify event) event).1
      (emitted ++ (batcher.join (pushed.length + 1) (classify event) event).2.toList) := by
  have added : Sound (pushed ++ [event])
      { batcher with
        pending := some
          { batcher.pending.getD ⟨pushed.length + 1, classify event, []⟩ with
            events := (batcher.pending.getD ⟨pushed.length + 1, classify event, []⟩).events ++
              [event] } } emitted := by
    obtain ⟨lossless, valid, pending⟩ := sound
    unfold held at lossless
    refine ⟨?_, valid, ?_⟩
    · rw [zipIdx_append, ← lossless]
      cases kept : batcher.pending with
      | none => simp [held, add_comm]
      | some waiting =>
        have last := (pending waiting kept).last
        have next : waiting.firstSeq + waiting.events.length = 1 + pushed.length := by omega
        simp [held, zipIdx_append, next]
    · rintro _ ⟨⟩
      cases kept : batcher.pending with
      | none => exact ⟨by simp, by simp [maxActorEventBatchEvents], by simp, by simp, by simp, lossy⟩
      | some waiting =>
        obtain ⟨-, -, first, last, classed, -⟩ := pending waiting kept
        obtain ⟨same, short⟩ := room waiting kept
        refine ⟨by simp, ?_, first, ?_, fun entry member => ?_, same ▸ lossy⟩
        · simpa using Nat.succ_le_of_lt short
        · simp only [Option.getD_some, length_append, length_singleton]
          omega
        · rcases mem_append.1 member with old | new
          · exact classed entry old
          · rw [mem_singleton.1 new]
            exact same.symm
  unfold join
  dsimp only
  split
  · exact flush_sound added below
  · simpa using added

theorem push_sound (sound : Sound pushed batcher emitted)
    (counted : batcher.nextSeq = pushed.length + 1)
    (below : (pushed ++ [event]).length < maxSeq) :
    Sound (pushed ++ [event]) (batcher.push event).1 (emitted ++ (batcher.push event).2) := by
  have small : pushed.length < maxSeq := by
    rw [length_append] at below
    omega
  have same : Sound pushed { batcher with nextSeq := min (batcher.nextSeq + 1) maxSeq } emitted :=
    ⟨sound.lossless, sound.valid, sound.pending⟩
  unfold push
  dsimp only
  rw [counted] at same ⊢
  split
  · obtain ⟨lossless, valid, -⟩ := flush_sound same small
    rw [← append_assoc]
    refine ⟨?_, fun batch member => ?_, fun _ none => by cases none⟩
    · rw [zipIdx_append, ← lossless]
      simp [held, flush, build, ActorEventBatch.numbered, add_comm]
    · rcases mem_append.1 member with old | new
      · exact valid batch old
      · rw [mem_singleton.1 new]
        refine valid_build (by omega) (by simp) (by simp [maxActorEventBatchEvents]) ?_ ?_
        · simp only [length_singleton]
          omega
        · simp
  · rename_i lossy
    rw [← append_assoc]
    exact join_sound (makeRoom_sound same small) below lossy (fun _ kept => room_of_makeRoom kept)

end ActorEventBatcher

/-- A batcher that made every claim so far good. -/
structure Keeping (pushed : List Json) (emission : Emission) : Prop where
  sound : Sound pushed emission.1 emission.2
  counted : emission.1.nextSeq = pushed.length + 1

theorem perform_keeping (keeping : Keeping pushed emission)
    (below : (pushed ++ pushedBy [call]).length < maxSeq) :
    Keeping (pushed ++ pushedBy [call]) (emission.perform call) := by
  obtain ⟨sound, counted⟩ := keeping
  cases call with
  | push event =>
    refine ⟨ActorEventBatcher.push_sound sound counted below, ?_⟩
    have next : (emission.1.push event).1.nextSeq = min (emission.1.nextSeq + 1) maxSeq := by
      unfold ActorEventBatcher.push ActorEventBatcher.makeRoom ActorEventBatcher.join
      dsimp only
      split <;> [rfl; split] <;> split <;> rfl
    change (emission.1.push event).1.nextSeq = (pushed ++ [event]).length + 1
    change (pushed ++ [event]).length < maxSeq at below
    rw [next, counted, length_append] at *
    exact min_eq_left below
  | flush =>
    rw [show pushedBy [.flush] = [] from rfl, append_nil] at below ⊢
    exact ⟨ActorEventBatcher.flush_sound sound below, counted⟩

theorem run_keeping (keeping : Keeping pushed emission)
    (below : (pushed ++ pushedBy calls).length < maxSeq) :
    Keeping (pushed ++ pushedBy calls) (calls.foldl Emission.perform emission) := by
  induction calls generalizing pushed emission with
  | nil => simpa [pushedBy] using keeping
  | cons call rest ih =>
    have split : pushedBy (call :: rest) = pushedBy [call] ++ pushedBy rest := by simp [pushedBy]
    rw [split, ← append_assoc] at below ⊢
    refine ih (perform_keeping keeping ?_) below
    rw [length_append] at below
    omega

end Brokers
