import BambooAgent.Schedules.Triggers
import BambooAgent.Library.SortedMap

/- The schedule store: an index in memory, the file that it is written to, and the operations
   that edit the index and then write it. -/
namespace Schedules
open SortedMaps

inductive MisFirePolicy where
  | runOnce
  | skip
  | catchUpAll
  | catchUpWindow (maxCatchUpRuns maxLatenessSeconds : Nat)
  deriving DecidableEq

inductive OverlapPolicy where
  | allow
  | skip
  | queueOne
  deriving DecidableEq

structure ScheduleState where
  nextFireAt : Option Instant := none
  lastScheduledAt : Option Instant := none
  lastStartedAt : Option Instant := none
  lastFinishedAt : Option Instant := none
  lastSuccessAt : Option Instant := none
  lastFailureAt : Option Instant := none
  queuedRunCount : Nat := 0
  runningRunCount : Nat := 0
  consecutiveFailures : Nat := 0
  totalRunCount : Nat := 0
  totalSuccessCount : Nat := 0
  totalFailureCount : Nat := 0
  totalMissedCount : Nat := 0
  deriving DecidableEq

/-- The project, and what else a run is configured with. -/
structure ScheduleRunConfig where
  projectId : Option String
  rest : String
  deriving DecidableEq

structure ScheduleEntry where
  id : String
  name : String
  enabled : Bool
  trigger : ScheduleTrigger
  timezone : Option String
  startAt : Option Instant
  endAt : Option Instant
  misfirePolicy : MisFirePolicy
  overlapPolicy : OverlapPolicy
  createdAt : Instant
  updatedAt : Instant
  state : ScheduleState
  runConfig : ScheduleRunConfig
  deriving DecidableEq

inductive ScheduleRunStatus where
  | queued | running | success | failed | skipped | missed | cancelled
  deriving DecidableEq

def ScheduleRunStatus.isTerminal : ScheduleRunStatus → Bool
  | .success | .failed | .skipped | .missed | .cancelled => true
  | .queued | .running => false

structure ScheduleRunRecord where
  runId : String
  scheduleId : String
  scheduledFor : Instant
  claimedAt : Instant
  startedAt : Option Instant
  completedAt : Option Instant
  status : ScheduleRunStatus
  outcomeReason : Option String
  sessionId : Option String
  workflowRunId : Option String
  dispatchLagMs : Option Nat
  executionDurationMs : Option Nat
  wasCatchUp : Bool

structure SchedulesIndex where
  version : Nat
  updatedAt : Instant
  schedules : SortedMap String ScheduleEntry
  runRecords : SortedMap String ScheduleRunRecord

def SchedulesIndex.empty (now : Instant) : SchedulesIndex :=
  { version := 4, updatedAt := now, schedules := .empty, runRecords := .empty }

def u32Max : Nat := 2 ^ 32 - 1

def u64Max : Nat := 2 ^ 64 - 1

def saturatingAdd (bound a b : Nat) : Nat := min bound (a + b)

/- The file. -/

/-- An entry as the file has it: the fields of older versions beside those of this one. -/
structure ScheduleEntryCompat where
  id : String
  name : String
  enabled : Bool
  intervalSeconds : Option Nat
  trigger : Option ScheduleTrigger
  timezone : Option String
  startAt : Option Instant
  endAt : Option Instant
  misfirePolicy : MisFirePolicy
  overlapPolicy : OverlapPolicy
  createdAt : Instant
  updatedAt : Instant
  state : Option ScheduleState
  lastRunAt : Option Instant
  nextRunAt : Option Instant
  queuedRunCount : Nat
  runningRunCount : Nat
  runConfig : ScheduleRunConfig

def ScheduleEntry.toCompat (entry : ScheduleEntry) : ScheduleEntryCompat where
  id := entry.id
  name := entry.name
  enabled := entry.enabled
  intervalSeconds := none
  trigger := some entry.trigger
  timezone := entry.timezone
  startAt := entry.startAt
  endAt := entry.endAt
  misfirePolicy := entry.misfirePolicy
  overlapPolicy := entry.overlapPolicy
  createdAt := entry.createdAt
  updatedAt := entry.updatedAt
  state := some entry.state
  lastRunAt := none
  nextRunAt := none
  queuedRunCount := 0
  runningRunCount := 0
  runConfig := entry.runConfig

def deriveLegacyAnchorAt (raw : ScheduleEntryCompat) (everySeconds : Nat) : Option Instant :=
  match raw.trigger with
  | some (.interval _ (some anchor)) => some anchor
  | _ =>
    ((raw.state.bind ScheduleState.lastScheduledAt).or raw.lastRunAt).or
      (((raw.state.bind ScheduleState.nextFireAt).or raw.nextRunAt).map
        (fun next => next - everySeconds * second))

def ScheduleEntryCompat.storedTrigger (raw : ScheduleEntryCompat) : Option ScheduleTrigger :=
  match raw.trigger with
  | some (.interval everySeconds anchorAt) =>
    let everySeconds := raw.intervalSeconds.getD everySeconds
    some (.interval everySeconds
      ((anchorAt.or (deriveLegacyAnchorAt raw everySeconds)).or (some raw.createdAt)))
  | some other => some other
  | none => raw.intervalSeconds.map (fun everySeconds =>
    .interval everySeconds ((deriveLegacyAnchorAt raw everySeconds).or (some raw.createdAt)))

def ScheduleEntryCompat.storedState (raw : ScheduleEntryCompat) : ScheduleState :=
  let state := raw.state.getD
    { nextFireAt := raw.nextRunAt, lastScheduledAt := raw.lastRunAt,
      queuedRunCount := raw.queuedRunCount, runningRunCount := raw.runningRunCount }
  { state with
    nextFireAt := state.nextFireAt.or raw.nextRunAt
    lastScheduledAt := state.lastScheduledAt.or raw.lastRunAt }

def ScheduleEntry.fromCompat (raw : ScheduleEntryCompat) : Except String ScheduleEntry :=
  match raw.storedTrigger with
  | some trigger => .ok
    { id := raw.id, name := raw.name, enabled := raw.enabled, trigger := trigger,
      timezone := raw.timezone, startAt := raw.startAt, endAt := raw.endAt,
      misfirePolicy := raw.misfirePolicy, overlapPolicy := raw.overlapPolicy,
      createdAt := raw.createdAt, updatedAt := raw.updatedAt, state := raw.storedState,
      runConfig := raw.runConfig }
  | none => .error s!"schedule entry {raw.id} missing trigger definition"

/-- What a written entry reads as. -/
def ScheduleEntry.reread (entry : ScheduleEntry) : ScheduleEntry :=
  match ScheduleEntry.fromCompat entry.toCompat with
  | .ok read => read
  | .error _ => entry

/- Loading. -/

def normalizeOptionalString (value : Option String) : Option String :=
  (value.map Compression.trim).filter (fun value => !value.isEmpty)

def intervalSecondsFromTrigger : ScheduleTrigger → Option Nat
  | .interval everySeconds _ => some everySeconds
  | _ => none

def ScheduleEntry.derivedAnchorAt (entry : ScheduleEntry) : Option Instant :=
  match entry.trigger with
  | .interval _ (some anchor) => some anchor
  | .interval everySeconds none =>
    (entry.state.lastScheduledAt.or
      (entry.state.nextFireAt.map (fun next => next - everySeconds * second))).or
      (some entry.createdAt)
  | _ => none

/-- An interval gets its anchor, and is never zero. -/
def normalizeLoadedTrigger (entry : ScheduleEntry) : ScheduleTrigger :=
  match entry.trigger with
  | .interval everySeconds anchorAt =>
    .interval (if everySeconds = 0 then 1 else everySeconds) (anchorAt.or entry.derivedAnchorAt)
  | other => other

/-- No next fire is the end of a one-shot trigger, and missing data for any other. -/
def normalizeLoadedNext (entry : ScheduleEntry) : Option Instant :=
  match entry.trigger with
  | .once _ => entry.state.nextFireAt
  | _ => entry.state.nextFireAt.or (some entry.createdAt)

def normalizeLoadedScheduleEntry (entry : ScheduleEntry) : ScheduleEntry :=
  { entry with
    timezone := normalizeOptionalString entry.timezone
    trigger := normalizeLoadedTrigger entry
    state := { entry.state with nextFireAt := normalizeLoadedNext entry } }

/-- The index as it is kept, and whether the file is behind it. -/
def normalizeLoadedIndex (now : Instant) (index : SchedulesIndex) : SchedulesIndex × Bool :=
  let schedules := index.schedules.mapValues normalizeLoadedScheduleEntry
  let changed := index.version < 4 || schedules ≠ index.schedules
  ({ index with
      version := max index.version 4
      schedules := schedules
      updatedAt := if changed then now else index.updatedAt }, changed)

/-- The index, the file that was last written, and how many identifiers have been made. -/
structure ScheduleStore where
  index : SchedulesIndex
  file : SchedulesIndex
  minted : Nat

def openStore (now : Instant) (read : SchedulesIndex) (minted : Nat) : ScheduleStore :=
  let (index, changed) := normalizeLoadedIndex now read
  { index := index, file := if changed then index else read, minted := minted }

def SchedulesIndex.reread (index : SchedulesIndex) : SchedulesIndex :=
  { index with schedules := index.schedules.mapValues ScheduleEntry.reread }

def ScheduleStore.reload (now : Instant) (store : ScheduleStore) : ScheduleStore :=
  openStore now store.file.reread store.minted

/- Runs that are due. -/

def currentDueAt (entry : ScheduleEntry) : Option Instant :=
  entry.state.nextFireAt.bind (fun due =>
    let due := if entry.startAt.any (fun start => due < start) then entry.startAt.getD due else due
    if entry.endAt.any (fun end_ => end_ < due) then none else some due)

def overlapBlocksDispatch (entry : ScheduleEntry) : Bool :=
  match entry.overlapPolicy with
  | .allow => false
  | .skip => 0 < entry.state.runningRunCount
  | .queueOne => 0 < entry.state.queuedRunCount

def applyOverlapDispatchLimit (entry : ScheduleEntry) (dispatchCount : Nat) : Nat :=
  match entry.overlapPolicy with
  | .allow | .skip => dispatchCount
  | .queueOne => min dispatchCount 1

/-- How often an interval has passed, as a 32-bit count; a calendar trigger is late once. -/
def catchUpRuns (entry : ScheduleEntry) (latenessSeconds : Nat) : Nat :=
  match (intervalSecondsFromTrigger entry.trigger).getD 0 with
  | 0 => 1
  | interval => saturatingAdd u64Max (latenessSeconds / interval) 1 % 2 ^ 32

def computeMisfireDispatchCount (entry : ScheduleEntry) (now : Instant) : Nat :=
  match entry.state.nextFireAt with
  | none => 0
  | some nextFireAt =>
    let latenessSeconds := (max (numSeconds (now - nextFireAt)) 0).toNat
    match entry.misfirePolicy with
    | .runOnce => 1
    | .skip => 0
    | .catchUpAll => catchUpRuns entry latenessSeconds
    | .catchUpWindow maxCatchUpRuns maxLatenessSeconds =>
      if maxLatenessSeconds < latenessSeconds then 0
      else
        match (intervalSecondsFromTrigger entry.trigger).getD 0 with
        | 0 => 1
        | _ => min (catchUpRuns entry latenessSeconds) (max maxCatchUpRuns 1)

def runtimeTrigger (entry : ScheduleEntry) : ScheduleTrigger :=
  match entry.trigger with
  | .interval everySeconds _ => .interval everySeconds none
  | other => other

def runtimeTimezone (timezone : Option String) : ScheduleTrigger → Option String
  | .interval _ _ | .once _ => none
  | _ => timezone

def ScheduleEntry.window (entry : ScheduleEntry) : ScheduleWindow :=
  { startAt := entry.startAt, endAt := entry.endAt }

def computeNextRunAtWithEngine (engine : TriggerEngine) (entry : ScheduleEntry) (now : Instant) :
    Except TriggerComputationError (Option Instant) :=
  let trigger := runtimeTrigger entry
  engine trigger (runtimeTimezone entry.timezone trigger) now entry.window

/-- The entry moves on to its next fire, ends, or falls back to a fixed delay. -/
def advance (engine : TriggerEngine) (now : Instant) (entry : ScheduleEntry) : ScheduleEntry :=
  match computeNextRunAtWithEngine engine entry now with
  | .ok (some nextFireAt) =>
    { entry with state := { entry.state with nextFireAt := some nextFireAt } }
  | .ok none =>
    { entry with enabled := false, state := { entry.state with nextFireAt := none } }
  | .error _ =>
    let fallback := (intervalSecondsFromTrigger entry.trigger).getD 60
    { entry with state := { entry.state with nextFireAt := some (now + fallback * second) } }

def recordMissedOccurrence (state : ScheduleState) : ScheduleState :=
  { state with totalMissedCount := saturatingAdd u64Max state.totalMissedCount 1 }

def nonNegativeDurationMs (start end_ : Instant) : Nat :=
  (max ((end_ - start).tdiv 1000000) 0).toNat

def makeQueuedRunRecord (runId scheduleId : String) (scheduledFor claimedAt : Instant)
    (wasCatchUp : Bool) : ScheduleRunRecord where
  runId := runId
  scheduleId := scheduleId
  scheduledFor := scheduledFor
  claimedAt := claimedAt
  startedAt := none
  completedAt := none
  status := .queued
  outcomeReason := none
  sessionId := none
  workflowRunId := none
  dispatchLagMs := none
  executionDurationMs := none
  wasCatchUp := wasCatchUp

def makeFallbackRunRecord (runId scheduleId : String) (now : Instant)
    (status : ScheduleRunStatus) : ScheduleRunRecord :=
  { makeQueuedRunRecord runId scheduleId now now false with
    startedAt := if status = .running then some now else none
    completedAt := if status.isTerminal then some now else none
    status := status }

def scheduledForDispatch (entry : ScheduleEntry) (dueAt : Instant) (dispatchIndex : Nat) :
    Instant :=
  match intervalSecondsFromTrigger entry.trigger with
  | some interval => dueAt + interval * dispatchIndex * second
  | none => dueAt

def updateRunRecordStarted (startedAt : Instant) (record : ScheduleRunRecord) :
    ScheduleRunRecord :=
  { record with
    status := .running
    startedAt := some startedAt
    dispatchLagMs := some (nonNegativeDurationMs record.scheduledFor startedAt) }

def updateRunRecordTerminal (status : ScheduleRunStatus) (completedAt : Instant)
    (outcomeReason : Option String) (record : ScheduleRunRecord) : ScheduleRunRecord :=
  { record with
    status := status
    completedAt := some completedAt
    dispatchLagMs := record.dispatchLagMs.or
      (some (nonNegativeDurationMs record.scheduledFor completedAt))
    executionDurationMs :=
      (record.startedAt.map (fun startedAt => nonNegativeDurationMs startedAt completedAt)).or
        record.executionDurationMs
    outcomeReason := (normalizeOptionalString outcomeReason).or record.outcomeReason }

def maxTerminalRunRecordsPerSchedule : Nat := 200

/-- The terminal runs of a schedule beyond the newest ones. -/
def staleRunRecords (records : SortedMap String ScheduleRunRecord) (scheduleId : String) :
    List ScheduleRunRecord :=
  let finished := fun (record : ScheduleRunRecord) =>
    record.completedAt.getD record.scheduledFor
  let terminal := records.values.filter (fun record =>
    record.status.isTerminal && record.scheduleId = scheduleId)
  (terminal.mergeSort (fun a b => decide (finished b ≤ finished a))).drop
    maxTerminalRunRecordsPerSchedule

def pruneRunRecords (records : SortedMap String ScheduleRunRecord) :
    SortedMap String ScheduleRunRecord :=
  let scheduleIds := (records.values.map ScheduleRunRecord.scheduleId).dedup
  (scheduleIds.flatMap (staleRunRecords records)).foldl
    (fun records stale => records.erase stale.runId) records

end Schedules
