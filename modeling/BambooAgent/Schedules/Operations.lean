import BambooAgent.Schedules.Store

/- The operations of the store. Each edits the index in place, and writes it when it did not fail. -/
namespace Schedules
open SortedMaps

structure ScheduleDefinitionChanges where
  trigger : Option ScheduleTrigger := none
  timezone : Option String := none
  startAt : Option Instant := none
  endAt : Option Instant := none
  misfirePolicy : Option MisFirePolicy := none
  overlapPolicy : Option OverlapPolicy := none

structure ClaimedScheduleRun where
  runId : String
  scheduleId : String
  scheduleName : String
  runConfig : ScheduleRunConfig
  scheduledFor : Instant
  claimedAt : Instant
  wasCatchUp : Bool
  deriving DecidableEq

inductive Answer where
  | done
  | schedule (entry : Option ScheduleEntry)
  | flag (value : Bool)
  | claimed (runs : List ClaimedScheduleRun)
  deriving DecidableEq

/-- An edit may fail after it has changed the index. -/
abbrev Edit := SchedulesIndex → Except String Answer × SchedulesIndex

def computeInitialNextRunAt (engine : TriggerEngine) (trigger : ScheduleTrigger)
    (timezone : Option String) (window : ScheduleWindow) (now : Instant) : Except String Instant :=
  match engine trigger (runtimeTimezone timezone trigger) now window with
  | .error _ => .error "failed to compute initial next run"
  | .ok none => .error "schedule has no next run within configured window"
  | .ok (some next) => .ok next

def normalizeTriggerForStorage (anchorAt : Instant) : ScheduleTrigger → ScheduleTrigger
  | .interval everySeconds existing => .interval everySeconds (existing.or (some anchorAt))
  | other => other

def SchedulesIndex.putSchedule (key : String) (entry : ScheduleEntry) (index : SchedulesIndex) :
    SchedulesIndex := { index with schedules := index.schedules.insert key entry }

def SchedulesIndex.putRecord (key : String) (record : ScheduleRunRecord)
    (index : SchedulesIndex) : SchedulesIndex :=
  { index with runRecords := index.runRecords.insert key record }

def createSchedule (engine : TriggerEngine) (now : Instant) (id name : String) (enabled : Bool)
    (runConfig : ScheduleRunConfig) (definition : ScheduleDefinitionChanges) : Edit := fun index =>
  match definition.trigger.map (normalizeTriggerForStorage now) with
  | none => (.error "schedule trigger is required", index)
  | some trigger =>
    let timezone := normalizeOptionalString definition.timezone
    let window := { startAt := definition.startAt, endAt := definition.endAt }
    match computeInitialNextRunAt engine trigger timezone window now with
    | .error error => (.error error, index)
    | .ok nextFireAt =>
      let entry : ScheduleEntry :=
        { id := id, name := name, enabled := enabled, trigger := trigger, timezone := timezone,
          startAt := definition.startAt, endAt := definition.endAt,
          misfirePolicy := definition.misfirePolicy.getD .runOnce,
          overlapPolicy := definition.overlapPolicy.getD .queueOne,
          createdAt := now, updatedAt := now, state := { nextFireAt := some nextFireAt },
          runConfig := runConfig }
      (.ok (.schedule (some entry)), index.putSchedule id entry)

/-- The caller asked for a project, and the schedule has another one. -/
def scopeDiffers (expected : Option (Option String)) (runConfig : ScheduleRunConfig) : Bool :=
  expected.any (fun projectId => runConfig.projectId ≠ projectId)

def patchFields (now : Instant) (name : Option String) (enabled : Option Bool)
    (runConfig : Option ScheduleRunConfig) (definition : ScheduleDefinitionChanges)
    (existing : ScheduleEntry) : ScheduleEntry :=
  { existing with
    name := name.getD existing.name
    enabled := enabled.getD existing.enabled
    trigger := normalizeTriggerForStorage (existing.derivedAnchorAt.getD now)
      (definition.trigger.getD existing.trigger)
    timezone := match definition.timezone with
      | some timezone => normalizeOptionalString (some timezone)
      | none => existing.timezone
    startAt := definition.startAt.or existing.startAt
    endAt := definition.endAt.or existing.endAt
    misfirePolicy := definition.misfirePolicy.getD existing.misfirePolicy
    overlapPolicy := definition.overlapPolicy.getD existing.overlapPolicy
    runConfig := runConfig.getD existing.runConfig }

def patchSchedule (engine : TriggerEngine) (now : Instant) (id : String) (name : Option String)
    (enabled : Option Bool) (runConfig : Option ScheduleRunConfig)
    (definition : ScheduleDefinitionChanges) (expectedProjectId : Option (Option String)) : Edit :=
  fun index =>
  match index.schedules.lookup id with
  | none => (.ok (.schedule none), index)
  | some existing =>
    if scopeDiffers expectedProjectId existing.runConfig then (.ok (.schedule none), index)
    else
      let patched := patchFields now name enabled runConfig definition existing
      match computeInitialNextRunAt engine patched.trigger patched.timezone patched.window now with
      | .error error => (.error error, index.putSchedule id patched)
      | .ok nextFireAt =>
        let entry := { patched with
          state := { patched.state with nextFireAt := some nextFireAt }
          updatedAt := now }
        (.ok (.schedule (some entry)), index.putSchedule id entry)

def deleteSchedule (id : String) (expectedProjectId : Option (Option String)) : Edit := fun index =>
  match index.schedules.lookup id with
  | none => (.ok (.flag false), index)
  | some entry =>
    if scopeDiffers expectedProjectId entry.runConfig then (.ok (.flag false), index)
    else
      (.ok (.flag true), { index with
        schedules := index.schedules.erase id
        runRecords := index.runRecords.retain (fun record => record.scheduleId ≠ id) })

/- Claiming. -/

def missedOccurrence (engine : TriggerEngine) (now : Instant) (entry : ScheduleEntry) :
    ScheduleEntry :=
  { advance engine now { entry with
      state := recordMissedOccurrence { entry.state with lastScheduledAt := some now } } with
    updatedAt := now }

def dispatched (engine : TriggerEngine) (now : Instant) (count : Nat) (entry : ScheduleEntry) :
    ScheduleEntry :=
  { advance engine now { entry with
      state := { entry.state with
        lastScheduledAt := some now
        queuedRunCount := saturatingAdd u32Max entry.state.queuedRunCount count } } with
    updatedAt := now }

def isDue (now : Instant) (entry : ScheduleEntry) : Bool :=
  entry.enabled && (currentDueAt entry).any (fun dueAt => dueAt ≤ now)

/-- What becomes of an entry, and for when it is dispatched. -/
def claimEntry (engine : TriggerEngine) (now : Instant) (entry : ScheduleEntry) :
    ScheduleEntry × List Instant :=
  if !isDue now entry then (entry, [])
  else
    let dispatchCount := computeMisfireDispatchCount entry now
    if dispatchCount = 0 then (missedOccurrence engine now entry, [])
    else
      match entry.overlapPolicy, overlapBlocksDispatch entry with
      | .skip, true => (missedOccurrence engine now entry, [])
      | .queueOne, true => (entry, [])
      | _, _ =>
        let dispatchCount := applyOverlapDispatchLimit entry dispatchCount
        (dispatched engine now dispatchCount entry, (List.range dispatchCount).map (fun i =>
          scheduledForDispatch entry ((currentDueAt entry).getD now) i))

def claimedRun (runId : String) (now : Instant) (entry : ScheduleEntry) (scheduledFor : Instant) :
    ClaimedScheduleRun where
  runId := runId
  scheduleId := entry.id
  scheduleName := entry.name
  runConfig := entry.runConfig
  scheduledFor := scheduledFor
  claimedAt := now
  wasCatchUp := scheduledFor < now

def ClaimedScheduleRun.record (run : ClaimedScheduleRun) : ScheduleRunRecord :=
  makeQueuedRunRecord run.runId run.scheduleId run.scheduledFor run.claimedAt run.wasCatchUp

def claimedRuns (engine : TriggerEngine) (now : Instant) (ids : Nat → String)
    (index : SchedulesIndex) : List ClaimedScheduleRun :=
  let dispatches := index.schedules.values.flatMap (fun entry =>
    (claimEntry engine now entry).2.map (fun scheduledFor => (entry, scheduledFor)))
  dispatches.zipIdx.map (fun (dispatch, i) => claimedRun (ids i) now dispatch.1 dispatch.2)

def claimDueRuns (engine : TriggerEngine) (now : Instant) (ids : Nat → String) : Edit :=
  fun index =>
  let runs := claimedRuns engine now ids index
  (.ok (.claimed runs), { index with
    schedules := index.schedules.mapValues (fun entry => (claimEntry engine now entry).1)
    runRecords := pruneRunRecords
      (index.runRecords.insertAll ClaimedScheduleRun.runId ClaimedScheduleRun.record runs) })

def createRunNow (now : Instant) (runId id : String) (expectedProjectId : Option (Option String))
    (expectedRunConfig : Option ScheduleRunConfig) : Edit := fun index =>
  match index.schedules.lookup id with
  | none => (.ok (.claimed []), index)
  | some entry =>
    if scopeDiffers expectedProjectId entry.runConfig ||
        expectedRunConfig.any (fun expected => entry.runConfig ≠ expected) then
      (.ok (.claimed []), index)
    else
      let run := claimedRun runId now entry now
      (.ok (.claimed [run]), { index with
        runRecords := pruneRunRecords (index.runRecords.insert runId run.record) })

/- The life of a run. -/

def SchedulesIndex.updateSchedule (id : String) (update : ScheduleEntry → ScheduleEntry)
    (index : SchedulesIndex) : SchedulesIndex :=
  match index.schedules.lookup id with
  | some entry => index.putSchedule id (update entry)
  | none => index

/-- The record is made first when there is none. -/
def SchedulesIndex.updateRecord (runId : String) (fallback : ScheduleRunRecord)
    (update : ScheduleRunRecord → ScheduleRunRecord) (index : SchedulesIndex) : SchedulesIndex :=
  index.putRecord runId (update ((index.runRecords.lookup runId).getD fallback))

def entryStarted (now : Instant) (entry : ScheduleEntry) : ScheduleEntry :=
  { entry with
    state := { entry.state with
      queuedRunCount := entry.state.queuedRunCount - 1
      runningRunCount := saturatingAdd u32Max entry.state.runningRunCount 1
      lastStartedAt := some now }
    updatedAt := now }

def markRunStarted (now : Instant) (scheduleId runId : String) : Edit := fun index =>
  (.ok .done, (index.updateSchedule scheduleId (entryStarted now)).updateRecord runId
    (makeFallbackRunRecord runId scheduleId now .queued) (updateRunRecordStarted now))

def startWorkflowOccurrence (now : Instant) (scheduleId runId : String) : Edit := fun index =>
  match index.runRecords.lookup runId with
  | none => (.error "claimed schedule run is unavailable", index)
  | some record =>
    if record.scheduleId ≠ scheduleId || record.status ≠ .queued then (.ok (.flag false), index)
    else (.ok (.flag true), (index.putRecord runId (updateRunRecordStarted now record)).updateSchedule
      scheduleId (entryStarted now))

def runningRecord (scheduleId runId : String) (index : SchedulesIndex) :
    Option ScheduleRunRecord :=
  (index.runRecords.lookup runId).filter (fun record =>
    record.scheduleId = scheduleId && record.status = .running)

def bindRunWorkflow (scheduleId runId workflowRunId : String) : Edit := fun index =>
  match runningRecord scheduleId runId index with
  | none => (.error "running schedule record is unavailable", index)
  | some record =>
    (.ok .done, index.putRecord runId { record with workflowRunId := some workflowRunId })

def noteWorkflowUnknown (scheduleId runId reason : String) : Edit := fun index =>
  match runningRecord scheduleId runId index with
  | none => (.error "running schedule record is unavailable", index)
  | some record => (.ok .done, index.putRecord runId { record with outcomeReason := some reason })

def bindRunSession (now : Instant) (scheduleId runId sessionId : String) : Edit := fun index =>
  (.ok .done, index.updateRecord runId (makeFallbackRunRecord runId scheduleId now .running)
    (fun record => { record with sessionId := some sessionId }))

/-- The run leaves the running ones, whatever its status is. -/
def runFinished (finishedAt : Instant) (entry : ScheduleEntry) : ScheduleEntry :=
  { entry with state := { entry.state with
      runningRunCount := entry.state.runningRunCount - 1
      lastFinishedAt := some finishedAt } }

def applyTerminalRunStatus (status : ScheduleRunStatus) (finishedAt : Instant)
    (entry : ScheduleEntry) : Except String Unit × ScheduleEntry :=
  let finished := runFinished finishedAt entry
  let state := finished.state
  match status with
  | .success => (.ok (), { finished with state := { state with
      lastSuccessAt := some finishedAt
      totalRunCount := saturatingAdd u64Max state.totalRunCount 1
      totalSuccessCount := saturatingAdd u64Max state.totalSuccessCount 1
      consecutiveFailures := 0 } })
  | .failed | .cancelled => (.ok (), { finished with state := { state with
      lastFailureAt := some finishedAt
      totalRunCount := saturatingAdd u64Max state.totalRunCount 1
      totalFailureCount := saturatingAdd u64Max state.totalFailureCount 1
      consecutiveFailures := saturatingAdd u32Max state.consecutiveFailures 1 } })
  | .skipped => (.ok (), finished)
  | .missed | .queued | .running =>
    (.error "non-terminal or unsupported run status for lifecycle accounting", finished)

def markRunTerminal (now : Instant) (scheduleId runId : String) (status : ScheduleRunStatus)
    (outcomeReason : Option String) : Edit := fun index =>
  let fallback := makeFallbackRunRecord runId scheduleId now status
  let terminal := updateRunRecordTerminal status now outcomeReason
  match index.schedules.lookup scheduleId with
  | none => (.ok .done, index.updateRecord runId fallback terminal)
  | some entry =>
    match applyTerminalRunStatus status now entry with
    | (.error error, entry) => (.error error, index.putSchedule scheduleId entry)
    | (.ok (), entry) =>
      (.ok .done, (index.putSchedule scheduleId { entry with updatedAt := now }).updateRecord runId
        fallback terminal)

def entryDequeued (now : Instant) (entry : ScheduleEntry) : ScheduleEntry :=
  { entry with
    state := recordMissedOccurrence { entry.state with
      queuedRunCount := entry.state.queuedRunCount - 1 }
    updatedAt := now }

def markRunDequeuedWithoutStart (now : Instant) (scheduleId runId : String)
    (outcomeReason : Option String) : Edit := fun index =>
  (.ok .done, (index.updateSchedule scheduleId (entryDequeued now)).updateRecord runId
    (makeFallbackRunRecord runId scheduleId now .queued)
    (updateRunRecordTerminal .missed now outcomeReason))

/- Calls of the store. -/

inductive Operation where
  | createSchedule (name : String) (enabled : Bool) (runConfig : ScheduleRunConfig)
    (definition : ScheduleDefinitionChanges)
  | patchSchedule (id : String) (name : Option String) (enabled : Option Bool)
    (runConfig : Option ScheduleRunConfig) (definition : ScheduleDefinitionChanges)
    (expectedProjectId : Option (Option String))
  | deleteSchedule (id : String) (expectedProjectId : Option (Option String))
  | claimDueRuns (engine : TriggerEngine) (now : Instant)
  | createRunNow (id : String) (expectedProjectId : Option (Option String))
    (expectedRunConfig : Option ScheduleRunConfig)
  | markRunStarted (scheduleId runId : String)
  | startWorkflowOccurrence (scheduleId runId : String)
  | bindRunWorkflow (scheduleId runId workflowRunId : String)
  | noteWorkflowUnknown (scheduleId runId reason : String)
  | bindRunSession (scheduleId runId sessionId : String)
  | markRunTerminal (scheduleId runId : String) (status : ScheduleRunStatus)
    (outcomeReason : Option String)
  | markRunDequeuedWithoutStart (scheduleId runId : String) (outcomeReason : Option String)

/-- The edit of a call that reads this clock and gets these fresh identifiers. -/
def Operation.edit (engine : TriggerEngine) (clock : Instant) (ids : Nat → String) :
    Operation → Edit
  | .createSchedule name enabled runConfig definition =>
    Schedules.createSchedule engine clock (ids 0) name enabled runConfig definition
  | .patchSchedule id name enabled runConfig definition expectedProjectId =>
    Schedules.patchSchedule engine clock id name enabled runConfig definition expectedProjectId
  | .deleteSchedule id expectedProjectId => Schedules.deleteSchedule id expectedProjectId
  | .claimDueRuns engine now => Schedules.claimDueRuns engine now ids
  | .createRunNow id expectedProjectId expectedRunConfig =>
    Schedules.createRunNow clock (ids 0) id expectedProjectId expectedRunConfig
  | .markRunStarted scheduleId runId => Schedules.markRunStarted clock scheduleId runId
  | .startWorkflowOccurrence scheduleId runId =>
    Schedules.startWorkflowOccurrence clock scheduleId runId
  | .bindRunWorkflow scheduleId runId workflowRunId =>
    Schedules.bindRunWorkflow scheduleId runId workflowRunId
  | .noteWorkflowUnknown scheduleId runId reason =>
    Schedules.noteWorkflowUnknown scheduleId runId reason
  | .bindRunSession scheduleId runId sessionId =>
    Schedules.bindRunSession clock scheduleId runId sessionId
  | .markRunTerminal scheduleId runId status outcomeReason =>
    Schedules.markRunTerminal clock scheduleId runId status outcomeReason
  | .markRunDequeuedWithoutStart scheduleId runId outcomeReason =>
    Schedules.markRunDequeuedWithoutStart clock scheduleId runId outcomeReason

def writeFailed : String := "failed to write the schedules"

def ScheduleStore.updateIndex (clock : Instant) (writes : Bool) (edit : Edit)
    (store : ScheduleStore) : Except String Answer × ScheduleStore :=
  match edit store.index with
  | (.error error, index) => (.error error, { store with index := index })
  | (.ok answer, index) =>
    let index := { index with updatedAt := clock }
    if writes then (.ok answer, { store with index := index, file := index })
    else (.error writeFailed, { store with index := index })

def ScheduleStore.updateCopy (clock : Instant) (writes : Bool) (edit : Edit)
    (store : ScheduleStore) : Except String Answer × ScheduleStore :=
  match edit store.index with
  | (.error error, _) => (.error error, store)
  | (.ok answer, index) =>
    let index := { index with updatedAt := clock }
    if writes then (.ok answer, { store with index := index, file := index })
    else (.error writeFailed, store)

/-- Fresh identifiers: the ones of a call by their order, and no two the same. -/
structure Uuids where
  mint : Nat → Nat → String
  distinct : ∀ a b c d, mint a b = mint c d → a = c ∧ b = d

structure Call where
  operation : Operation
  clock : Instant
  writes : Bool

def ScheduleStore.perform (engine : TriggerEngine) (uuids : Uuids) (call : Call)
    (store : ScheduleStore) : Except String Answer × ScheduleStore :=
  let edit := call.operation.edit engine call.clock (uuids.mint store.minted)
  let store' := { store with minted := store.minted + 1 }
  match call.operation with
  | .claimDueRuns _ now =>
    if store.index.schedules.values.any (isDue now) then
      store'.updateIndex call.clock call.writes edit
    else (.ok (.claimed []), store')
  | .bindRunWorkflow _ _ _ => store'.updateCopy call.clock call.writes edit
  | _ => store'.updateIndex call.clock call.writes edit

end Schedules
