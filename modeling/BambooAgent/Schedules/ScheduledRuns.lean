import BambooAgent.Schedules.Firing

/- Histories of the store, with the runs that its claims have returned. -/
namespace Schedules
open SortedMaps Interleavings List SortedMap

structure History where
  store : ScheduleStore
  /-- The schedule and the time of every run that was claimed. -/
  claimed : List (String × Instant)
  /-- The time of the last call that reads one. -/
  last : Instant

def ClaimedScheduleRun.occurrence (run : ClaimedScheduleRun) : String × Instant :=
  (run.scheduleId, run.scheduledFor)

def claims : Operation → Except String Answer → List (String × Instant)
  | .claimDueRuns _ _, .ok (.claimed runs) => runs.map ClaimedScheduleRun.occurrence
  | _, _ => []

def callTime (last : Instant) (call : Call) : Instant :=
  match call.operation with
  | .createSchedule _ _ _ _ | .patchSchedule _ _ _ _ _ _ => call.clock
  | .claimDueRuns _ now => now
  | _ => last

section Steps
variable (calendar : Calendar) (uuids : Uuids)

def History.step (history : History) : Event → History
  | .call call =>
    let outcome := history.store.perform (defaultTriggerEngine calendar) uuids call
    { store := outcome.2
      claimed := history.claimed ++ claims call.operation outcome.1
      last := callTime history.last call }
  | .reload clock => { history with store := history.store.reload clock }

def History.first (now : Instant) : History :=
  { store := firstStore now, claimed := [], last := now }

/-- A definition whose first run the engine finds, in a window that opens at an occurrence. -/
def Scheduled (clock : Instant) (entry : ScheduleEntry) : Prop :=
  Starts calendar clock entry.trigger entry.timezone entry.window ∧
    (firstRun calendar entry clock).isOk = true

/-- Calls whose times do not decrease, on definitions that start at an occurrence; a claim finds
    the entries that it moves on at a time from which their next run is an occurrence. -/
def Timely (history : History) : Event → Prop
  | .reload _ => True
  | .call call =>
    history.last ≤ callTime history.last call ∧
    match call.operation with
    | .createSchedule _ _ _ definition => ∀ trigger, definition.trigger = some trigger →
      Starts calendar call.clock (normalizeTriggerForStorage call.clock trigger)
        (normalizeOptionalString definition.timezone)
        { startAt := definition.startAt, endAt := definition.endAt }
    | .patchSchedule id name enabled runConfig definition expected => ∀ existing,
      history.store.index.schedules.lookup id = some existing →
      scopeDiffers expected existing.runConfig = false →
      Scheduled calendar call.clock
        (patchFields call.clock name enabled runConfig definition existing)
    | .claimDueRuns engine now => engine = defaultTriggerEngine calendar ∧
      history.store.index.schedules.values.all (fun entry =>
        !advances now entry || steady calendar now entry) = true
    | _ => True

end Steps

/- Entries of an index. -/

/-- Every entry is ready, after what was claimed of it. -/
def ReadyIndex (calendar : Calendar) (claimed : List (String × Instant)) (index : SchedulesIndex) :
    Prop :=
  ∀ key entry, index.schedules.lookup key = some entry →
    entry.id = key ∧ Ready calendar (fun instant => (key, instant) ∈ claimed) entry

/-- Every entry comes from one that is timed the same. -/
def Timed (index index' : SchedulesIndex) : Prop :=
  ∀ key entry', index'.schedules.lookup key = some entry' →
    ∃ entry, index.schedules.lookup key = some entry ∧ SameTiming entry entry'

section Indexes
variable {index : SchedulesIndex}

theorem sameTiming_refl (entry : ScheduleEntry) : SameTiming entry entry :=
  ⟨rfl, rfl, rfl, rfl, rfl, fun _ same => same⟩

theorem timed_refl (same : index'.schedules = index.schedules) : Timed index index' :=
  fun _ entry found => ⟨entry, same ▸ found, sameTiming_refl entry⟩

theorem timed_update {id : String} (same : ∀ entry, SameTiming entry (update entry)) :
    Timed index (index.updateSchedule id update) := by
  unfold SchedulesIndex.updateSchedule
  split
  · rename_i entry there
    intro key entry' found
    rw [SchedulesIndex.putSchedule, lookup_insert] at found
    split at found
    · rename_i here
      cases found
      exact ⟨entry, here ▸ there, same entry⟩
    · exact ⟨entry', found, sameTiming_refl entry'⟩
  · exact timed_refl rfl

theorem timed_started (now : Instant) (entry : ScheduleEntry) :
    SameTiming entry (entryStarted now entry) := ⟨rfl, rfl, rfl, rfl, rfl, fun _ same => same⟩

theorem timed_terminal (scheduleId runId : String) (status : ScheduleRunStatus)
    (outcomeReason : Option String) :
    Timed index (markRunTerminal clock scheduleId runId status outcomeReason index).2 := by
  have same : ∀ entry, SameTiming entry (applyTerminalRunStatus status clock entry).2 := by
    intro entry
    cases status <;> exact ⟨rfl, rfl, rfl, rfl, rfl, fun _ same => same⟩
  have put : ∀ {entry entry' : ScheduleEntry}, index.schedules.lookup scheduleId = some entry →
      SameTiming entry entry' → Timed index (index.putSchedule scheduleId entry') := by
    intro entry entry' there timed key other found
    rw [SchedulesIndex.putSchedule, lookup_insert] at found
    split at found
    · rename_i here
      cases found
      exact ⟨entry, here ▸ there, timed⟩
    · exact ⟨other, found, sameTiming_refl other⟩
  unfold markRunTerminal
  split
  · exact timed_refl rfl
  · rename_i entry there
    have timed := same entry
    split
    · rename_i error ended made
      rw [made] at timed
      exact put there timed
    · rename_i ended made
      rw [made] at timed
      exact put there ⟨timed.id, timed.enabled, timed.trigger, timed.timezone, timed.startAt,
        timed.next⟩

def retimes : Operation → Bool
  | .createSchedule _ _ _ _ | .patchSchedule _ _ _ _ _ _ | .claimDueRuns _ _ => true
  | _ => false

theorem edit_timed (operation : Operation) (other : retimes operation = false) :
    Timed index (operation.edit engine clock ids index).2 := by
  cases operation with
  | createSchedule name enabled runConfig definition => cases other
  | patchSchedule id name enabled runConfig definition expected => cases other
  | claimDueRuns engine now => cases other
  | deleteSchedule id expected =>
    change Timed index (deleteSchedule id expected index).2
    unfold deleteSchedule
    split
    · exact timed_refl rfl
    · split
      · exact timed_refl rfl
      · intro key entry found
        rw [lookup_erase] at found
        split at found
        · cases found
        · exact ⟨entry, found, sameTiming_refl entry⟩
  | createRunNow id expected config =>
    change Timed index (createRunNow clock (ids 0) id expected config index).2
    unfold createRunNow
    split
    · exact timed_refl rfl
    · split <;> exact timed_refl rfl
  | markRunStarted scheduleId runId => exact timed_update (timed_started clock)
  | startWorkflowOccurrence scheduleId runId =>
    change Timed index (startWorkflowOccurrence clock scheduleId runId index).2
    unfold startWorkflowOccurrence
    split
    · exact timed_refl rfl
    · split
      · exact timed_refl rfl
      · exact timed_update (timed_started clock)
  | bindRunWorkflow scheduleId runId workflowRunId =>
    change Timed index (bindRunWorkflow scheduleId runId workflowRunId index).2
    unfold bindRunWorkflow
    split <;> exact timed_refl rfl
  | noteWorkflowUnknown scheduleId runId reason =>
    change Timed index (noteWorkflowUnknown scheduleId runId reason index).2
    unfold noteWorkflowUnknown
    split <;> exact timed_refl rfl
  | bindRunSession scheduleId runId sessionId => exact timed_refl rfl
  | markRunTerminal scheduleId runId status outcomeReason =>
    exact timed_terminal scheduleId runId status outcomeReason
  | markRunDequeuedWithoutStart scheduleId runId outcomeReason =>
    exact timed_update (fun _ => ⟨rfl, rfl, rfl, rfl, rfl, fun _ same => same⟩)

theorem ready_timed (ready : ReadyIndex calendar claimed index) (timed : Timed index index') :
    ReadyIndex calendar claimed index' := by
  intro key entry' found
  obtain ⟨entry, there, same⟩ := timed key entry' found
  obtain ⟨named, able⟩ := ready key entry there
  exact ⟨same.id.trans named, able.congr same⟩

theorem ready_put {id : String} (ready : ReadyIndex calendar claimed index) (named : entry.id = id)
    (able : Ready calendar (fun instant => (id, instant) ∈ claimed) entry) :
    ReadyIndex calendar claimed (index.putSchedule id entry) := by
  intro key other found
  rw [SchedulesIndex.putSchedule, lookup_insert] at found
  split at found
  · rename_i here
    cases found
    exact ⟨named.trans here.symm, here ▸ able⟩
  · exact ready key other found

theorem ready_scheduled {next : Instant} (past : ∀ instant, taken instant → instant ≤ clock)
    (timezone : normalizeOptionalString entry.timezone = entry.timezone)
    (stored : entry.trigger = normalizeTriggerForStorage anchor trigger)
    (starts : Starts calendar clock entry.trigger entry.timezone entry.window)
    (computed : firstRun calendar entry clock = .ok next)
    (fires : entry.state.nextFireAt = some next) : Ready calendar taken entry := by
  have normal : Normal entry :=
    normal_scheduled timezone stored computed (by rw [fires]; rfl)
  obtain ⟨occurs, opens, later⟩ := firstRun_spec
    (fun everySeconds anchorAt is => (normal.anchored everySeconds anchorAt is).2) starts computed
  exact ⟨starts.1, normal.anchored, timezone, fun _ => ⟨next, fires, occurs, opens,
    fun instant old => lt_of_le_of_lt (past instant old) later⟩⟩

theorem ready_create (ready : ReadyIndex calendar claimed index)
    (past : ∀ taken ∈ claimed, taken.2 ≤ clock) (id name : String) (enabled : Bool)
    (runConfig : ScheduleRunConfig) (definition : ScheduleDefinitionChanges)
    (starts : ∀ trigger, definition.trigger = some trigger →
      Starts calendar clock (normalizeTriggerForStorage clock trigger)
        (normalizeOptionalString definition.timezone)
        { startAt := definition.startAt, endAt := definition.endAt }) :
    ReadyIndex calendar claimed (createSchedule (defaultTriggerEngine calendar) clock id name
      enabled runConfig definition index).2 := by
  unfold createSchedule
  split
  · exact ready
  · rename_i trigger given
    obtain ⟨asked, there, rfl⟩ := Option.map_eq_some_iff.1 given
    dsimp only
    split
    · exact ready
    · rename_i next computed
      refine ready_put ready rfl (ready_scheduled (fun instant old => past _ old) ?_ rfl
        (starts asked there) computed rfl)
      exact normalizeOptionalString_idem definition.timezone

theorem ready_patch (ready : ReadyIndex calendar claimed index)
    (past : ∀ taken ∈ claimed, taken.2 ≤ clock) (id : String) (name : Option String)
    (enabled : Option Bool) (runConfig : Option ScheduleRunConfig)
    (definition : ScheduleDefinitionChanges) (expected : Option (Option String))
    (scheduled : ∀ existing, index.schedules.lookup id = some existing →
      scopeDiffers expected existing.runConfig = false →
      Scheduled calendar clock (patchFields clock name enabled runConfig definition existing)) :
    ReadyIndex calendar claimed (patchSchedule (defaultTriggerEngine calendar) clock id name enabled
      runConfig definition expected index).2 := by
  unfold patchSchedule
  split
  · exact ready
  · rename_i existing found
    split
    · exact ready
    · rename_i same
      obtain ⟨starts, computes⟩ := scheduled existing found (Bool.eq_false_of_not_eq_true same)
      obtain ⟨named, able⟩ := ready id existing found
      dsimp only
      split
      · rename_i error computed
        unfold firstRun at computes
        rw [computed] at computes
        cases computes
      · rename_i next computed
        refine ready_put ready named (ready_scheduled (fun instant old => past _ old) ?_ rfl starts
          computed rfl)
        unfold patchFields
        dsimp only
        split
        · exact normalizeOptionalString_idem _
        · exact able.timezone

/- Claims. -/

theorem values_ids (named : ∀ key entry, index.schedules.lookup key = some entry →
    entry.id = key) : index.schedules.values.map ScheduleEntry.id = index.schedules.keys := by
  unfold SortedMap.values SortedMap.keys
  rw [map_map]
  refine map_congr_left (fun pair member => ?_)
  exact named pair.1 pair.2 (mem_entries.1 member)

theorem claimed_dispatch (ready : ReadyIndex calendar claimed index) {run : ClaimedScheduleRun}
    (member : run ∈ claimedRuns (defaultTriggerEngine calendar) now ids index) :
    ∃ entry, index.schedules.lookup run.scheduleId = some entry ∧
      run.scheduledFor ∈ (claimEntry (defaultTriggerEngine calendar) now entry).2 := by
  obtain ⟨⟨entry, key, found, owner, taken⟩, _⟩ := claimed_origin member
  rw [owner, (ready key entry found).1]
  exact ⟨entry, found, taken⟩

variable (ready : ReadyIndex calendar claimed index)
  (fine : index.schedules.values.all (fun entry =>
    !advances now entry || steady calendar now entry) = true)
include ready fine

theorem claim_entry (found : index.schedules.lookup key = some entry) :
    let outcome := claimEntry (defaultTriggerEngine calendar) now entry
    Ready calendar (fun instant => (key, instant) ∈ claimed ∨ instant ∈ outcome.2) outcome.1 ∧
      outcome.2.Pairwise (· < ·) ∧
      ∀ at_ ∈ outcome.2, Occurrence calendar entry.trigger entry.timezone at_ ∧
        (∀ start, entry.startAt = some start → start ≤ at_) ∧
        (∀ end_, entry.endAt = some end_ → at_ ≤ end_) ∧ at_ ≤ now ∧
        ∀ instant, (key, instant) ∈ claimed → instant < at_ := by
  refine claim_ready (ready key entry found).2 (fun moves => ?_)
  have one := all_eq_true.1 fine entry (mem_values.2 ⟨key, found⟩)
  rwa [moves, ] at one

theorem claimed_nodup :
    ((claimedRuns (defaultTriggerEngine calendar) now ids index).map
      ClaimedScheduleRun.occurrence).Nodup := by
  have runs : (claimedRuns (defaultTriggerEngine calendar) now ids index).map
      ClaimedScheduleRun.occurrence =
        (dispatches (defaultTriggerEngine calendar) now index).map
          (fun dispatch => (dispatch.1.id, dispatch.2)) :=
    claimedRuns_map (fun entry at_ => (entry.id, at_)) _ (fun _ _ _ => rfl)
  have apart : index.schedules.values.Pairwise (fun entry other => entry.id ≠ other.id) := by
    have keys := index.schedules.keys_nodup
    rw [← values_ids (fun key entry found => (ready key entry found).1)] at keys
    exact pairwise_map.1 keys
  rw [runs, dispatches, map_flatMap, nodup_flatMap]
  constructor
  · intro entry member
    obtain ⟨key, found⟩ := mem_values.1 member
    obtain ⟨_, increasing, _⟩ := claim_entry ready fine found
    rw [map_map]
    refine List.Nodup.map (fun a b same => (Prod.mk.inj same).2) ?_
    exact increasing.imp (fun less => ne_of_lt less)
  · refine apart.imp (fun different pair one two => different ?_)
    simp only [map_map, mem_map, Function.comp] at one two
    obtain ⟨_, _, rfl⟩ := one
    obtain ⟨_, _, same⟩ := two
    exact (congrArg Prod.fst same).symm

theorem ready_claim :
    ReadyIndex calendar (claimed ++
      (claimedRuns (defaultTriggerEngine calendar) now ids index).map
        ClaimedScheduleRun.occurrence)
      (claimDueRuns (defaultTriggerEngine calendar) now ids index).2 := by
  intro key entry' found
  change (index.schedules.mapValues _).lookup key = some entry' at found
  rw [lookup_mapValues, Option.map_eq_some_iff] at found
  obtain ⟨entry, there, rfl⟩ := found
  obtain ⟨able, _⟩ := claim_entry ready fine there
  refine ⟨(claimEntry_id _ now entry).trans (ready key entry there).1, able.mono ?_⟩
  intro instant taken
  rcases mem_append.1 taken with old | new
  · exact .inl old
  · obtain ⟨run, member, same⟩ := mem_map.1 new
    cases same
    obtain ⟨other, held, dispatched⟩ := claimed_dispatch ready member
    rw [held] at there
    cases there
    exact .inr dispatched

end Indexes

/- Histories. -/

structure Sound (calendar : Calendar) (history : History) : Prop where
  index : ReadyIndex calendar history.claimed history.store.index
  file : ReadyIndex calendar history.claimed history.store.file
  past : ∀ taken ∈ history.claimed, taken.2 ≤ history.last
  once : history.claimed.Nodup

theorem ready_congr (ready : ReadyIndex calendar claimed index)
    (same : other.schedules = index.schedules) : ReadyIndex calendar claimed other :=
  fun key entry found => ready key entry (same ▸ found)

theorem ready_reload (ready : ReadyIndex calendar claimed index) :
    ReadyIndex calendar claimed index.reread ∧ ∀ now, ReadyIndex calendar claimed
      (normalizeLoadedIndex now index.reread).1 := by
  have both : ∀ key entry, index.schedules.lookup key = some entry →
      SameTiming entry entry.reread ∧
        SameTiming entry (normalizeLoadedScheduleEntry entry.reread) := by
    intro key entry found
    obtain ⟨_, able⟩ := ready key entry found
    refine ⟨?_, ready_loaded able⟩
    rw [reread_anchored (fun everySeconds anchorAt is => (able.anchored everySeconds anchorAt is).2)]
    exact sameTiming_refl entry
  constructor
  · refine ready_timed ready (fun key entry' found => ?_)
    change (index.schedules.mapValues ScheduleEntry.reread).lookup key = some entry' at found
    rw [lookup_mapValues, Option.map_eq_some_iff] at found
    obtain ⟨entry, there, rfl⟩ := found
    exact ⟨entry, there, (both key entry there).1⟩
  · refine fun now => ready_timed ready (fun key entry' found => ?_)
    change ((index.schedules.mapValues ScheduleEntry.reread).mapValues
      normalizeLoadedScheduleEntry).lookup key = some entry' at found
    rw [lookup_mapValues, lookup_mapValues, Option.map_map,
      Option.map_eq_some_iff] at found
    obtain ⟨entry, there, rfl⟩ := found
    exact ⟨entry, there, (both key entry there).2⟩

theorem sound_reload (sound : Sound calendar history) (clock : Instant) :
    Sound calendar (history.step calendar uuids (.reload clock)) := by
  obtain ⟨read, loaded⟩ := ready_reload sound.file
  refine ⟨loaded clock, ?_, sound.past, sound.once⟩
  change ReadyIndex calendar history.claimed
    (if (normalizeLoadedIndex clock history.store.file.reread).2 = true
      then (normalizeLoadedIndex clock history.store.file.reread).1 else history.store.file.reread)
  split
  · exact loaded clock
  · exact read

/-- A claim returns the runs it has written, or none. -/
theorem perform_claim (engine : TriggerEngine) (uuids : Uuids) (store : ScheduleStore)
    (now clock : Instant) (writes : Bool) :
    let edited := (claimDueRuns engine now (uuids.mint store.minted) store.index).2
    let outcome := store.perform engine uuids ⟨.claimDueRuns engine now, clock, writes⟩
    (claims (.claimDueRuns engine now) outcome.1 = [] ∧
        (outcome.2.index.schedules = edited.schedules ∨ outcome.2.index = store.index) ∧
        outcome.2.file = store.file) ∨
      (outcome.1 = .ok (.claimed (claimedRuns engine now (uuids.mint store.minted) store.index)) ∧
        outcome.2.index.schedules = edited.schedules ∧ outcome.2.file = outcome.2.index) := by
  intro edited outcome
  by_cases due : store.index.schedules.values.any (isDue now) = true
  · cases writes with
    | true =>
      refine .inr ?_
      simp only [outcome, edited, ScheduleStore.perform, due, if_true]
      exact ⟨rfl, rfl, rfl⟩
    | false =>
      refine .inl ?_
      simp only [outcome, edited, ScheduleStore.perform, due, if_true]
      exact ⟨rfl, .inl rfl, rfl⟩
  · refine .inl ?_
    simp only [outcome, edited, ScheduleStore.perform, due]
    exact ⟨rfl, .inr rfl, rfl⟩

section
variable (sound : Sound calendar history)
include sound

theorem claim_spec
    (timely : Timely calendar history
      (.call ⟨.claimDueRuns (defaultTriggerEngine calendar) now, clock, writes⟩))
    (answer : (history.store.perform (defaultTriggerEngine calendar) uuids
      ⟨.claimDueRuns (defaultTriggerEngine calendar) now, clock, writes⟩).1 =
        .ok (.claimed runs)) :
    (∀ run ∈ runs, ∃ entry, history.store.index.schedules.lookup run.scheduleId = some entry ∧
      Occurrence calendar entry.trigger entry.timezone run.scheduledFor ∧
      (∀ start, entry.startAt = some start → start ≤ run.scheduledFor) ∧
      (∀ end_, entry.endAt = some end_ → run.scheduledFor ≤ end_) ∧ run.scheduledFor ≤ now) ∧
    (history.claimed ++ runs.map ClaimedScheduleRun.occurrence).Nodup := by
  obtain ⟨_, _, fine⟩ := timely
  rcases perform_claim (defaultTriggerEngine calendar) uuids history.store now clock writes with
    ⟨none_, _⟩ | ⟨made, _⟩
  · rw [answer] at none_
    have empty : runs = [] := map_eq_nil_iff.1 none_
    subst empty
    refine ⟨nofun, ?_⟩
    rw [map_nil, append_nil]
    exact sound.once
  · rw [made] at answer
    cases answer
    constructor
    · intro run member
      obtain ⟨entry, found, taken⟩ := claimed_dispatch sound.index member
      obtain ⟨_, _, each⟩ := claim_entry sound.index fine found
      obtain ⟨occurs, opens, ends, past, _⟩ := each _ taken
      exact ⟨entry, found, occurs, opens, ends, past⟩
    · rw [nodup_append]
      refine ⟨sound.once, claimed_nodup sound.index fine, ?_⟩
      rintro taken old _ new rfl
      obtain ⟨run, member, rfl⟩ := mem_map.1 new
      obtain ⟨entry, found, dispatched⟩ := claimed_dispatch sound.index member
      obtain ⟨_, _, each⟩ := claim_entry sound.index fine found
      obtain ⟨_, _, _, _, later⟩ := each _ dispatched
      exact absurd (later _ old) (lt_irrefl _)

theorem sound_claim
    (timely : Timely calendar history
      (.call ⟨.claimDueRuns (defaultTriggerEngine calendar) now, clock, writes⟩)) :
    Sound calendar (history.step calendar uuids
      (.call ⟨.claimDueRuns (defaultTriggerEngine calendar) now, clock, writes⟩)) := by
  obtain ⟨order, _, fine⟩ := timely
  have edited : ReadyIndex calendar (history.claimed ++
      (claimedRuns (defaultTriggerEngine calendar) now (uuids.mint history.store.minted)
        history.store.index).map ClaimedScheduleRun.occurrence)
      (claimDueRuns (defaultTriggerEngine calendar) now (uuids.mint history.store.minted)
        history.store.index).2 := ready_claim sound.index fine
  have before : ∀ taken ∈ history.claimed, taken.2 ≤ now :=
    fun taken old => le_trans (sound.past taken old) order
  rcases perform_claim (defaultTriggerEngine calendar) uuids history.store now clock writes with
    ⟨none_, index, file⟩ | ⟨made, index, file⟩
  · have same : (history.step calendar uuids
        (.call ⟨.claimDueRuns (defaultTriggerEngine calendar) now, clock, writes⟩)).claimed =
          history.claimed := by
      change history.claimed ++ claims _ _ = _
      rw [none_, append_nil]
    have kept : ReadyIndex calendar history.claimed
        (claimDueRuns (defaultTriggerEngine calendar) now (uuids.mint history.store.minted)
          history.store.index).2 := by
      intro key entry found
      obtain ⟨named, able⟩ := edited key entry found
      exact ⟨named, able.mono (fun _ old => mem_append_left _ old)⟩
    refine ⟨?_, ?_, ?_, same ▸ sound.once⟩
    · rw [same]
      rcases index with moved | stays
      · exact ready_congr kept moved
      · exact ready_congr sound.index (congrArg SchedulesIndex.schedules stays)
    · rw [same]
      exact ready_congr sound.file (congrArg SchedulesIndex.schedules file)
    · rw [same]
      exact before
  · have same : (history.step calendar uuids
        (.call ⟨.claimDueRuns (defaultTriggerEngine calendar) now, clock, writes⟩)).claimed =
          history.claimed ++ (claimedRuns (defaultTriggerEngine calendar) now
            (uuids.mint history.store.minted) history.store.index).map
              ClaimedScheduleRun.occurrence := by
      change history.claimed ++ claims _ _ = _
      rw [made]
      rfl
    obtain ⟨each, once⟩ := claim_spec sound ⟨order, rfl, fine⟩ made
    refine ⟨?_, ?_, ?_, ?_⟩
    · rw [same]
      exact ready_congr edited index
    · rw [same]
      exact ready_congr edited ((congrArg SchedulesIndex.schedules file).trans index)
    · rw [same]
      intro taken member
      rcases mem_append.1 member with old | new
      · exact before taken old
      · obtain ⟨run, there, rfl⟩ := mem_map.1 new
        obtain ⟨_, _, _, _, _, past⟩ := each run there
        exact past
    · rw [same]
      exact once

theorem sound_edit (call : Call) (silent : ∀ outcome, claims call.operation outcome = [])
    (order : history.last ≤ callTime history.last call)
    (ready : ReadyIndex calendar history.claimed (call.operation.edit
      (defaultTriggerEngine calendar) call.clock (uuids.mint history.store.minted)
        history.store.index).2) : Sound calendar (history.step calendar uuids (.call call)) := by
  have same : (history.step calendar uuids (.call call)).claimed = history.claimed := by
    change history.claimed ++ claims _ _ = _
    rw [silent, append_nil]
  obtain ⟨_, index, file⟩ :=
    perform_cases uuids (defaultTriggerEngine calendar) history.store call
  have after : ReadyIndex calendar history.claimed
      (history.store.perform (defaultTriggerEngine calendar) uuids call).2.index := by
    rcases index with ⟨schedules, _⟩ | stays
    · exact ready_congr ready schedules
    · rw [stays]
      exact sound.index
  refine ⟨same ▸ after, ?_, ?_, same ▸ sound.once⟩
  · rw [same]
    change ReadyIndex calendar history.claimed
      (history.store.perform (defaultTriggerEngine calendar) uuids call).2.file
    rcases file with stays | stays
    · rw [stays]
      exact after
    · rw [stays]
      exact sound.file
  · rw [same]
    exact fun taken old => le_trans (sound.past taken old) order

theorem sound_step (event : Event) (timely : Timely calendar history event) :
    Sound calendar (history.step calendar uuids event) := by
  cases event with
  | reload clock => exact sound_reload sound clock
  | call call =>
    obtain ⟨operation, clock, writes⟩ := call
    obtain ⟨order, fine⟩ := timely
    have past : history.last ≤ clock → ∀ taken ∈ history.claimed, taken.2 ≤ clock :=
      fun order taken old => le_trans (sound.past taken old) order
    cases operation with
    | createSchedule name enabled runConfig definition =>
      exact sound_edit sound _ (fun _ => rfl) order (ready_create sound.index (past order) _ name
        enabled runConfig definition fine)
    | patchSchedule id name enabled runConfig definition expected =>
      exact sound_edit sound _ (fun _ => rfl) order (ready_patch sound.index (past order) id name
        enabled runConfig definition expected fine)
    | claimDueRuns engine now =>
      obtain ⟨rfl, fine⟩ := fine
      exact sound_claim sound ⟨order, rfl, fine⟩
    | _ =>
      exact sound_edit sound _ (fun _ => rfl) order
        (ready_timed sound.index (edit_timed _ rfl))

end

theorem sound_first (calendar : Calendar) (now : Instant) : Sound calendar (History.first now) := by
  refine ⟨?_, ?_, nofun, .nil⟩
  all_goals
    intro key entry found
    exact absurd found empty_schedules

def everyMinuteAnyway : Call :=
  sampleCall (.createSchedule "minute" true ⟨none, ""⟩
    { trigger := some (.interval 60 none), overlapPolicy := some .allow }) 0

/-- Claims that come with the minute, and a store that is reopened between them. -/
def punctual : List Event := [.call everyMinuteAnyway, .call (claimAt 60), .reload 62]

abbrev historyOf (events : List Event) : History :=
  run (History.step sampleCalendar sampleUuids) (History.first 0) events

def minuteRun (runId : String) (at_ claimedAt : Int) : ClaimedScheduleRun where
  runId := runId
  scheduleId := ""
  scheduleName := "minute"
  runConfig := ⟨none, ""⟩
  scheduledFor := at_ * second
  claimedAt := claimedAt * second
  wasCatchUp := at_ < claimedAt

theorem punctual_timely :
    Along (History.step sampleCalendar sampleUuids) (Timely sampleCalendar) (History.first 0)
      punctual := by
  refine ⟨⟨by decide, ?_⟩, ⟨by decide +kernel, rfl, by decide +kernel⟩, trivial, trivial⟩
  intro trigger given
  cases given
  exact ⟨nofun, nofun⟩

end Schedules
