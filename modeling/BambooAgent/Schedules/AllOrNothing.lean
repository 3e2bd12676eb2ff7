import BambooAgent.Schedules.Settling
import BambooAgent.Library.Interleavings

/- Which calls are all or nothing: a call that fails has left the index as it was, and as the file
   has it. -/
namespace Schedules
open SortedMaps Interleavings SortedMap Bool

/-- The trigger engine of the calls that compute a first run. -/
abbrev firstRun (calendar : Calendar) (entry : ScheduleEntry) (now : Instant) :
    Except String Instant :=
  computeInitialNextRunAt (defaultTriggerEngine calendar) entry.trigger entry.timezone entry.window
    now

/-- A claim moves the entry on, rather than leaving it to wait for its queued run. -/
def advances (now : Instant) (entry : ScheduleEntry) : Bool :=
  isDue now entry && (computeMisfireDispatchCount entry now = 0 ||
    entry.overlapPolicy ≠ .queueOne || !overlapBlocksDispatch entry)

/-- The entry has no further run, and is not a one-shot that needs none. -/
def runsOut (engine : TriggerEngine) (now : Instant) (entry : ScheduleEntry) : Bool :=
  match entry.trigger, computeNextRunAtWithEngine engine entry now with
  | .once _, _ => false
  | _, .ok none => true
  | _, _ => false

def accountable (status : ScheduleRunStatus) : Bool :=
  [.success, .failed, .cancelled, .skipped].contains status

/-- What a call that edits the live index has to find, so as not to fail halfway or to leave
    behind what a reload would change. -/
def editable (calendar : Calendar) (clock : Instant) (index : SchedulesIndex) :
    Operation → Bool
  | .patchSchedule id name enabled runConfig definition expectedProjectId =>
    (index.schedules.lookup id).all (fun existing =>
      scopeDiffers expectedProjectId existing.runConfig ||
      (firstRun calendar (patchFields clock name enabled runConfig definition existing) clock).isOk)
  | .markRunTerminal scheduleId _ status _ =>
    !index.schedules.contains scheduleId || accountable status
  | .claimDueRuns engine now =>
    index.schedules.values.all (fun entry => !advances now entry || !runsOut engine now entry)
  | _ => true

/-- The write of this call does not fail, or the call works on a copy. -/
def written (call : Call) : Bool :=
  call.writes || match call.operation with
    | .bindRunWorkflow _ _ _ => true
    | _ => false

def whole (calendar : Calendar) (store : ScheduleStore) (call : Call) : Bool :=
  written call && editable calendar call.clock store.index call.operation

/-- An edit that succeeds keeps the index normal, and one that fails has not changed it. -/
def Clean (index : SchedulesIndex) : Except String Answer × SchedulesIndex → Prop
  | (.ok _, edited) => NormalIndex edited
  | (.error _, edited) => edited = index

theorem normal_put (normal : NormalIndex index) (fine : Normal entry) :
    NormalIndex (index.putSchedule key entry) where
  version := normal.version
  entries := by
    intro other found present
    change (index.schedules.insert key entry).lookup other = some found at present
    rw [lookup_insert] at present
    split at present
    · cases present
      exact fine
    · exact normal.entries other found present

theorem normal_update {id : String} (normal : NormalIndex index)
    (keeps : ∀ entry, Normal entry → Normal (update entry)) :
    NormalIndex (index.updateSchedule id update) := by
  unfold SchedulesIndex.updateSchedule
  split
  · rename_i entry found
    exact normal_put normal (keeps entry (normal.entries id entry found))
  · exact normal

theorem normal_records (normal : NormalIndex index)
    (records : SortedMap String ScheduleRunRecord) :
    NormalIndex { index with runRecords := records } := ⟨normal.version, normal.entries⟩

theorem normal_started (now : Instant) (normal : Normal entry) :
    Normal (entryStarted now entry) := normal.congr rfl rfl rfl

theorem normal_dequeued (now : Instant) (normal : Normal entry) :
    Normal (entryDequeued now entry) := normal.congr rfl rfl rfl

theorem firstRun_positive
    (computed : computeInitialNextRunAt (defaultTriggerEngine calendar)
      (.interval everySeconds anchorAt) timezone window now = .ok next) : everySeconds ≠ 0 := by
  rintro rfl
  simp [computeInitialNextRunAt, defaultTriggerEngine, nextCandidate, runtimeTimezone,
    computeIntervalNext, Except.map] at computed

theorem normal_scheduled (timezone : normalizeOptionalString entry.timezone = entry.timezone)
    (stored : entry.trigger = normalizeTriggerForStorage anchor trigger)
    (computed : firstRun calendar entry clock = .ok next)
    (fires : entry.state.nextFireAt.isSome = true) : Normal entry where
  timezone := timezone
  anchored := by
    intro everySeconds anchorAt is
    constructor
    · unfold firstRun at computed
      rw [is] at computed
      exact firstRun_positive computed
    · rw [is] at stored
      cases trigger
      all_goals cases stored
      simp
  next := fun _ => fires

theorem clean_create (normal : NormalIndex index) (id name : String) (enabled : Bool)
    (runConfig : ScheduleRunConfig) (definition : ScheduleDefinitionChanges) :
    Clean index (createSchedule (defaultTriggerEngine calendar) clock id name enabled runConfig
      definition index) := by
  unfold createSchedule
  split
  · rfl
  · rename_i trigger given
    dsimp only
    split
    · rfl
    · rename_i next computed
      obtain ⟨wanted, _, rfl⟩ := Option.map_eq_some_iff.1 given
      exact normal_put normal (normal_scheduled (normalizeOptionalString_idem _) rfl computed rfl)

theorem clean_patch (normal : NormalIndex index) (id : String) (name : Option String)
    (enabled : Option Bool) (runConfig : Option ScheduleRunConfig)
    (definition : ScheduleDefinitionChanges) (expected : Option (Option String))
    (fine : editable calendar clock index
      (.patchSchedule id name enabled runConfig definition expected) = true) :
    Clean index (patchSchedule (defaultTriggerEngine calendar) clock id name enabled runConfig
      definition expected index) := by
  unfold patchSchedule
  simp only [editable] at fine
  split
  · exact normal
  · rename_i existing found
    rw [found, Option.all_some, or_eq_true] at fine
    split
    · exact normal
    · rename_i same
      have computes := fine.resolve_left same
      dsimp only
      split
      · rename_i error failed
        rw [firstRun, failed] at computes
        cases computes
      · rename_i next computed
        have timezone : normalizeOptionalString
            (patchFields clock name enabled runConfig definition existing).timezone =
            (patchFields clock name enabled runConfig definition existing).timezone := by
          simp only [patchFields]
          split
          · exact normalizeOptionalString_idem _
          · exact (normal.entries id existing found).timezone
        exact normal_put normal (normal_scheduled timezone rfl computed rfl)

theorem clean_delete (normal : NormalIndex index) (id : String)
    (expected : Option (Option String)) : Clean index (deleteSchedule id expected index) := by
  unfold deleteSchedule
  split
  · exact normal
  · split
    · exact normal
    · refine ⟨normal.version, fun key entry found => ?_⟩
      rw [lookup_erase] at found
      split at found
      · cases found
      · exact normal.entries key entry found

theorem normal_advance (normal : Normal entry) (goes : runsOut engine now entry = false) :
    Normal (advance engine now entry) where
  timezone := by
    unfold advance
    split <;> exact normal.timezone
  anchored := by
    unfold advance
    split <;> exact normal.anchored
  next := by
    unfold runsOut at goes
    unfold advance
    split
    · exact fun _ => rfl
    · rename_i ended
      intro repeats
      rw [ended] at goes
      split at goes
      · rename_i at_ is
        exact absurd is (repeats at_)
      · cases goes
      · rename_i again
        exact absurd rfl again
    · exact fun _ => rfl

theorem runsOut_congr (trigger : other.trigger = entry.trigger)
    (timezone : other.timezone = entry.timezone) (window : other.window = entry.window) :
    runsOut engine now other = runsOut engine now entry := by
  unfold runsOut computeNextRunAtWithEngine runtimeTrigger
  rw [trigger, timezone, window]

theorem normal_claim (normal : Normal entry)
    (fine : (!advances now entry || !runsOut engine now entry) = true) :
    Normal (claimEntry engine now entry).1 := by
  have moves : ∀ state : ScheduleState, state.nextFireAt = entry.state.nextFireAt →
      runsOut engine now entry = false →
      Normal { advance engine now { entry with state := state } with updatedAt := now } := by
    intro state same goes
    have moved : Normal (advance engine now { entry with state := state }) :=
      normal_advance (normal.congr rfl rfl same) ((runsOut_congr rfl rfl rfl).trans goes)
    exact moved.congr rfl rfl rfl
  rw [or_eq_true, not_eq_true', not_eq_true'] at fine
  unfold claimEntry
  by_cases due : isDue now entry = true
  · rw [due]
    simp only [Bool.not_true, Bool.false_eq_true, if_false]
    have goes : (computeMisfireDispatchCount entry now = 0 ∨ entry.overlapPolicy ≠ .queueOne ∨
        overlapBlocksDispatch entry = false) → runsOut engine now entry = false := by
      intro some_
      refine fine.resolve_left ?_
      simp only [advances, due, Bool.true_and, Bool.or_eq_true, decide_eq_true_eq,
        Bool.not_eq_true', ne_eq, Bool.not_eq_false]
      tauto
    split
    · rename_i skipped
      exact moves _ rfl (goes (.inl skipped))
    · split
      · rename_i skip _
        exact moves _ rfl (goes (.inr (.inl (by rw [skip]; decide))))
      · exact normal
      · rename_i policy blocks _ waits
        refine moves _ rfl (goes ?_)
        by_cases queue : entry.overlapPolicy = .queueOne
        · refine .inr (.inr (eq_false_of_not_eq_true (fun blocked => ?_)))
          exact waits queue blocked
        · exact .inr (.inl queue)
  · rw [eq_false_of_not_eq_true due]
    exact normal

theorem clean_claim (normal : NormalIndex index) (ids : Nat → String)
    (fine : editable calendar clock index (.claimDueRuns engine now) = true) :
    Clean index (claimDueRuns engine now ids index) := by
  refine ⟨normal.version, fun key entry found => ?_⟩
  rw [lookup_mapValues, Option.map_eq_some_iff] at found
  obtain ⟨old, there, rfl⟩ := found
  unfold editable at fine
  rw [List.all_eq_true] at fine
  exact normal_claim (normal.entries key old there)
    (fine old (mem_values.2 ⟨key, there⟩))

theorem accountable_ok (fine : accountable status = true) (now : Instant) (entry : ScheduleEntry) :
    applyTerminalRunStatus status now entry =
      (.ok (), (applyTerminalRunStatus status now entry).2) := by
  cases status with
  | success => rfl
  | failed => rfl
  | cancelled => rfl
  | skipped => rfl
  | missed => cases fine
  | queued => cases fine
  | running => cases fine

/-- What the accounting leaves alone, and what it does to the counts. -/
theorem applyTerminal_keeps (status : ScheduleRunStatus) (now : Instant) (entry : ScheduleEntry) :
    let finished := (applyTerminalRunStatus status now entry).2
    finished.id = entry.id ∧ finished.trigger = entry.trigger ∧
      finished.timezone = entry.timezone ∧ finished.overlapPolicy = entry.overlapPolicy ∧
      finished.state.nextFireAt = entry.state.nextFireAt ∧
      finished.state.queuedRunCount = entry.state.queuedRunCount ∧
      finished.state.runningRunCount = entry.state.runningRunCount - 1 := by
  cases status <;> exact ⟨rfl, rfl, rfl, rfl, rfl, rfl, rfl⟩

theorem clean_terminal (normal : NormalIndex index) (now : Instant) (scheduleId runId : String)
    (status : ScheduleRunStatus) (outcomeReason : Option String)
    (fine : editable calendar clock index
      (.markRunTerminal scheduleId runId status outcomeReason) = true) :
    Clean index (markRunTerminal now scheduleId runId status outcomeReason index) := by
  unfold markRunTerminal
  simp only [editable] at fine
  split
  · exact normal_records normal _
  · rename_i entry found
    have present : index.schedules.contains scheduleId = true :=
      contains_iff.2 ⟨entry, found⟩
    rw [present, ] at fine
    rw [accountable_ok fine now entry]
    obtain ⟨_, trigger, timezone, _, next, _⟩ := applyTerminal_keeps status now entry
    have known := normal.entries scheduleId entry found
    have put : NormalIndex (index.putSchedule scheduleId
        { (applyTerminalRunStatus status now entry).2 with updatedAt := now }) :=
      normal_put normal (known.congr timezone trigger next)
    exact normal_records put _

theorem clean_edit (normal : NormalIndex index) (ids : Nat → String) (operation : Operation)
    (fine : editable calendar clock index operation = true) :
    Clean index (operation.edit (defaultTriggerEngine calendar) clock ids index) := by
  cases operation with
  | createSchedule name enabled runConfig definition =>
    exact clean_create normal _ name enabled runConfig definition
  | patchSchedule id name enabled runConfig definition expected =>
    exact clean_patch normal id name enabled runConfig definition expected fine
  | deleteSchedule id expected => exact clean_delete normal id expected
  | claimDueRuns engine now => exact clean_claim normal ids fine
  | createRunNow id expected runConfig =>
    change Clean index (createRunNow clock (ids 0) id expected runConfig index)
    unfold createRunNow
    split
    · exact normal
    · split
      · exact normal
      · exact normal_records normal _
  | markRunStarted scheduleId runId =>
    exact normal_records (normal_update normal (fun _ => normal_started clock)) _
  | startWorkflowOccurrence scheduleId runId =>
    change Clean index (startWorkflowOccurrence clock scheduleId runId index)
    unfold startWorkflowOccurrence
    split
    · rfl
    · split
      · exact normal
      · exact normal_update (normal_records normal _) (fun _ => normal_started clock)
  | bindRunWorkflow scheduleId runId workflowRunId =>
    change Clean index (bindRunWorkflow scheduleId runId workflowRunId index)
    unfold bindRunWorkflow
    split
    · rfl
    · exact normal_records normal _
  | noteWorkflowUnknown scheduleId runId reason =>
    change Clean index (noteWorkflowUnknown scheduleId runId reason index)
    unfold noteWorkflowUnknown
    split
    · rfl
    · exact normal_records normal _
  | bindRunSession scheduleId runId sessionId => exact normal_records normal _
  | markRunTerminal scheduleId runId status outcomeReason =>
    exact clean_terminal normal clock scheduleId runId status outcomeReason fine
  | markRunDequeuedWithoutStart scheduleId runId outcomeReason =>
    exact normal_records (normal_update normal (fun _ => normal_dequeued clock)) _

/- Calls. -/

/-- After a call that failed the index is the one before, and what the file would load as. -/
def AllOrNothing (store : ScheduleStore) : Except String Answer × ScheduleStore → Prop
  | (.ok _, _) => True
  | (.error _, after) => after.index = store.index ∧ ∀ now, (after.reload now).index = after.index

theorem settled_mint (settled : Settled store) : Settled { store with minted := store.minted + 1 } :=
  ⟨settled.file, settled.normal⟩

theorem settled_written {index : SchedulesIndex} (normal : NormalIndex index) (minted : Nat) :
    let written := { index with updatedAt := clock }
    Settled { index := written, file := written, minted := minted } :=
  ⟨rfl, normal.version, normal.entries⟩

theorem updateIndex_settled (settled : Settled store) (clean : Clean store.index (edit store.index)) :
    let outcome := store.updateIndex clock true edit
    Settled outcome.2 ∧ AllOrNothing store outcome := by
  unfold ScheduleStore.updateIndex
  cases made : edit store.index with
  | mk result index =>
    rw [made] at clean
    cases result with
    | ok answer =>
      have normal : NormalIndex index := clean
      exact ⟨settled_written normal store.minted, trivial⟩
    | error error =>
      have same : index = store.index := clean
      subst same
      refine ⟨settled, rfl, fun now => ?_⟩
      rw [reload_settled settled]

theorem updateCopy_settled (settled : Settled store) (writes : Bool)
    (clean : Clean store.index (edit store.index)) :
    let outcome := store.updateCopy clock writes edit
    Settled outcome.2 ∧ AllOrNothing store outcome := by
  have unchanged : AllOrNothing store (.error writeFailed, store) :=
    ⟨rfl, fun now => by rw [reload_settled settled]⟩
  unfold ScheduleStore.updateCopy
  cases made : edit store.index with
  | mk result index =>
    rw [made] at clean
    cases result with
    | ok answer =>
      cases writes with
      | true =>
        have normal : NormalIndex index := clean
        exact ⟨settled_written normal store.minted, trivial⟩
      | false => exact ⟨settled, unchanged⟩
    | error error => exact ⟨settled, unchanged⟩

theorem allOrNothing_mint (fair : AllOrNothing { store with minted := store.minted + 1 } outcome) :
    AllOrNothing store outcome := by
  obtain ⟨result, after⟩ := outcome
  cases result with
  | ok answer => trivial
  | error error => exact fair

theorem perform_settled (settled : Settled store) (uuids : Uuids) (call : Call)
    (fine : whole calendar store call = true) :
    let outcome := store.perform (defaultTriggerEngine calendar) uuids call
    Settled outcome.2 ∧ AllOrNothing store outcome := by
  rw [whole, and_eq_true] at fine
  obtain ⟨writes, fine⟩ := fine
  have minted := settled_mint settled
  have clean := clean_edit settled.normal (uuids.mint store.minted) call.operation fine
  obtain ⟨operation, clock, works⟩ := call
  have edited : works = true →
      Settled (ScheduleStore.updateIndex clock works
        (operation.edit (defaultTriggerEngine calendar) clock (uuids.mint store.minted))
        { store with minted := store.minted + 1 }).2 ∧
      AllOrNothing store (ScheduleStore.updateIndex clock works
        (operation.edit (defaultTriggerEngine calendar) clock (uuids.mint store.minted))
        { store with minted := store.minted + 1 }) := by
    rintro rfl
    obtain ⟨after, fair⟩ := updateIndex_settled minted clean
    exact ⟨after, allOrNothing_mint fair⟩
  cases operation with
  | claimDueRuns engine now =>
    unfold ScheduleStore.perform
    dsimp only
    split
    · exact edited (by simpa [written] using writes)
    · exact ⟨minted, trivial⟩
  | bindRunWorkflow scheduleId runId workflowRunId =>
    obtain ⟨after, fair⟩ := updateCopy_settled minted works clean
    exact ⟨after, allOrNothing_mint fair⟩
  | _ => exact edited (by simpa [written] using writes)

/- Runs. -/

section Runs
variable (calendar : Calendar) (uuids : Uuids)

inductive Event where
  | call (call : Call)
  | reload (clock : Instant)

def ScheduleStore.step (store : ScheduleStore) : Event → ScheduleStore
  | .call call => (store.perform (defaultTriggerEngine calendar) uuids call).2
  | .reload clock => store.reload clock

def wholeEvent (store : ScheduleStore) : Event → Bool
  | .call call => whole calendar store call
  | .reload _ => true

theorem settled_step (event : Event) (fine : wholeEvent calendar store event = true)
    (settled : Settled store) : Settled (store.step calendar uuids event) := by
  cases event with
  | call call => exact (perform_settled settled uuids call fine).1
  | reload clock =>
    change Settled (store.reload clock)
    rw [reload_settled settled]
    exact settled

end Runs

/- A schedule of every minute. -/

def sampleTz : Tz where
  fromLocal := fun _ => .none
  toLocal := fun _ => ⟨⟨2026, 4, 4⟩, ⟨0, 0, 0⟩⟩

def sampleCalendar : Calendar where
  utc := sampleTz
  parse := fun _ => none
  cron := fun _ _ _ => .error "no cron"

def sampleUuids : Uuids where
  mint := fun call place =>
    String.ofList (List.replicate call 'c' ++ List.replicate place 'p')
  distinct := by
    intro a b c d same
    have lists := String.ofList_injective same
    have calls := congrArg (List.count 'c') lists
    have places := congrArg (List.count 'p') lists
    simp [List.count_append, List.count_replicate] at calls places
    exact ⟨calls, places⟩

def sampleCall (operation : Operation) (clock : Instant) : Call :=
  { operation := operation, clock := clock * second, writes := true }

def everyMinute : Call :=
  sampleCall (.createSchedule "minute" true ⟨none, ""⟩
    { trigger := some (.interval 60 none) }) 0

def claimAt (clock : Instant) : Call :=
  sampleCall (.claimDueRuns (defaultTriggerEngine sampleCalendar) (clock * second)) clock

/-- A run that is not in the store cannot start, which changes nothing. -/
def startLost : Call := sampleCall (.startWorkflowOccurrence "" "lost") 70

def sampleEvents : List Event := [.call everyMinute, .call (claimAt 60), .reload 65]

/-- A new name, and a window that is over. -/
def patchOver : Call :=
  sampleCall (.patchSchedule "" (some "renamed") none none { endAt := some 0 } none) 70

end Schedules
