import BambooAgent.Schedules.AllOrNothing
import BambooAgent.Library.Tallies

/- The counters of a schedule against its run records, from claim to the end of each run. -/
namespace Schedules
open SortedMaps Tallies List SortedMap Bool

def inStatus (id : String) (status : ScheduleRunStatus) (record : ScheduleRunRecord) : Bool :=
  record.scheduleId = id && record.status = status

def runCount (index : SchedulesIndex) (id : String) (status : ScheduleRunStatus) : Nat :=
  index.runRecords.values.countP (inStatus id status)

abbrev weigh (id : String) (status : ScheduleRunStatus) (record : ScheduleRunRecord) : Nat :=
  if inStatus id status record then 1 else 0

theorem runCount_total (index : SchedulesIndex) (id : String) (status : ScheduleRunStatus) :
    runCount index id status = total (weigh id status) index.runRecords :=
  countP_total _ _

structure Counted (index : SchedulesIndex) (id : String) (entry : ScheduleEntry) : Prop where
  queued : entry.state.queuedRunCount = runCount index id .queued
  running : entry.state.runningRunCount = runCount index id .running

/-- The counts of every schedule are those of its records, and every record has its schedule. -/
structure Truthful (index : SchedulesIndex) : Prop where
  named : ∀ key entry, index.schedules.lookup key = some entry → entry.id = key
  keyed : ∀ key record, index.runRecords.lookup key = some record → record.runId = key
  counted : ∀ key entry, index.schedules.lookup key = some entry → Counted index key entry
  owned : ∀ key record, index.runRecords.lookup key = some record →
    ∃ entry, index.schedules.lookup record.scheduleId = some entry

section Edits
variable {id : String}

structure SameCounts (entry entry' : ScheduleEntry) : Prop where
  id : entry'.id = entry.id
  queued : entry'.state.queuedRunCount = entry.state.queuedRunCount
  running : entry'.state.runningRunCount = entry.state.runningRunCount

theorem Counted.congr (counted : Counted index id entry) (same : SameCounts entry entry')
    (records : other.runRecords = index.runRecords) : Counted other id entry' where
  queued := by
    rw [same.queued, counted.queued, runCount, runCount, records]
  running := by
    rw [same.running, counted.running, runCount, runCount, records]

section
variable (truthful : Truthful index)
include truthful

theorem truthful_put (found : index.schedules.lookup id = some entry)
    (same : SameCounts entry entry') : Truthful (index.putSchedule id entry') where
  named := by
    intro key other present
    rw [SchedulesIndex.putSchedule, lookup_insert] at present
    split at present
    · rename_i here
      cases present
      rw [same.id, here]
      exact truthful.named id entry found
    · exact truthful.named key other present
  keyed := truthful.keyed
  counted := by
    intro key other present
    rw [SchedulesIndex.putSchedule, lookup_insert] at present
    split at present
    · rename_i here
      cases present
      rw [here]
      exact (truthful.counted id entry found).congr same rfl
    · exact (truthful.counted key other present).congr ⟨rfl, rfl, rfl⟩ rfl
  owned := by
    intro key record present
    obtain ⟨owner, there⟩ := truthful.owned key record present
    by_cases here : record.scheduleId = id
    · rw [here]
      exact ⟨entry', lookup_insert_self _ _ _⟩
    · exact ⟨owner, (lookup_insert_other _ _ here).trans there⟩

theorem truthful_map (same : ∀ entry, SameCounts entry (f entry))
    (schedules : other.schedules = index.schedules.mapValues f)
    (records : other.runRecords = index.runRecords) : Truthful other := by
  have origin : ∀ key entry, other.schedules.lookup key = some entry →
      ∃ old, index.schedules.lookup key = some old ∧ f old = entry := by
    intro key entry present
    rw [schedules, lookup_mapValues, Option.map_eq_some_iff] at present
    exact present
  constructor
  · intro key entry present
    obtain ⟨old, there, rfl⟩ := origin key entry present
    rw [(same old).id]
    exact truthful.named key old there
  · rw [records]
    exact truthful.keyed
  · intro key entry present
    obtain ⟨old, there, rfl⟩ := origin key entry present
    exact (truthful.counted key old there).congr (same old) records
  · intro key record present
    rw [records] at present
    obtain ⟨owner, there⟩ := truthful.owned key record present
    refine ⟨f owner, ?_⟩
    rw [schedules, lookup_mapValues, there]
    rfl

theorem runCount_absent (absent : index.schedules.lookup id = none) (status : ScheduleRunStatus) :
    runCount index id status = 0 := by
  rw [runCount_total]
  apply total_zero
  intro key record present
  obtain ⟨owner, there⟩ := truthful.owned key record present
  have other : record.scheduleId ≠ id := by
    intro same
    rw [same, absent] at there
    cases there
  simp [weigh, inStatus, other]

theorem truthful_new (absent : index.schedules.lookup id = none) (named : entry.id = id)
    (queued : entry.state.queuedRunCount = 0) (running : entry.state.runningRunCount = 0) :
    Truthful (index.putSchedule id entry) := by
  have none_ := runCount_absent truthful absent
  have cases_ : ∀ key found, (index.putSchedule id entry).schedules.lookup key = some found →
      (key = id ∧ found = entry) ∨ index.schedules.lookup key = some found := by
    intro key found present
    rw [SchedulesIndex.putSchedule, lookup_insert] at present
    split at present
    · rename_i here
      exact .inl ⟨here, (Option.some.inj present).symm⟩
    · exact .inr present
  constructor
  · intro key found present
    rcases cases_ key found present with ⟨rfl, rfl⟩ | old
    · exact named
    · exact truthful.named key found old
  · exact truthful.keyed
  · intro key found present
    rcases cases_ key found present with ⟨rfl, rfl⟩ | old
    · exact ⟨queued.trans (none_ .queued).symm, running.trans (none_ .running).symm⟩
    · exact (truthful.counted key found old).congr ⟨rfl, rfl, rfl⟩ rfl
  · intro key record present
    obtain ⟨owner, there⟩ := truthful.owned key record present
    have other : record.scheduleId ≠ id := by
      intro same
      rw [same, absent] at there
      cases there
    exact ⟨owner, (lookup_insert_other _ _ other).trans there⟩

end

theorem runCount_moved (held : index.runRecords.lookup runId = some record)
    (status : ScheduleRunStatus) (other : String) :
    runCount (index.putRecord runId record') other status + weigh other status record =
      runCount index other status + weigh other status record' := by
  rw [runCount_total, runCount_total]
  exact total_put (weigh other status) held

theorem truthful_moved (truthful : Truthful index)
    (held : index.runRecords.lookup runId = some record)
    (found : index.schedules.lookup record.scheduleId = some entry)
    (named : entry'.id = entry.id) (keyed : record'.runId = record.runId)
    (owner : record'.scheduleId = record.scheduleId)
    (queued : entry'.state.queuedRunCount + weigh record.scheduleId .queued record =
      entry.state.queuedRunCount + weigh record.scheduleId .queued record')
    (running : entry'.state.runningRunCount + weigh record.scheduleId .running record =
      entry.state.runningRunCount + weigh record.scheduleId .running record') :
    Truthful ((index.putSchedule record.scheduleId entry').putRecord runId record') := by
  have moved : ∀ status other,
      runCount ((index.putSchedule record.scheduleId entry').putRecord runId record') other status +
          weigh other status record =
        runCount index other status + weigh other status record' :=
    fun status other => runCount_moved held status other
  have cases_ : ∀ key entry₁,
      (index.schedules.insert record.scheduleId entry').lookup key = some entry₁ →
      (key = record.scheduleId ∧ entry₁ = entry') ∨
        (key ≠ record.scheduleId ∧ index.schedules.lookup key = some entry₁) := by
    intro key entry₁ present
    rw [lookup_insert] at present
    split at present
    · rename_i here
      exact .inl ⟨here, (Option.some.inj present).symm⟩
    · rename_i elsewhere
      exact .inr ⟨elsewhere, present⟩
  have light : ∀ status other, other ≠ record.scheduleId →
      weigh other status record = 0 ∧ weigh other status record' = 0 := by
    intro status other different
    have fst : record.scheduleId ≠ other := Ne.symm different
    have snd : record'.scheduleId ≠ other := fun same => fst (owner ▸ same)
    simp [weigh, inStatus, fst, snd]
  constructor
  · intro key entry₁ present
    rcases cases_ key entry₁ present with ⟨rfl, rfl⟩ | ⟨_, old⟩
    · rw [named]
      exact truthful.named _ entry found
    · exact truthful.named key entry₁ old
  · intro key found₁ present
    change (index.runRecords.insert runId record').lookup key = some found₁ at present
    rw [lookup_insert] at present
    split at present
    · rename_i here
      cases present
      rw [keyed, here]
      exact truthful.keyed runId record held
    · exact truthful.keyed key found₁ present
  · intro key entry₁ present
    rcases cases_ key entry₁ present with ⟨rfl, rfl⟩ | ⟨different, old⟩
    · have before := truthful.counted _ entry found
      constructor
      · have after := moved .queued record.scheduleId
        have now := before.queued
        omega
      · have after := moved .running record.scheduleId
        have now := before.running
        omega
    · have before := truthful.counted key entry₁ old
      have unmoved : ∀ status,
          runCount ((index.putSchedule record.scheduleId entry').putRecord runId record') key
            status = runCount index key status := by
        intro status
        have after := moved status key
        rw [(light status key different).1, (light status key different).2] at after
        exact after
      exact ⟨before.queued.trans (unmoved .queued).symm, before.running.trans (unmoved .running).symm⟩
  · intro key found₁ present
    change (index.runRecords.insert runId record').lookup key = some found₁ at present
    have kept : ∀ sid, (∃ e, index.schedules.lookup sid = some e) →
        ∃ e, (index.schedules.insert record.scheduleId entry').lookup sid = some e := by
      rintro sid ⟨e, there⟩
      by_cases here : sid = record.scheduleId
      · rw [here]
        exact ⟨entry', lookup_insert_self _ _ _⟩
      · exact ⟨e, (lookup_insert_other _ _ here).trans there⟩
    rw [lookup_insert] at present
    split at present
    · cases present
      rw [owner]
      exact kept _ ⟨entry, found⟩
    · exact kept _ (truthful.owned key found₁ present)

end Edits

/- Records that go. -/

theorem prune_lookup (records : SortedMap String ScheduleRunRecord) (key : String) :
    (pruneRunRecords records).lookup key =
      if key ∈ ((((records.values.map ScheduleRunRecord.scheduleId).dedup).flatMap
        (staleRunRecords records)).map ScheduleRunRecord.runId) then none
      else records.lookup key :=
  lookup_eraseAll _ _ _ _

theorem prune_origin (held : (pruneRunRecords records).lookup key = some record) :
    records.lookup key = some record := by
  rw [prune_lookup] at held
  split at held
  · cases held
  · exact held

theorem stale_terminal {id : String} (stale : record ∈ staleRunRecords records id) :
    record ∈ records.values ∧ record.status.isTerminal = true := by
  have member := mem_of_mem_drop stale
  rw [mem_mergeSort, mem_filter, and_eq_true] at member
  exact ⟨member.1, member.2.1⟩

theorem prune_keeps
    (keyed : ∀ key record, records.lookup key = some record → record.runId = key)
    (held : records.lookup key = some record) (live : record.status.isTerminal = false) :
    (pruneRunRecords records).lookup key = some record := by
  rw [prune_lookup, if_neg, held]
  intro pruned
  obtain ⟨stale, member, same⟩ := mem_map.1 pruned
  obtain ⟨id, _, stales⟩ := mem_flatMap.1 member
  obtain ⟨inside, terminal⟩ := stale_terminal stales
  obtain ⟨other, there⟩ := mem_values.1 inside
  rw [← keyed other stale there, same, held] at there
  cases there
  rw [live] at terminal
  cases terminal

theorem counted_kept {id : String} (counted : Counted index id entry)
    (origin : ∀ key record, kept.runRecords.lookup key = some record →
      index.runRecords.lookup key = some record)
    (stays : ∀ key record, index.runRecords.lookup key = some record → record.scheduleId = id →
      record.status.isTerminal = false → kept.runRecords.lookup key = some record) :
    Counted kept id entry := by
  have same : ∀ status, status.isTerminal = false →
      runCount kept id status = runCount index id status := by
    intro status live
    rw [runCount_total, runCount_total]
    refine total_kept origin ?_
    intro key record held heavy
    have here : inStatus id status record = true := by
      by_contra elsewhere
      exact heavy (if_neg elsewhere)
    rw [inStatus, and_eq_true, decide_eq_true_eq, decide_eq_true_eq] at here
    exact stays key record held here.1 (here.2 ▸ live)
  exact ⟨counted.queued.trans (same .queued rfl).symm, counted.running.trans (same .running rfl).symm⟩

theorem truthful_prune (truthful : Truthful index) :
    Truthful { index with runRecords := pruneRunRecords index.runRecords } where
  named := truthful.named
  keyed := fun key record held => truthful.keyed key record (prune_origin held)
  counted := fun key entry found => counted_kept (truthful.counted key entry found)
    (fun _ _ => prune_origin) (fun _ _ held _ live => prune_keeps truthful.keyed held live)
  owned := fun key record held => truthful.owned key record (prune_origin held)

theorem truthful_delete (truthful : Truthful index) (id : String)
    (expected : Option (Option String)) : Truthful (deleteSchedule id expected index).2 := by
  unfold deleteSchedule
  split
  · exact truthful
  · split
    · exact truthful
    · have present : ∀ key entry, (index.schedules.erase id).lookup key = some entry →
          key ≠ id ∧ index.schedules.lookup key = some entry := by
        intro key entry found
        rw [lookup_erase] at found
        split at found
        · cases found
        · rename_i different
          exact ⟨different, found⟩
      constructor
      · exact fun key entry found => truthful.named key entry (present key entry found).2
      · exact fun key record held =>
          truthful.keyed key record (lookup_retain.1 held).1
      · intro key entry found
        obtain ⟨different, there⟩ := present key entry found
        refine counted_kept (truthful.counted key entry there)
          (fun _ _ held => (lookup_retain.1 held).1) ?_
        intro other record held owner _
        refine lookup_retain.2 ⟨held, ?_⟩
        rw [owner]
        exact decide_eq_true different
      · intro key record held
        obtain ⟨there, other⟩ := lookup_retain.1 held
        obtain ⟨owner, found⟩ := truthful.owned key record there
        exact ⟨owner, (lookup_erase_other _ (of_decide_eq_true other)).trans found⟩

/- Claiming. -/

/-- How many runs a due entry is good for. -/
def dispatchCount (now : Instant) (entry : ScheduleEntry) : Nat :=
  applyOverlapDispatchLimit entry (computeMisfireDispatchCount entry now)

theorem advance_keeps (entry : ScheduleEntry) : SameCounts entry (advance engine now entry) := by
  unfold advance
  split <;> exact ⟨rfl, rfl, rfl⟩

theorem missed_keeps (entry : ScheduleEntry) :
    SameCounts entry (missedOccurrence engine now entry) := by
  have same : SameCounts _ (advance engine now { entry with
      state := recordMissedOccurrence { entry.state with lastScheduledAt := some now } }) :=
    advance_keeps _
  exact ⟨same.id, same.queued, same.running⟩

theorem claimEntry_counts (entry : ScheduleEntry)
    (fits : isDue now entry = true →
      entry.state.queuedRunCount + dispatchCount now entry ≤ u32Max) :
    (claimEntry engine now entry).1.id = entry.id ∧
      (claimEntry engine now entry).1.state.queuedRunCount =
        entry.state.queuedRunCount + (claimEntry engine now entry).2.length ∧
      (claimEntry engine now entry).1.state.runningRunCount = entry.state.runningRunCount := by
  have missed : SameCounts entry (missedOccurrence engine now entry) := missed_keeps entry
  unfold claimEntry
  dsimp only
  split
  · exact ⟨rfl, rfl, rfl⟩
  · rename_i due
    rw [not_eq_true', not_eq_false] at due
    split
    · exact ⟨missed.id, missed.queued, missed.running⟩
    · split
      · exact ⟨missed.id, missed.queued, missed.running⟩
      · exact ⟨rfl, rfl, rfl⟩
      · have moved : SameCounts _ (advance engine now { entry with
            state := { entry.state with
              lastScheduledAt := some now
              queuedRunCount := saturatingAdd u32Max entry.state.queuedRunCount
                (dispatchCount now entry) } }) := advance_keeps _
        refine ⟨moved.id, moved.queued.trans ?_, moved.running⟩
        change min u32Max (entry.state.queuedRunCount + dispatchCount now entry) = _
        rw [length_map, length_range, min_eq_right (fits due)]
        rfl

theorem dispatch_sum (weight : ScheduleEntry → Nat) (entries : List ScheduleEntry) :
    ((entries.flatMap (fun entry => (claimEntry engine now entry).2.map (fun at_ =>
      (entry, at_)))).map (fun dispatch => weight dispatch.1)).sum =
      (entries.map (fun entry => (claimEntry engine now entry).2.length * weight entry)).sum := by
  induction entries with
  | nil => rfl
  | cons entry rest ih =>
    rw [flatMap_cons, map_append, sum_append, ]
    congr 1
    rw [map_map]
    change ((claimEntry engine now entry).2.map (fun _ => weight entry)).sum = _
    rw [map_const', sum_replicate_nat]

def dispatches (engine : TriggerEngine) (now : Instant) (index : SchedulesIndex) :
    List (ScheduleEntry × Instant) :=
  index.schedules.values.flatMap (fun entry =>
    (claimEntry engine now entry).2.map (fun scheduledFor => (entry, scheduledFor)))

theorem claimedRuns_map {β : Type} (f : ScheduleEntry → Instant → β) (g : ClaimedScheduleRun → β)
    (same : ∀ runId entry at_, g (claimedRun runId now entry at_) = f entry at_) :
    (claimedRuns engine now ids index).map g =
      (dispatches engine now index).map (fun dispatch => f dispatch.1 dispatch.2) := by
  change ((dispatches engine now index).zipIdx.map _).map g = _
  rw [map_map]
  have pointwise : ∀ p : (ScheduleEntry × Instant) × Nat,
      (g ∘ fun p => claimedRun (ids p.2) now p.1.1 p.1.2) p =
        ((fun dispatch => f dispatch.1 dispatch.2) ∘ Prod.fst) p :=
    fun p => same _ _ _
  rw [map_congr_left (fun p _ => pointwise p), ← map_map, zipIdx_map_fst]

theorem claimedRuns_ids :
    (claimedRuns engine now ids index).map ClaimedScheduleRun.runId =
      (List.range (claimedRuns engine now ids index).length).map ids := by
  have count : (claimedRuns engine now ids index).length =
      (dispatches engine now index).length := by
    change ((dispatches engine now index).zipIdx.map _).length = _
    rw [length_map, length_zipIdx]
  rw [count]
  change ((dispatches engine now index).zipIdx.map _).map ClaimedScheduleRun.runId = _
  rw [map_map]
  change (dispatches engine now index).zipIdx.map (ids ∘ Prod.snd) = _
  rw [← map_map, zipIdx_map_snd, range_eq_range']

theorem claimed_origin (member : run ∈ claimedRuns engine now ids index) :
    (∃ entry key, index.schedules.lookup key = some entry ∧ run.scheduleId = entry.id ∧
      run.scheduledFor ∈ (claimEntry engine now entry).2) ∧ ∃ i, run.runId = ids i := by
  change run ∈ (dispatches engine now index).zipIdx.map
    (fun p => claimedRun (ids p.2) now p.1.1 p.1.2) at member
  obtain ⟨p, inside, rfl⟩ := mem_map.1 member
  obtain ⟨entry, held, dispatch⟩ := mem_flatMap.1 (fst_mem_of_mem_zipIdx inside)
  obtain ⟨at_, taken, same⟩ := mem_map.1 dispatch
  obtain ⟨key, there⟩ := mem_values.1 held
  rw [← same]
  exact ⟨⟨entry, key, there, rfl, taken⟩, p.2, rfl⟩

theorem claimed_sum (truthful : Truthful index) {id : String}
    (found : index.schedules.lookup id = some entry) (status : ScheduleRunStatus) :
    ((claimedRuns engine now ids index).map (fun run => weigh id status run.record)).sum =
      if status = .queued then (claimEntry engine now entry).2.length else 0 := by
  let weight := fun (entry : ScheduleEntry) =>
    if entry.id = id && ScheduleRunStatus.queued = status then 1 else 0
  have runs : (claimedRuns engine now ids index).map (fun run => weigh id status run.record) =
      (dispatches engine now index).map (fun dispatch => weight dispatch.1) := by
    exact claimedRuns_map (fun entry _ => weight entry) _ (fun _ _ _ => rfl)
  have single : total (fun entry => (claimEntry engine now entry).2.length * weight entry)
      index.schedules = (claimEntry engine now entry).2.length * weight entry := by
    refine total_single found ?_
    intro other held there different
    have elsewhere : held.id ≠ id := by
      rw [truthful.named other held there]
      exact different
    simp [weight, elsewhere]
  rw [runs, dispatches, dispatch_sum]
  change total (fun entry => (claimEntry engine now entry).2.length * weight entry)
    index.schedules = _
  rw [single]
  by_cases queued : status = .queued
  · simp [weight, queued, truthful.named id entry found]
  · simp [weight, queued, Ne.symm queued]

theorem claimed_count (engine : TriggerEngine) (now : Instant) (truthful : Truthful index) (distinct : Function.Injective ids)
    (fresh : ∀ i, index.runRecords.lookup (ids i) = none) {id : String}
    (found : index.schedules.lookup id = some entry) (status : ScheduleRunStatus) :
    runCount { index with
        runRecords := index.runRecords.insertAll ClaimedScheduleRun.runId ClaimedScheduleRun.record
          (claimedRuns engine now ids index) } id status =
      runCount index id status +
        if status = .queued then (claimEntry engine now entry).2.length else 0 := by
  rw [runCount_total, runCount_total, total_insertAll, claimed_sum truthful found]
  · rw [claimedRuns_ids]
    exact nodup_range.map distinct
  · intro run member
    obtain ⟨_, i, same⟩ := claimed_origin member
    rw [same]
    exact fresh i

theorem truthful_claim (truthful : Truthful index) (distinct : Function.Injective ids)
    (fresh : ∀ i, index.runRecords.lookup (ids i) = none)
    (fits : ∀ entry ∈ index.schedules.values, isDue now entry = true →
      entry.state.queuedRunCount + dispatchCount now entry ≤ u32Max) :
    Truthful (claimDueRuns engine now ids index).2 := by
  have claims : Truthful { index with
      schedules := index.schedules.mapValues (fun entry => (claimEntry engine now entry).1)
      runRecords := index.runRecords.insertAll ClaimedScheduleRun.runId ClaimedScheduleRun.record
        (claimedRuns engine now ids index) } := by
    have origin : ∀ key entry,
        (index.schedules.mapValues (fun entry => (claimEntry engine now entry).1)).lookup key =
          some entry → ∃ old, index.schedules.lookup key = some old ∧
            (claimEntry engine now old).1 = entry := by
      intro key entry present
      rw [lookup_mapValues, Option.map_eq_some_iff] at present
      exact present
    have counts : ∀ {key : String} {entry : ScheduleEntry},
        index.schedules.lookup key = some entry →
        (claimEntry engine now entry).1.id = entry.id ∧
          (claimEntry engine now entry).1.state.queuedRunCount =
            entry.state.queuedRunCount + (claimEntry engine now entry).2.length ∧
          (claimEntry engine now entry).1.state.runningRunCount = entry.state.runningRunCount :=
      fun {key entry} found =>
        claimEntry_counts entry (fits entry (mem_values.2 ⟨key, found⟩))
    constructor
    · intro key entry present
      obtain ⟨old, found, rfl⟩ := origin key entry present
      rw [(counts found).1]
      exact truthful.named key old found
    · intro key record present
      rcases insertAll_origin _ _ present with before | ⟨run, _, rfl, rfl⟩
      · exact truthful.keyed key record before
      · rfl
    · intro key entry present
      obtain ⟨old, found, rfl⟩ := origin key entry present
      obtain ⟨_, queued, running⟩ := counts found
      have known := truthful.counted key old found
      constructor
      · have added := claimed_count engine now truthful distinct fresh found .queued
        rw [queued, known.queued]
        exact added.symm
      · have added := claimed_count engine now truthful distinct fresh found .running
        rw [running, known.running]
        exact added.symm
    · intro key record present
      have kept : ∀ sid, (∃ entry, index.schedules.lookup sid = some entry) →
          ∃ entry, (index.schedules.mapValues
            (fun entry => (claimEntry engine now entry).1)).lookup sid = some entry := by
        rintro sid ⟨entry, found⟩
        rw [lookup_mapValues, found]
        exact ⟨_, rfl⟩
      rcases insertAll_origin _ _ present with before | ⟨run, member, rfl, rfl⟩
      · exact kept _ (truthful.owned key record before)
      · obtain ⟨⟨entry, id, found, same, _⟩, _⟩ := claimed_origin member
        change ∃ owner, (index.schedules.mapValues _).lookup run.scheduleId = some owner
        rw [same, truthful.named id entry found]
        exact kept _ ⟨entry, found⟩
  exact truthful_prune claims

end Schedules
