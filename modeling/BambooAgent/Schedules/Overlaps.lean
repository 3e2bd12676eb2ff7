import BambooAgent.Schedules.Counters

/- Runs of the store whose calls come in the order of the manager: the counters stay truthful, and
   the overlap policies are kept. -/
namespace Schedules
open SortedMaps Tallies Interleavings SortedMap Option

/- What a call has to find. -/

def recordIn (index : SchedulesIndex) (scheduleId runId : String) (status : ScheduleRunStatus) :
    Bool :=
  (index.runRecords.lookup runId).any (inStatus scheduleId status)

/-- A run of the schedule may start: it is the first one, if the policy is to skip. -/
def startable (index : SchedulesIndex) (scheduleId : String) : Bool :=
  (index.schedules.lookup scheduleId).all (fun entry =>
    entry.state.runningRunCount < u32Max &&
      (entry.overlapPolicy ≠ .skip || entry.state.runningRunCount = 0))

def inOrder (index : SchedulesIndex) : Operation → Bool
  | .claimDueRuns _ now => index.schedules.values.all (fun entry => !isDue now entry ||
      entry.state.queuedRunCount + dispatchCount now entry ≤ u32Max)
  | .createRunNow id expectedProjectId expectedRunConfig =>
    (index.schedules.lookup id).all (fun entry =>
      scopeDiffers expectedProjectId entry.runConfig ||
        expectedRunConfig.any (fun expected => entry.runConfig ≠ expected))
  | .markRunStarted scheduleId runId =>
    recordIn index scheduleId runId .queued && startable index scheduleId
  | .startWorkflowOccurrence scheduleId runId =>
    !recordIn index scheduleId runId .queued || startable index scheduleId
  | .bindRunSession _ runId _ => index.runRecords.contains runId
  | .markRunTerminal scheduleId runId status _ =>
    recordIn index scheduleId runId .running && accountable status
  | .markRunDequeuedWithoutStart scheduleId runId _ => recordIn index scheduleId runId .queued
  | _ => true

/- What an edit does to the counters of a schedule. -/

structure PacedEntry (entry entry' : ScheduleEntry) : Prop where
  running : entry'.state.runningRunCount ≤ entry.state.runningRunCount ∨
    (entry'.state.runningRunCount ≤ entry.state.runningRunCount + 1 ∧
      (entry.overlapPolicy = .skip → entry.state.runningRunCount = 0))
  queued : entry'.state.queuedRunCount ≤ entry.state.queuedRunCount ∨
    (entry.overlapPolicy = .queueOne →
      entry.state.queuedRunCount = 0 ∧ entry'.state.queuedRunCount ≤ 1)

/-- Every schedule is new, or has gone on at the pace of its policy. -/
def Paced (index index' : SchedulesIndex) : Prop :=
  ∀ id entry', index'.schedules.lookup id = some entry' →
    (entry'.state.queuedRunCount = 0 ∧ entry'.state.runningRunCount = 0) ∨
    ∃ entry, index.schedules.lookup id = some entry ∧ PacedEntry entry entry'

theorem pacedEntry_of_le (running : entry'.state.runningRunCount ≤ entry.state.runningRunCount)
    (queued : entry'.state.queuedRunCount ≤ entry.state.queuedRunCount) :
    PacedEntry entry entry' := ⟨.inl running, .inl queued⟩

theorem paced_refl (same : index'.schedules = index.schedules) : Paced index index' := by
  intro id entry' found
  rw [same] at found
  exact .inr ⟨entry', found, pacedEntry_of_le le_rfl le_rfl⟩

theorem paced_put {id : String} (found : index.schedules.lookup id = some entry)
    (paced : PacedEntry entry entry') : Paced index (index.putSchedule id entry') := by
  intro key other present
  rw [SchedulesIndex.putSchedule, lookup_insert] at present
  split at present
  · rename_i here
    cases present
    exact .inr ⟨entry, here ▸ found, paced⟩
  · exact .inr ⟨other, present, pacedEntry_of_le le_rfl le_rfl⟩

theorem claimEntry_paced (engine : TriggerEngine) (now : Instant) (entry : ScheduleEntry)
    (fits : isDue now entry = true →
      entry.state.queuedRunCount + dispatchCount now entry ≤ u32Max) :
    PacedEntry entry (claimEntry engine now entry).1 := by
  obtain ⟨_, queued, running⟩ : (claimEntry engine now entry).1.id = entry.id ∧ _ ∧ _ :=
    claimEntry_counts entry fits
  refine ⟨.inl (le_of_eq running), ?_⟩
  by_cases none_ : (claimEntry engine now entry).2 = []
  · rw [none_] at queued
    exact .inl (le_of_eq queued)
  · refine .inr (fun policy => ?_)
    rw [queued]
    unfold claimEntry at none_ ⊢
    dsimp only at none_
    split at none_
    · exact absurd rfl none_
    · rename_i due
      rw [if_neg due]
      split at none_
      · exact absurd rfl none_
      · rename_i dispatches_
        rw [if_neg dispatches_]
        split at none_
        · exact absurd rfl none_
        · exact absurd rfl none_
        · rename_i waits
          have free : overlapBlocksDispatch entry = false :=
            Bool.eq_false_of_not_eq_true (fun blocked => waits policy blocked)
          simp only [List.length_map, List.length_range]
          unfold overlapBlocksDispatch at free
          unfold applyOverlapDispatchLimit
          rw [policy] at free ⊢
          dsimp only at ⊢
          have zero : ¬ 0 < entry.state.queuedRunCount := of_decide_eq_false free
          omega

/- Edits in the order of the manager. -/

/-- The index is truthful, and its keys are identifiers that have been made. -/
structure Kept (uuids : Uuids) (minted : Nat) (index : SchedulesIndex) : Prop where
  truthful : Truthful index
  schedules : ∀ key entry, index.schedules.lookup key = some entry →
    ∃ call < minted, ∃ place, key = uuids.mint call place
  records : ∀ key record, index.runRecords.lookup key = some record →
    ∃ call < minted, ∃ place, key = uuids.mint call place

structure Orderly (uuids : Uuids) (minted : Nat) (index index' : SchedulesIndex) : Prop where
  kept : Kept uuids minted index'
  paced : Paced index index'

section Edits
variable {index : SchedulesIndex}

section
variable (kept : Kept uuids minted index)
include kept

theorem kept_later : Kept uuids (minted + 1) index where
  truthful := kept.truthful
  schedules := by
    intro key entry found
    obtain ⟨call, before, place, same⟩ := kept.schedules key entry found
    exact ⟨call, by omega, place, same⟩
  records := by
    intro key record held
    obtain ⟨call, before, place, same⟩ := kept.records key record held
    exact ⟨call, by omega, place, same⟩

theorem fresh_schedule (place : Nat) : index.schedules.lookup (uuids.mint minted place) = none := by
  cases found : index.schedules.lookup (uuids.mint minted place) with
  | none => rfl
  | some entry =>
    obtain ⟨call, before, other, same⟩ := kept.schedules _ entry found
    have := (uuids.distinct _ _ _ _ same).1
    omega

theorem fresh_record (place : Nat) : index.runRecords.lookup (uuids.mint minted place) = none := by
  cases held : index.runRecords.lookup (uuids.mint minted place) with
  | none => rfl
  | some record =>
    obtain ⟨call, before, other, same⟩ := kept.records _ record held
    have := (uuids.distinct _ _ _ _ same).1
    omega

theorem orderly_same : Orderly uuids (minted + 1) index index :=
  ⟨kept_later kept, paced_refl rfl⟩

theorem orderly_put {id : String} (found : index.schedules.lookup id = some entry)
    (same : SameCounts entry entry') :
    Orderly uuids (minted + 1) index (index.putSchedule id entry') where
  kept := by
    refine ⟨truthful_put kept.truthful found same, ?_, (kept_later kept).records⟩
    intro key other present
    rw [SchedulesIndex.putSchedule, lookup_insert] at present
    split at present
    · rename_i here
      exact (kept_later kept).schedules key entry (here ▸ found)
    · exact (kept_later kept).schedules key other present
  paced := paced_put found
    (pacedEntry_of_le (le_of_eq same.running) (le_of_eq same.queued))

theorem orderly_new (place : Nat) (named : entry.id = uuids.mint minted place)
    (queued : entry.state.queuedRunCount = 0) (running : entry.state.runningRunCount = 0) :
    Orderly uuids (minted + 1) index (index.putSchedule (uuids.mint minted place) entry) where
  kept := by
    refine ⟨truthful_new kept.truthful (fresh_schedule kept place) named queued running, ?_,
      (kept_later kept).records⟩
    intro key other present
    rw [SchedulesIndex.putSchedule, lookup_insert] at present
    split at present
    · rename_i here
      exact ⟨minted, Nat.lt_succ_self _, place, here⟩
    · exact (kept_later kept).schedules key other present
  paced := by
    intro key other present
    rw [SchedulesIndex.putSchedule, lookup_insert] at present
    split at present
    · cases present
      exact .inl ⟨queued, running⟩
    · exact .inr ⟨other, present, pacedEntry_of_le le_rfl le_rfl⟩

theorem orderly_moved (held : index.runRecords.lookup runId = some record)
    (found : index.schedules.lookup record.scheduleId = some entry) (named : entry'.id = entry.id)
    (keyed : record'.runId = record.runId) (owner : record'.scheduleId = record.scheduleId)
    (queued : entry'.state.queuedRunCount + weigh record.scheduleId .queued record =
      entry.state.queuedRunCount + weigh record.scheduleId .queued record')
    (running : entry'.state.runningRunCount + weigh record.scheduleId .running record =
      entry.state.runningRunCount + weigh record.scheduleId .running record')
    (paced : PacedEntry entry entry') :
    Orderly uuids (minted + 1) index
      ((index.putSchedule record.scheduleId entry').putRecord runId record') where
  kept := by
    refine ⟨truthful_moved kept.truthful held found named keyed owner queued running, ?_, ?_⟩
    · intro key other present
      change (index.schedules.insert record.scheduleId entry').lookup key = some other at present
      rw [lookup_insert] at present
      split at present
      · rename_i here
        exact (kept_later kept).schedules key entry (here ▸ found)
      · exact (kept_later kept).schedules key other present
    · intro key other present
      change (index.runRecords.insert runId record').lookup key = some other at present
      rw [lookup_insert] at present
      split at present
      · rename_i here
        exact (kept_later kept).records key record (here ▸ held)
      · exact (kept_later kept).records key other present
  paced := paced_put found paced

theorem orderly_record (held : index.runRecords.lookup runId = some record)
    (keyed : record'.runId = record.runId) (owner : record'.scheduleId = record.scheduleId)
    (status : record'.status = record.status) :
    Orderly uuids (minted + 1) index (index.putRecord runId record') := by
  obtain ⟨entry, found⟩ := kept.truthful.owned runId record held
  have same : index.putSchedule record.scheduleId entry = index := by
    unfold SchedulesIndex.putSchedule
    rw [insert_lookup_self found]
  have weighs : ∀ which, weigh record.scheduleId which record' =
      weigh record.scheduleId which record := by
    intro which
    unfold weigh inStatus
    rw [owner, status]
  have moved : Orderly uuids (minted + 1) index
      ((index.putSchedule record.scheduleId entry).putRecord runId record') :=
    orderly_moved kept held found rfl keyed owner (by rw [weighs]) (by rw [weighs])
      (pacedEntry_of_le le_rfl le_rfl)
  rwa [same] at moved

end

theorem recordIn_spec (there : recordIn index scheduleId runId status = true) :
    ∃ record, index.runRecords.lookup runId = some record ∧ record.scheduleId = scheduleId ∧
      record.status = status := by
  obtain ⟨record, held, inside⟩ := (any_eq_true _ _).1 there
  rw [inStatus, Bool.and_eq_true, decide_eq_true_eq, decide_eq_true_eq] at inside
  exact ⟨record, held, inside⟩

theorem weigh_eq {id : String} (owner : record.scheduleId = id) (status : ScheduleRunStatus) :
    weigh id status record = if record.status = status then 1 else 0 := by
  simp [weigh, inStatus, owner]

theorem paced_started (can : startable index entry.id = true)
    (found : index.schedules.lookup entry.id = some entry) :
    (entryStarted clock entry).state.runningRunCount = entry.state.runningRunCount + 1 ∧
      PacedEntry entry (entryStarted clock entry) := by
  unfold startable at can
  rw [found, all_some, Bool.and_eq_true, decide_eq_true_eq, Bool.or_eq_true,
    decide_eq_true_eq, decide_eq_true_eq] at can
  have grows : (entryStarted clock entry).state.runningRunCount =
      entry.state.runningRunCount + 1 := by
    change min u32Max (entry.state.runningRunCount + 1) = _
    omega
  refine ⟨grows, .inr ⟨le_of_eq grows, ?_⟩, .inl (Nat.sub_le _ _)⟩
  intro skip
  exact can.2.resolve_left (fun other => other skip)

section
variable (kept : Kept uuids minted index)
include kept

theorem orderly_started (held : index.runRecords.lookup runId = some record)
    (owner : record.scheduleId = scheduleId) (waiting : record.status = .queued)
    (can : startable index scheduleId = true) :
    Orderly uuids (minted + 1) index
      ((index.updateSchedule scheduleId (entryStarted clock)).putRecord runId
        (updateRunRecordStarted clock record)) := by
  obtain ⟨entry, found⟩ := kept.truthful.owned runId record held
  have named := kept.truthful.named _ entry found
  subst owner
  obtain ⟨grows, paced⟩ : (entryStarted clock entry).state.runningRunCount =
      entry.state.runningRunCount + 1 ∧ PacedEntry entry (entryStarted clock entry) :=
    paced_started (named ▸ can) (named ▸ found)
  have update : index.updateSchedule record.scheduleId (entryStarted clock) =
      index.putSchedule record.scheduleId (entryStarted clock entry) := by
    unfold SchedulesIndex.updateSchedule
    rw [found]
  rw [update]
  have counted : 1 ≤ entry.state.queuedRunCount := by
    have weight : weigh record.scheduleId .queued record ≤
        total (weigh record.scheduleId .queued) index.runRecords := weight_le_total _ held
    rw [weigh_eq rfl, if_pos waiting, ← runCount_total] at weight
    exact weight.trans (le_of_eq (kept.truthful.counted _ entry found).queued.symm)
  have after : ∀ status, weigh record.scheduleId status (updateRunRecordStarted clock record) =
      if ScheduleRunStatus.running = status then 1 else 0 := fun status => weigh_eq rfl status
  refine orderly_moved kept held found rfl rfl rfl ?_ ?_ paced
  · rw [weigh_eq rfl, after, if_pos waiting, if_neg nofun]
    change entry.state.queuedRunCount - 1 + 1 = _
    omega
  · rw [weigh_eq rfl, after, if_neg (by rw [waiting]; nofun), if_pos rfl, grows]

theorem orderly_ended (held : index.runRecords.lookup runId = some record)
    (found : index.schedules.lookup record.scheduleId = some entry) (named : entry'.id = entry.id)
    (keyed : record'.runId = record.runId) (owner : record'.scheduleId = record.scheduleId)
    (ends : record'.status.isTerminal = true)
    (queued : entry'.state.queuedRunCount =
      entry.state.queuedRunCount - if record.status = .queued then 1 else 0)
    (running : entry'.state.runningRunCount =
      entry.state.runningRunCount - if record.status = .running then 1 else 0) :
    Orderly uuids (minted + 1) index
      ((index.putSchedule record.scheduleId entry').putRecord runId record') := by
  have counted := kept.truthful.counted _ entry found
  have held_ : ∀ status, (if record.status = status then 1 else 0) ≤
      runCount index record.scheduleId status := by
    intro status
    have weight : weigh record.scheduleId status record ≤
        total (weigh record.scheduleId status) index.runRecords := weight_le_total _ held
    rwa [weigh_eq rfl, ← runCount_total] at weight
  have gone : ∀ status : ScheduleRunStatus, status.isTerminal = false → record'.status ≠ status := by
    rintro status live rfl
    rw [ends] at live
    cases live
  refine orderly_moved kept held found named keyed owner ?_ ?_
    (pacedEntry_of_le (running ▸ Nat.sub_le _ _) (queued ▸ Nat.sub_le _ _))
  · have enough := held_ .queued
    have now := counted.queued
    rw [weigh_eq rfl, weigh_eq owner, if_neg (gone .queued rfl)]
    omega
  · have enough := held_ .running
    have now := counted.running
    rw [weigh_eq rfl, weigh_eq owner, if_neg (gone .running rfl)]
    omega

theorem orderly_claim (fits : inOrder index (.claimDueRuns engine now) = true) :
    Orderly uuids (minted + 1) index (claimDueRuns engine now (uuids.mint minted) index).2 := by
  have room : ∀ entry ∈ index.schedules.values, isDue now entry = true →
      entry.state.queuedRunCount + dispatchCount now entry ≤ u32Max := by
    intro entry member due
    have one := List.all_eq_true.1 fits entry member
    rw [due, ] at one
    exact of_decide_eq_true one
  have origin : ∀ key entry',
      (claimDueRuns engine now (uuids.mint minted) index).2.schedules.lookup key = some entry' →
      ∃ entry, index.schedules.lookup key = some entry ∧
        (claimEntry engine now entry).1 = entry' := by
    intro key entry' found
    change (index.schedules.mapValues _).lookup key = _ at found
    rw [lookup_mapValues, map_eq_some_iff] at found
    exact found
  refine ⟨⟨truthful_claim kept.truthful ?_ (fresh_record kept) room, ?_, ?_⟩, ?_⟩
  · exact fun a b same => (uuids.distinct _ _ _ _ same).2
  · intro key entry' found
    obtain ⟨entry, there, _⟩ := origin key entry' found
    exact (kept_later kept).schedules key entry there
  · intro key record held
    rcases insertAll_origin _ _ (prune_origin held) with before | ⟨run, member, rfl, rfl⟩
    · exact (kept_later kept).records key record before
    · obtain ⟨_, i, same⟩ := claimed_origin member
      exact ⟨minted, Nat.lt_succ_self _, i, same⟩
  · intro key entry' found
    obtain ⟨entry, there, rfl⟩ := origin key entry' found
    exact .inr ⟨entry, there, claimEntry_paced engine now entry
      (room entry (mem_values.2 ⟨key, there⟩))⟩

theorem orderly_delete (id : String) (expected : Option (Option String)) :
    Orderly uuids (minted + 1) index (deleteSchedule id expected index).2 := by
  have truthful := truthful_delete kept.truthful id expected
  unfold deleteSchedule at truthful ⊢
  split at truthful
  · exact orderly_same kept
  · split at truthful
    · rename_i other
      rw [if_pos other]
      exact orderly_same kept
    · rename_i same
      rw [if_neg same]
      have present : ∀ key entry, (index.schedules.erase id).lookup key = some entry →
          index.schedules.lookup key = some entry := by
        intro key entry found
        rw [lookup_erase] at found
        split at found
        · cases found
        · exact found
      refine ⟨⟨truthful, fun key entry found => ?_, fun key record held => ?_⟩, ?_⟩
      · exact (kept_later kept).schedules key entry (present key entry found)
      · exact (kept_later kept).records key record (lookup_retain.1 held).1
      · exact fun key entry found => .inr ⟨entry, present key entry found,
          pacedEntry_of_le le_rfl le_rfl⟩

theorem orderly_create (name : String) (enabled : Bool) (runConfig : ScheduleRunConfig)
    (definition : ScheduleDefinitionChanges) :
    Orderly uuids (minted + 1) index
      (createSchedule engine clock (uuids.mint minted 0) name enabled runConfig definition index).2
    := by
  unfold createSchedule
  split
  · exact orderly_same kept
  · dsimp only
    split
    · exact orderly_same kept
    · exact orderly_new kept 0 rfl rfl rfl

theorem orderly_patch (id : String) (name : Option String) (enabled : Option Bool)
    (runConfig : Option ScheduleRunConfig) (definition : ScheduleDefinitionChanges)
    (expected : Option (Option String)) :
    Orderly uuids (minted + 1) index
      (patchSchedule engine clock id name enabled runConfig definition expected index).2 := by
  unfold patchSchedule
  split
  · exact orderly_same kept
  · rename_i existing found
    split
    · exact orderly_same kept
    · dsimp only
      split
      · exact orderly_put kept found ⟨rfl, rfl, rfl⟩
      · exact orderly_put kept found ⟨rfl, rfl, rfl⟩

theorem orderly_terminal
    (fine : inOrder index (.markRunTerminal scheduleId runId status outcomeReason) = true) :
    Orderly uuids (minted + 1) index
      (markRunTerminal clock scheduleId runId status outcomeReason index).2 := by
  simp only [inOrder, Bool.and_eq_true] at fine
  obtain ⟨record, held, rfl, running⟩ := recordIn_spec fine.1
  obtain ⟨entry, found⟩ := kept.truthful.owned runId record held
  have ends : status.isTerminal = true := by
    cases status <;> first | rfl | cases fine.2
  unfold markRunTerminal
  rw [found]
  dsimp only
  rw [accountable_ok fine.2 clock entry]
  change Orderly uuids (minted + 1) index (SchedulesIndex.putRecord runId
    (updateRunRecordTerminal status clock outcomeReason
      ((index.runRecords.lookup runId).getD _)) _)
  rw [held]
  obtain ⟨id, _, _, _, _, queued, ended⟩ := applyTerminal_keeps status clock entry
  refine orderly_ended kept held found id rfl rfl ends ?_ ?_
  · rw [running]
    exact queued
  · rw [if_pos running]
    exact ended

theorem orderly_dequeued (fine : recordIn index scheduleId runId .queued = true) :
    Orderly uuids (minted + 1) index
      (markRunDequeuedWithoutStart clock scheduleId runId outcomeReason index).2 := by
  obtain ⟨record, held, rfl, waiting⟩ := recordIn_spec fine
  obtain ⟨entry, found⟩ := kept.truthful.owned runId record held
  have update : index.updateSchedule record.scheduleId (entryDequeued clock) =
      index.putSchedule record.scheduleId (entryDequeued clock entry) := by
    unfold SchedulesIndex.updateSchedule
    rw [found]
  unfold markRunDequeuedWithoutStart
  rw [update]
  change Orderly uuids (minted + 1) index (SchedulesIndex.putRecord runId
    (updateRunRecordTerminal .missed clock outcomeReason
      ((index.runRecords.lookup runId).getD _)) _)
  rw [held]
  refine orderly_ended kept held found rfl rfl rfl rfl ?_ ?_
  · rw [if_pos waiting]
    rfl
  · rw [waiting]
    rfl

end

theorem updateSchedule_records (id : String) (update : ScheduleEntry → ScheduleEntry) :
    (index.updateSchedule id update).runRecords = index.runRecords := by
  unfold SchedulesIndex.updateSchedule
  split <;> rfl

theorem put_update_comm (id runId : String) (update : ScheduleEntry → ScheduleEntry)
    (record : ScheduleRunRecord) :
    (index.putRecord runId record).updateSchedule id update =
      (index.updateSchedule id update).putRecord runId record := by
  have same : (index.putRecord runId record).schedules.lookup id = index.schedules.lookup id := rfl
  unfold SchedulesIndex.updateSchedule
  rw [same]
  cases index.schedules.lookup id <;> rfl

section
variable (kept : Kept uuids minted index)
include kept

theorem orderly_edit (operation : Operation) (fine : inOrder index operation = true) :
    Orderly uuids (minted + 1) index (operation.edit engine clock (uuids.mint minted) index).2 := by
  cases operation with
  | createSchedule name enabled runConfig definition =>
    exact orderly_create kept name enabled runConfig definition
  | patchSchedule id name enabled runConfig definition expected =>
    exact orderly_patch kept id name enabled runConfig definition expected
  | deleteSchedule id expected => exact orderly_delete kept id expected
  | claimDueRuns engine now => exact orderly_claim kept fine
  | createRunNow id expected config =>
    change Orderly uuids (minted + 1) index
      (createRunNow clock (uuids.mint minted 0) id expected config index).2
    unfold createRunNow
    simp only [inOrder] at fine
    split
    · exact orderly_same kept
    · rename_i entry found
      rw [found, all_some] at fine
      rw [if_pos fine]
      exact orderly_same kept
  | markRunStarted scheduleId runId =>
    simp only [inOrder, Bool.and_eq_true] at fine
    obtain ⟨record, held, owner, waiting⟩ := recordIn_spec fine.1
    have there : (index.updateSchedule scheduleId (entryStarted clock)).runRecords.lookup runId =
        some record := by
      rw [updateSchedule_records]
      exact held
    change Orderly uuids (minted + 1) index
      (SchedulesIndex.putRecord runId (updateRunRecordStarted clock
        (((index.updateSchedule scheduleId (entryStarted clock)).runRecords.lookup runId).getD _))
        (index.updateSchedule scheduleId (entryStarted clock)))
    rw [there]
    exact orderly_started kept held owner waiting fine.2
  | startWorkflowOccurrence scheduleId runId =>
    change Orderly uuids (minted + 1) index
      (startWorkflowOccurrence clock scheduleId runId index).2
    simp only [inOrder] at fine
    unfold startWorkflowOccurrence
    split
    · exact orderly_same kept
    · rename_i record held
      split
      · exact orderly_same kept
      · rename_i matches_
        simp only [Bool.or_eq_true, decide_eq_true_eq, not_or, Decidable.not_not] at matches_
        obtain ⟨owner, waiting⟩ := matches_
        have there : recordIn index scheduleId runId .queued = true := by
          simp [recordIn, held, inStatus, owner, waiting]
        rw [there, ] at fine
        have started : Orderly uuids (minted + 1) index
            ((index.updateSchedule scheduleId (entryStarted clock)).putRecord runId
              (updateRunRecordStarted clock record)) :=
          orderly_started kept held owner waiting fine
        rwa [put_update_comm]
  | bindRunWorkflow scheduleId runId workflowRunId =>
    change Orderly uuids (minted + 1) index
      (bindRunWorkflow scheduleId runId workflowRunId index).2
    unfold bindRunWorkflow
    split
    · exact orderly_same kept
    · rename_i record found
      exact orderly_record kept (filter_eq_some_iff.1 found).1 rfl rfl rfl
  | noteWorkflowUnknown scheduleId runId reason =>
    change Orderly uuids (minted + 1) index (noteWorkflowUnknown scheduleId runId reason index).2
    unfold noteWorkflowUnknown
    split
    · exact orderly_same kept
    · rename_i record found
      exact orderly_record kept (filter_eq_some_iff.1 found).1 rfl rfl rfl
  | bindRunSession scheduleId runId sessionId =>
    obtain ⟨record, held⟩ := contains_iff.1 fine
    change Orderly uuids (minted + 1) index (SchedulesIndex.putRecord runId
      { (index.runRecords.lookup runId).getD _ with sessionId := some sessionId } index)
    rw [held]
    exact orderly_record kept held rfl rfl rfl
  | markRunTerminal scheduleId runId status outcomeReason => exact orderly_terminal kept fine
  | markRunDequeuedWithoutStart scheduleId runId outcomeReason =>
    exact orderly_dequeued kept fine

theorem kept_congr (schedules : other.schedules = index.schedules)
    (records : other.runRecords = index.runRecords) : Kept uuids minted other := by
  obtain ⟨version, updatedAt, _, _⟩ := other
  cases schedules
  cases records
  exact ⟨⟨kept.truthful.named, kept.truthful.keyed,
    fun key entry found => (kept.truthful.counted key entry found).congr ⟨rfl, rfl, rfl⟩ rfl,
    kept.truthful.owned⟩, kept.schedules, kept.records⟩

theorem kept_map (same : ∀ entry, SameCounts entry (f entry))
    (schedules : other.schedules = index.schedules.mapValues f)
    (records : other.runRecords = index.runRecords) : Kept uuids minted other where
  truthful := truthful_map kept.truthful same schedules records
  schedules := by
    intro key entry found
    rw [schedules, lookup_mapValues, map_eq_some_iff] at found
    obtain ⟨old, there, _⟩ := found
    exact kept.schedules key old there
  records := by
    rw [records]
    exact kept.records

end

theorem reread_counts (entry : ScheduleEntry) : SameCounts entry entry.reread := by
  unfold ScheduleEntry.reread ScheduleEntry.fromCompat
  split
  · rename_i read found
    split at found
    · cases found
      exact ⟨rfl, rfl, rfl⟩
    · cases found
  · exact ⟨rfl, rfl, rfl⟩

end Edits

/- Whole stores. -/

/-- Both the index and what the file holds are truthful. -/
structure KeptStore (uuids : Uuids) (store : ScheduleStore) : Prop where
  index : Kept uuids store.minted store.index
  file : Kept uuids store.minted store.file

theorem kept_reload (kept : KeptStore uuids store) (now : Instant) :
    KeptStore uuids (store.reload now) := by
  have read : Kept uuids store.minted store.file.reread :=
    kept_map kept.file reread_counts rfl rfl
  have loaded : Kept uuids store.minted (normalizeLoadedIndex now store.file.reread).1 :=
    kept_map (f := normalizeLoadedScheduleEntry) read (fun entry => ⟨rfl, rfl, rfl⟩) rfl rfl
  refine ⟨loaded, ?_⟩
  change Kept uuids store.minted (if (normalizeLoadedIndex now store.file.reread).2 = true
    then (normalizeLoadedIndex now store.file.reread).1 else store.file.reread)
  split
  · exact loaded
  · exact read

/-- A call leaves the index as the edit makes it or as it was, and writes it or not. -/
theorem perform_cases (uuids : Uuids) (engine : TriggerEngine) (store : ScheduleStore)
    (call : Call) :
    let edited := (call.operation.edit engine call.clock (uuids.mint store.minted) store.index).2
    let after := (store.perform engine uuids call).2
    after.minted = store.minted + 1 ∧
      ((after.index.schedules = edited.schedules ∧ after.index.runRecords = edited.runRecords) ∨
        after.index = store.index) ∧
      (after.file = after.index ∨ after.file = store.file) := by
  have index : ∀ clock writes (edit : Edit),
      let after := (ScheduleStore.updateIndex clock writes edit
        { store with minted := store.minted + 1 }).2
      after.minted = store.minted + 1 ∧
        ((after.index.schedules = (edit store.index).2.schedules ∧
          after.index.runRecords = (edit store.index).2.runRecords) ∨
          after.index = store.index) ∧
        (after.file = after.index ∨ after.file = store.file) := by
    intro clock writes edit
    unfold ScheduleStore.updateIndex
    split
    · rename_i made
      rw [made]
      exact ⟨rfl, .inl ⟨rfl, rfl⟩, .inr rfl⟩
    · rename_i made
      rw [made]
      split
      · exact ⟨rfl, .inl ⟨rfl, rfl⟩, .inl rfl⟩
      · exact ⟨rfl, .inl ⟨rfl, rfl⟩, .inr rfl⟩
  obtain ⟨operation, clock, writes⟩ := call
  cases operation with
  | claimDueRuns engine now =>
    unfold ScheduleStore.perform
    dsimp only
    split
    · exact index _ _ _
    · exact ⟨rfl, .inr rfl, .inr rfl⟩
  | bindRunWorkflow scheduleId runId workflowRunId =>
    unfold ScheduleStore.perform
    dsimp only
    unfold ScheduleStore.updateCopy
    split
    · exact ⟨rfl, .inr rfl, .inr rfl⟩
    · rename_i made
      rw [made]
      split
      · exact ⟨rfl, .inl ⟨rfl, rfl⟩, .inl rfl⟩
      · exact ⟨rfl, .inr rfl, .inr rfl⟩
  | _ => exact index _ _ _

theorem kept_perform (kept : KeptStore uuids store) (call : Call)
    (fine : inOrder store.index call.operation = true) :
    KeptStore uuids (store.perform engine uuids call).2 ∧
      Paced store.index (store.perform engine uuids call).2.index := by
  obtain ⟨minted, index, file⟩ := perform_cases uuids engine store call
  have orderly : Orderly uuids (store.minted + 1) store.index
      (call.operation.edit engine call.clock (uuids.mint store.minted) store.index).2 :=
    orderly_edit kept.index call.operation fine
  have edited : Kept uuids (store.minted + 1) (store.perform engine uuids call).2.index ∧
      Paced store.index (store.perform engine uuids call).2.index := by
    rcases index with ⟨schedules, records⟩ | same
    · refine ⟨kept_congr orderly.kept schedules records, ?_⟩
      intro id entry found
      exact orderly.paced id entry (schedules ▸ found)
    · rw [same]
      exact ⟨kept_later kept.index, paced_refl rfl⟩
  refine ⟨⟨minted ▸ edited.1, ?_⟩, edited.2⟩
  rcases file with same | same
  · rw [same, minted]
    exact edited.1
  · rw [same, minted]
    exact kept_later kept.file

/- Runs of the store from its first start. -/

section Runs
variable (engine : TriggerEngine) (uuids : Uuids)

def ScheduleStore.next (store : ScheduleStore) : Event → ScheduleStore
  | .call call => (store.perform engine uuids call).2
  | .reload clock => store.reload clock

/-- The calls come in the order of the manager: runs are claimed, started once, and ended. -/
def eventInOrder (store : ScheduleStore) : Event → Bool
  | .call call => inOrder store.index call.operation
  | .reload _ => true

def hasPolicy (id : String) (policy : OverlapPolicy) (store : ScheduleStore) : Prop :=
  ∀ entry, store.index.schedules.lookup id = some entry → entry.overlapPolicy = policy

variable {engine uuids}

theorem kept_step (event : Event) (fine : eventInOrder store event = true)
    (kept : KeptStore uuids store) : KeptStore uuids (store.next engine uuids event) := by
  cases event with
  | call call => exact (kept_perform kept call fine).1
  | reload clock => exact kept_reload kept clock

/-- A bound on a schedule, in memory and in the file. -/
structure Within (id : String) (small : ScheduleEntry → Prop) (store : ScheduleStore) : Prop where
  index : ∀ entry, store.index.schedules.lookup id = some entry → small entry
  file : ∀ entry, store.file.schedules.lookup id = some entry → small entry

theorem within_step {id : String}
    (counts : ∀ entry entry', SameCounts entry entry' → small entry → small entry')
    (new : ∀ entry : ScheduleEntry, entry.state.queuedRunCount = 0 →
      entry.state.runningRunCount = 0 → small entry)
    (paced : ∀ entry entry', entry.overlapPolicy = policy → PacedEntry entry entry' →
      small entry → small entry') (event : Event) (fine : eventInOrder store event = true)
    (has : hasPolicy id policy store) (kept : KeptStore uuids store)
    (within : Within id small store) : Within id small (store.next engine uuids event) := by
  cases event with
  | reload clock =>
    have loaded : ∀ entry,
        (normalizeLoadedIndex clock store.file.reread).1.schedules.lookup id = some entry →
          small entry := by
      intro entry found
      change ((store.file.schedules.mapValues ScheduleEntry.reread).mapValues
        normalizeLoadedScheduleEntry).lookup id = some entry at found
      rw [lookup_mapValues, lookup_mapValues, map_map,
        map_eq_some_iff] at found
      obtain ⟨raw, there, rfl⟩ := found
      have read : small raw.reread := counts _ _ (reread_counts raw) (within.file raw there)
      exact counts raw.reread _ ⟨rfl, rfl, rfl⟩ read
    refine ⟨loaded, ?_⟩
    change ∀ entry, (if (normalizeLoadedIndex clock store.file.reread).2 = true
      then (normalizeLoadedIndex clock store.file.reread).1
      else store.file.reread).schedules.lookup id = some entry → small entry
    split
    · exact loaded
    · intro entry found
      change (store.file.schedules.mapValues ScheduleEntry.reread).lookup id = some entry at found
      rw [lookup_mapValues, map_eq_some_iff] at found
      obtain ⟨raw, there, rfl⟩ := found
      exact counts _ _ (reread_counts raw) (within.file raw there)
  | call call =>
    have went : Paced store.index (store.perform engine uuids call).2.index :=
      (kept_perform kept call fine).2
    have index : ∀ entry, (store.perform engine uuids call).2.index.schedules.lookup id =
        some entry → small entry := by
      intro entry found
      rcases went id entry found with ⟨queued, running⟩ | ⟨old, there, pace⟩
      · exact new entry queued running
      · exact paced old entry (has old there) pace (within.index old there)
    refine ⟨index, ?_⟩
    obtain ⟨_, _, file⟩ := perform_cases uuids engine store call
    change ∀ entry, (store.perform engine uuids call).2.file.schedules.lookup id = some entry → _
    rcases file with same | same
    · rw [same]
      exact index
    · rw [same]
      exact within.file

def firstStore (now : Instant) : ScheduleStore := openStore now (.empty now) 0

theorem empty_schedules : (SchedulesIndex.empty now).schedules.lookup key ≠ some entry := by
  intro found
  cases found

theorem empty_records : (SchedulesIndex.empty now).runRecords.lookup key ≠ some record := by
  intro held
  cases held

theorem kept_empty (now : Instant) : Kept uuids 0 (SchedulesIndex.empty now) where
  truthful :=
    { named := fun _ _ found => absurd found empty_schedules
      keyed := fun _ _ held => absurd held empty_records
      counted := fun _ _ found => absurd found empty_schedules
      owned := fun _ _ held => absurd held empty_records }
  schedules := fun _ _ found => absurd found empty_schedules
  records := fun _ _ held => absurd held empty_records

theorem kept_first (now : Instant) : KeptStore uuids (firstStore now) := by
  exact ⟨kept_empty now, kept_empty now⟩

/-- The counters are those of the records, no record is without its schedule, and the overlap
    policies are kept by the schedules that have always had them. -/
theorem counters_truthful (engine : TriggerEngine) (uuids : Uuids) (now : Instant)
    (events : List Event)
    (fine : Along (ScheduleStore.next engine uuids)
      (fun store event => eventInOrder store event = true) (firstStore now) events) :
    let store := run (ScheduleStore.next engine uuids) (firstStore now) events
    (∀ id entry, store.index.schedules.lookup id = some entry →
      entry.state.queuedRunCount = runCount store.index id .queued ∧
      entry.state.runningRunCount = runCount store.index id .running) ∧
    (∀ runId record, store.index.runRecords.lookup runId = some record →
      ∃ entry, store.index.schedules.lookup record.scheduleId = some entry) ∧
    (∀ id, Along (ScheduleStore.next engine uuids) (fun store _ => hasPolicy id .skip store)
      (firstStore now) events → runCount store.index id .running ≤ 1) ∧
    (∀ id, Along (ScheduleStore.next engine uuids) (fun store _ => hasPolicy id .queueOne store)
      (firstStore now) events → runCount store.index id .queued ≤ 1) := by
  intro store
  have kept : KeptStore uuids store :=
    along_keeps (fun _ event ordered kept => kept_step event ordered kept) events fine
      (kept_first now)
  have truthful := kept.index.truthful
  have bounded : ∀ {id : String} {policy : OverlapPolicy} {status : ScheduleRunStatus}
      (small : ScheduleEntry → Prop),
      (∀ entry entry', SameCounts entry entry' → small entry → small entry') →
      (∀ entry : ScheduleEntry, entry.state.queuedRunCount = 0 →
        entry.state.runningRunCount = 0 → small entry) →
      (∀ entry entry', entry.overlapPolicy = policy → PacedEntry entry entry' →
        small entry → small entry') →
      (∀ entry, small entry → Counted store.index id entry → runCount store.index id status ≤ 1) →
      Along (ScheduleStore.next engine uuids) (fun store _ => hasPolicy id policy store)
        (firstStore now) events → runCount store.index id status ≤ 1 := by
    intro id policy status small counts new paced reads always
    have within : KeptStore uuids store ∧ Within id small store := by
      refine along_keeps (P := fun store => KeptStore uuids store ∧ Within id small store)
        (fun _ event both before => ?_) events (along_and fine always) ⟨kept_first now, ?_⟩
      · exact ⟨kept_step event both.1 before.1,
          within_step counts new paced event both.1 both.2 before.1 before.2⟩
      · exact ⟨fun entry found => absurd found empty_schedules,
          fun entry found => absurd found empty_schedules⟩
    cases found : store.index.schedules.lookup id with
    | none =>
      rw [runCount_absent truthful found]
      exact Nat.zero_le 1
    | some entry => exact reads entry (within.2.index entry found) (truthful.counted id entry found)
  refine ⟨fun id entry found => ?_, truthful.owned, fun id => ?_, fun id => ?_⟩
  · have counted := truthful.counted id entry found
    exact ⟨counted.queued, counted.running⟩
  · refine bounded (fun entry => entry.state.runningRunCount ≤ 1) ?_ ?_ ?_ ?_
    · exact fun entry entry' same small => by rw [same.running]; exact small
    · exact fun entry _ running => by rw [running]; exact Nat.zero_le 1
    · intro entry entry' skip pace small
      rcases pace.running with less | ⟨more, alone⟩
      · exact less.trans small
      · have none_ := alone skip
        omega
    · exact fun entry small counted => counted.running ▸ small
  · refine bounded (fun entry => entry.state.queuedRunCount ≤ 1) ?_ ?_ ?_ ?_
    · exact fun entry entry' same small => by rw [same.queued]; exact small
    · exact fun entry queued _ => by rw [queued]; exact Nat.zero_le 1
    · intro entry entry' one pace small
      rcases pace.queued with less | alone
      · exact less.trans small
      · exact (alone one).2
    · exact fun entry small counted => counted.queued ▸ small

end Runs

/- The schedule of every minute, which queues one run at most. -/

def runEvents : List Event :=
  [.call everyMinute, .call (claimAt 60), .reload 62, .call (claimAt 125),
    .call (sampleCall (.markRunStarted "" "c") 126), .call (claimAt 190),
    .call (sampleCall (.markRunTerminal "" "c" .success none) 191)]

theorem sample_counters :
    Along (ScheduleStore.next (defaultTriggerEngine sampleCalendar) sampleUuids)
      (fun store event => eventInOrder store event = true) (firstStore 0) runEvents ∧
    let store := run (ScheduleStore.next (defaultTriggerEngine sampleCalendar) sampleUuids)
      (firstStore 0) runEvents
    (∀ id entry, store.index.schedules.lookup id = some entry →
      entry.state.queuedRunCount = runCount store.index id .queued ∧
      entry.state.runningRunCount = runCount store.index id .running) ∧
    (∀ runId record, store.index.runRecords.lookup runId = some record →
      ∃ entry, store.index.schedules.lookup record.scheduleId = some entry) ∧
    (∀ id, Along (ScheduleStore.next (defaultTriggerEngine sampleCalendar) sampleUuids)
      (fun store _ => hasPolicy id .skip store) (firstStore 0) runEvents →
        runCount store.index id .running ≤ 1) ∧
    (∀ id, Along (ScheduleStore.next (defaultTriggerEngine sampleCalendar) sampleUuids)
      (fun store _ => hasPolicy id .queueOne store) (firstStore 0) runEvents →
        runCount store.index id .queued ≤ 1) :=
  have fine : Along (ScheduleStore.next (defaultTriggerEngine sampleCalendar) sampleUuids)
      (fun store event => eventInOrder store event = true) (firstStore 0) runEvents := by
    decide +kernel
  ⟨fine, counters_truthful (defaultTriggerEngine sampleCalendar) sampleUuids 0 runEvents fine⟩

/-- A manual run is queued, and the schedule counts none. -/
theorem manual_run_uncounted :
    let store := run (ScheduleStore.next (defaultTriggerEngine sampleCalendar) sampleUuids)
      (firstStore 0) [.call everyMinute, .call (sampleCall (.createRunNow "" none none) 10)]
    (store.index.schedules.lookup "").map (fun entry => entry.state.queuedRunCount) = some 0 ∧
      runCount store.index "" .queued = 1 := by
  decide +kernel

end Schedules
