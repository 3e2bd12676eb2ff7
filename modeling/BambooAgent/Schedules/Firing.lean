import BambooAgent.Schedules.Occurrences
import Mathlib.Tactic.Ring

/- Schedules that fire at their own occurrences: what one call makes of the entries. -/
namespace Schedules
open SortedMaps Option Bool

/- What a call has to find. -/

/-- A window that opens after the first candidate opens at an occurrence. -/
def Starts (calendar : Calendar) (clock : Instant) (trigger : ScheduleTrigger)
    (timezone : Option String) (window : ScheduleWindow) : Prop :=
  (∀ expr, trigger ≠ .cron expr) ∧
  ∀ candidate, nextCandidate calendar trigger (runtimeTimezone timezone trigger) clock =
    .ok (some candidate) → ∀ start, window.startAt = some start → candidate < start →
      Occurrence calendar trigger timezone start

/-- A claim at this time is on the grid of an interval, unless the window ends before the next
    period does. -/
def onGrid (now : Instant) (entry : ScheduleEntry) : Bool :=
  match entry.trigger with
  | .interval everySeconds (some anchor) =>
    (now - anchor) % (everySeconds * second) = 0 ||
      entry.endAt.any (fun end_ => end_ < now + everySeconds * second)
  | _ => true

/-- As many periods as the claim catches up on still end in the window. -/
def lastInside (now : Instant) (entry : ScheduleEntry) : Bool :=
  match entry.trigger with
  | .interval everySeconds _ =>
    entry.endAt.all (fun end_ => entry.state.nextFireAt.all (fun next =>
      next + everySeconds * (dispatchCount now entry - 1 : Nat) * second ≤ end_))
  | _ => true

def steady (calendar : Calendar) (now : Instant) (entry : ScheduleEntry) : Bool :=
  onGrid now entry &&
    (computeNextRunAtWithEngine (defaultTriggerEngine calendar) entry now).isOk &&
    lastInside now entry

/- Entries. -/

/-- An enabled entry fires next at an occurrence, not before its window, and after everything that
    was claimed. -/
structure Ready (calendar : Calendar) (claimed : Instant → Prop) (entry : ScheduleEntry) :
    Prop where
  native : ∀ expr, entry.trigger ≠ .cron expr
  anchored : ∀ everySeconds anchorAt, entry.trigger = .interval everySeconds anchorAt →
    everySeconds ≠ 0 ∧ anchorAt.isSome = true
  timezone : normalizeOptionalString entry.timezone = entry.timezone
  fires : entry.enabled = true → ∃ next, entry.state.nextFireAt = some next ∧
    Occurrence calendar entry.trigger entry.timezone next ∧
    (∀ start, entry.startAt = some start → start ≤ next) ∧ ∀ instant, claimed instant →
      instant < next

/-- What the next fire of an entry depends on. -/
structure SameTiming (entry entry' : ScheduleEntry) : Prop where
  id : entry'.id = entry.id
  enabled : entry'.enabled = entry.enabled
  trigger : entry'.trigger = entry.trigger
  timezone : entry'.timezone = entry.timezone
  startAt : entry'.startAt = entry.startAt
  next : ∀ next, entry.state.nextFireAt = some next → entry'.state.nextFireAt = some next

variable {next : Instant}

theorem Ready.congr (ready : Ready calendar claimed entry) (same : SameTiming entry entry') :
    Ready calendar claimed entry' where
  native := by
    rw [same.trigger]
    exact ready.native
  anchored := by
    rw [same.trigger]
    exact ready.anchored
  timezone := by
    rw [same.timezone]
    exact ready.timezone
  fires := by
    rw [same.enabled, same.trigger, same.timezone, same.startAt]
    intro on
    obtain ⟨next, fires, rest⟩ := ready.fires on
    exact ⟨next, same.next next fires, rest⟩

theorem ready_loaded (ready : Ready calendar claimed entry) :
    SameTiming entry (normalizeLoadedScheduleEntry entry.reread) := by
  rw [reread_anchored (fun everySeconds anchorAt is => (ready.anchored everySeconds anchorAt is).2)]
  refine ⟨rfl, rfl, loadedTrigger_anchored ready.anchored, ready.timezone, rfl, ?_⟩
  intro next fires
  change normalizeLoadedNext entry = some next
  unfold normalizeLoadedNext
  rw [fires]
  split <;> rfl

theorem firstRun_spec
    (anchored : ∀ everySeconds anchorAt, trigger = .interval everySeconds anchorAt →
      anchorAt.isSome = true) (starts : Starts calendar clock trigger timezone window)
    (computed : computeInitialNextRunAt (defaultTriggerEngine calendar) trigger timezone window
      clock = .ok next) :
    Occurrence calendar trigger timezone next ∧
      (∀ start, window.startAt = some start → start ≤ next) ∧ clock < next := by
  unfold computeInitialNextRunAt defaultTriggerEngine at computed
  cases found : nextCandidate calendar trigger (runtimeTimezone timezone trigger) clock with
  | error error =>
    rw [found] at computed
    cases computed
  | ok answer =>
    rw [found] at computed
    cases answer with
    | none => cases computed
    | some candidate =>
      obtain ⟨late, occurs⟩ := nextCandidate_spec anchored starts.1 found
      have placed : applyWindow (some candidate) window = some next := by
        cases shape : applyWindow (some candidate) window with
        | none =>
          simp only [Except.map, shape] at computed
          cases computed
        | some answer =>
          simp only [Except.map, shape] at computed
          exact congrArg some (Except.ok.inj computed)
      unfold applyWindow at placed
      rw [bind_some] at placed
      split at placed
      · rename_i before
        obtain ⟨start, opens, early⟩ := (any_eq_true _ _).1 before
        have before : candidate < start := of_decide_eq_true early
        rw [opens] at placed
        cases placed
        refine ⟨starts.2 candidate found next opens before, ?_, lt_trans late before⟩
        intro other same
        rw [opens] at same
        cases same
        exact Int.le_refl _
      · rename_i open_
        split at placed
        · cases placed
        · cases placed
          refine ⟨occurs, ?_, late⟩
          intro start opens
          by_contra early
          refine open_ ((any_eq_true _ _).2 ⟨start, opens, decide_eq_true ?_⟩)
          exact not_le.1 early

/- Claims. -/

theorem due_spec (ready : Ready calendar claimed entry) (due : isDue now entry = true) :
    ∃ next, entry.state.nextFireAt = some next ∧ currentDueAt entry = some next ∧ next ≤ now ∧
      Occurrence calendar entry.trigger entry.timezone next ∧
      (∀ start, entry.startAt = some start → start ≤ next) ∧
      (∀ end_, entry.endAt = some end_ → next ≤ end_) ∧ ∀ instant, claimed instant →
        instant < next := by
  rw [isDue, and_eq_true] at due
  obtain ⟨on, due⟩ := due
  obtain ⟨next, fires, occurs, opens, later⟩ := ready.fires on
  obtain ⟨dueAt, found, past⟩ := (any_eq_true _ _).1 due
  have inside : entry.startAt.any (fun start => next < start) = false := by
    rw [any_eq_false]
    intro start same
    exact decide_eq_false (not_lt.2 (opens start same))
  unfold currentDueAt at found ⊢
  rw [fires, bind_some] at found ⊢
  simp only [inside, false_eq_true, if_false] at found ⊢
  split at found
  · cases found
  · rename_i open_
    cases found
    rw [if_neg open_]
    refine ⟨next, rfl, rfl, of_decide_eq_true past, occurs, opens, ?_, later⟩
    intro end_ same
    by_contra overrun
    exact open_ ((any_eq_true _ _).2 ⟨end_, same, decide_eq_true (not_le.1 overrun)⟩)

theorem catchUp_cases (counted : i < catchUpRuns entry lateness) :
    i = 0 ∨ ∃ interval, intervalSecondsFromTrigger entry.trigger = some interval ∧
      i * interval ≤ lateness := by
  unfold catchUpRuns at counted
  cases found : intervalSecondsFromTrigger entry.trigger with
  | none =>
    rw [found] at counted
    exact .inl (Nat.lt_one_iff.1 counted)
  | some interval =>
    rw [found] at counted
    cases interval with
    | zero => exact .inl (Nat.lt_one_iff.1 counted)
    | succ less =>
      refine .inr ⟨less + 1, rfl, ?_⟩
      have bound : i < lateness / (less + 1) + 1 := by
        have small := Nat.mod_le (saturatingAdd u64Max (lateness / (less + 1)) 1) (2 ^ 32)
        have least := min_le_right u64Max (lateness / (less + 1) + 1)
        exact lt_of_lt_of_le counted (le_trans small least)
      have quotient : i ≤ lateness / (less + 1) := Nat.lt_succ_iff.1 bound
      exact (Nat.mul_le_mul_right _ quotient).trans (Nat.div_mul_le_self _ _)

theorem dispatch_cases (fires : entry.state.nextFireAt = some next)
    (counted : i < dispatchCount now entry) :
    i = 0 ∨ ∃ interval, intervalSecondsFromTrigger entry.trigger = some interval ∧
      i * interval ≤ (max (numSeconds (now - next)) 0).toNat := by
  have misfires : i < computeMisfireDispatchCount entry now := by
    refine lt_of_lt_of_le counted ?_
    unfold dispatchCount applyOverlapDispatchLimit
    split
    · exact le_rfl
    · exact le_rfl
    · exact min_le_left _ _
  unfold computeMisfireDispatchCount at misfires
  rw [fires] at misfires
  dsimp only at misfires
  split at misfires
  · exact .inl (by omega)
  · exact .inl (by omega)
  · exact catchUp_cases misfires
  · split at misfires
    · exact .inl (by omega)
    · split at misfires
      · exact .inl (by omega)
      · exact catchUp_cases (misfires.trans_le (min_le_left _ _))

theorem scheduledFor_zero (next : Instant) : scheduledForDispatch entry next 0 = next := by
  unfold scheduledForDispatch
  split
  · simp
  · rfl

theorem dispatch_past (fires : entry.state.nextFireAt = some next) (past : next ≤ now)
    (counted : i < dispatchCount now entry) : scheduledForDispatch entry next i ≤ now := by
  rcases dispatch_cases fires counted with rfl | ⟨interval, is, behind⟩
  · rw [scheduledFor_zero]
    exact past
  · have elapsed : 0 ≤ now - next := Int.sub_nonneg_of_le past
    have seconds : numSeconds (now - next) = (now - next) / second :=
      Int.tdiv_eq_ediv_of_nonneg elapsed
    have whole : 0 ≤ (now - next) / second := Int.ediv_nonneg elapsed (by decide)
    have lateness : ((max (numSeconds (now - next)) 0).toNat : Int) = (now - next) / second := by
      rw [seconds, max_eq_left whole, Int.toNat_of_nonneg whole]
    have behind : (i : Int) * interval ≤ (now - next) / second := by
      rw [← lateness]
      exact_mod_cast behind
    have scaled : (i : Int) * interval * second ≤ (now - next) / second * second :=
      Int.mul_le_mul_of_nonneg_right behind (by decide)
    have least : (now - next) / second * second ≤ now - next :=
      Int.ediv_mul_le _ (by decide)
    unfold scheduledForDispatch
    rw [is]
    dsimp only
    have order : (interval : Int) * i * second = i * interval * second := by ring
    rw [order]
    exact Int.add_le_of_le_sub_left (le_trans scaled least)

section
variable (ready : Ready calendar claimed entry)
include ready

theorem dispatch_increasing (fires : entry.state.nextFireAt = some next) (before : i < j)
    (counted : j < dispatchCount now entry) :
    scheduledForDispatch entry next i < scheduledForDispatch entry next j := by
  rcases dispatch_cases fires counted with rfl | ⟨interval, is, _⟩
  · omega
  · have positive : 0 < interval := by
      unfold intervalSecondsFromTrigger at is
      split at is
      · rename_i everySeconds anchorAt trigger
        cases is
        have := (ready.anchored _ _ trigger).1
        omega
      · cases is
    unfold scheduledForDispatch
    rw [is]
    have longer : (interval : Int) * i < interval * j :=
      Int.mul_lt_mul_of_pos_left (by omega) (by omega)
    have scaled : (interval : Int) * i * second < interval * j * second :=
      Int.mul_lt_mul_of_pos_right longer (by decide)
    exact Int.add_lt_add_left scaled next

theorem dispatch_occurs (due : isDue now entry = true) (inside : lastInside now entry = true)
    {at_ : Instant}
    (member : at_ ∈ (List.range (dispatchCount now entry)).map (fun i =>
      scheduledForDispatch entry ((currentDueAt entry).getD now) i)) :
    Occurrence calendar entry.trigger entry.timezone at_ ∧
      (∀ start, entry.startAt = some start → start ≤ at_) ∧
      (∀ end_, entry.endAt = some end_ → at_ ≤ end_) ∧ at_ ≤ now ∧
      ∀ instant, claimed instant → instant < at_ := by
  obtain ⟨next, fires, dueAt, past, occurs, opens, ends, later⟩ := due_spec ready due
  obtain ⟨i, counted, rfl⟩ := List.mem_map.1 member
  rw [List.mem_range] at counted
  rw [dueAt, getD_some]
  have after : ∀ i j, i ≤ j → j < dispatchCount now entry →
      scheduledForDispatch entry next i ≤ scheduledForDispatch entry next j := by
    intro i j least counted
    rcases lt_or_ge i j with before | same
    · exact le_of_lt (dispatch_increasing ready fires before counted)
    · rw [le_antisymm least same]
  have first := after 0 i (Nat.zero_le i) counted
  rw [scheduledFor_zero] at first
  refine ⟨?_, fun start same => le_trans (opens start same) first, ?_,
    dispatch_past fires past counted, fun instant old => lt_of_lt_of_le (later instant old) first⟩
  · rcases dispatch_cases fires counted with rfl | ⟨interval, is, _⟩
    · rw [scheduledFor_zero]
      exact occurs
    · unfold intervalSecondsFromTrigger at is
      split at is
      · rename_i everySeconds anchorAt trigger
        rw [trigger] at occurs ⊢
        obtain ⟨anchor, periods, anchored, same⟩ := occurs
        refine ⟨anchor, periods + i, anchored, ?_⟩
        unfold scheduledForDispatch intervalSecondsFromTrigger
        rw [trigger, same]
        ring
      · cases is
  · intro end_ same
    rcases dispatch_cases fires counted with rfl | ⟨interval, is, _⟩
    · rw [scheduledFor_zero]
      exact ends end_ same
    · refine le_trans (after i (dispatchCount now entry - 1) (by omega) (by omega)) ?_
      unfold intervalSecondsFromTrigger at is
      split at is
      · rename_i everySeconds anchorAt trigger
        unfold lastInside at inside
        rw [trigger, same, fires] at inside
        unfold scheduledForDispatch intervalSecondsFromTrigger
        rw [trigger]
        exact of_decide_eq_true inside
      · cases is

theorem nextRun_occurs (grid : onGrid now entry = true)
    (opens : ∀ start, entry.startAt = some start → start ≤ now)
    (computed : computeNextRunAtWithEngine (defaultTriggerEngine calendar) entry now =
      .ok (some next)) : now < next ∧ Occurrence calendar entry.trigger entry.timezone next := by
  unfold computeNextRunAtWithEngine defaultTriggerEngine at computed
  dsimp only at computed
  cases found : nextCandidate calendar (runtimeTrigger entry)
      (runtimeTimezone entry.timezone (runtimeTrigger entry)) now with
  | error error =>
    rw [found] at computed
    cases computed
  | ok answer =>
    rw [found] at computed
    have placed : applyWindow answer entry.window = some next := Except.ok.inj computed
    cases answer with
    | none => cases placed
    | some candidate =>
      have inside : now < candidate → candidate = next ∧
          entry.endAt.any (fun end_ => end_ < candidate) = false := by
        intro late
        unfold applyWindow at placed
        rw [bind_some] at placed
        have opened : ¬ entry.window.startAt.any (fun start => candidate < start) = true := by
          intro before
          obtain ⟨start, same, early⟩ := (any_eq_true _ _).1 before
          have := lt_of_le_of_lt (opens start same) late
          exact absurd (of_decide_eq_true early) (not_lt.2 (le_of_lt this))
        rw [if_neg opened] at placed
        split at placed
        · cases placed
        · rename_i open_
          exact ⟨some.inj placed, eq_false_of_not_eq_true open_⟩
      cases trigger : entry.trigger with
      | interval everySeconds anchorAt =>
        obtain ⟨positive, anchored⟩ := ready.anchored _ _ trigger
        obtain ⟨anchor, rfl⟩ := isSome_iff_exists.1 anchored
        have candidate_eq : candidate = now + everySeconds * second := by
          rw [runtimeTrigger, trigger] at found
          simp only [nextCandidate, runtimeTimezone, computeIntervalNext, isSome_none,
            false_eq_true, if_false, if_neg positive, Except.ok.injEq, some.injEq]
            at found
          exact found.symm
        have longer : (0 : Int) < everySeconds * second :=
          Int.mul_pos (by omega) (by decide)
        have late : now < candidate := by
          rw [candidate_eq]
          exact Int.lt_add_of_pos_right now longer
        obtain ⟨same, open_⟩ := inside late
        refine ⟨same ▸ late, ?_⟩
        unfold onGrid at grid
        rw [trigger] at grid
        simp only [or_eq_true, decide_eq_true_eq] at grid
        rcases grid with whole | overrun
        · refine ⟨anchor, (now - anchor) / (everySeconds * second) + 1, rfl, ?_⟩
          have parts := Int.ediv_mul_add_emod (now - anchor) (everySeconds * second)
          rw [whole] at parts
          rw [← same, candidate_eq]
          have spread : ((now - anchor) / (everySeconds * second) + 1) * everySeconds * second =
              (now - anchor) / (everySeconds * second) * (everySeconds * second) +
                everySeconds * second := by ring
          rw [spread]
          have back : anchor + (now - anchor) = now := by ring
          rw [← add_assoc, ← back]
          rw [add_zero] at parts
          rw [back, parts, back]
        · rw [← candidate_eq] at overrun
          rw [overrun] at open_
          cases open_
      | cron expr => exact absurd trigger (ready.native expr)
      | _ =>
        have same_ : runtimeTrigger entry = entry.trigger := by
          unfold runtimeTrigger
          rw [trigger]
        rw [same_] at found
        obtain ⟨late, occurs⟩ := nextCandidate_spec
          (fun every anchorAt is => (ready.anchored every anchorAt is).2) ready.native found
        obtain ⟨same, _⟩ := inside late
        rw [← trigger]
        exact ⟨same ▸ late, same ▸ occurs⟩

theorem advance_ready (opens : ∀ start, entry.startAt = some start → start ≤ now)
    (fine : steady calendar now entry = true) :
    Ready calendar (fun instant => instant ≤ now)
      (advance (defaultTriggerEngine calendar) now entry) := by
  rw [steady, and_eq_true, and_eq_true] at fine
  obtain ⟨⟨grid, computes⟩, _⟩ := fine
  unfold advance
  cases computed : computeNextRunAtWithEngine (defaultTriggerEngine calendar) entry now with
  | error error =>
    rw [computed] at computes
    cases computes
  | ok answer =>
    cases answer with
    | none => exact ⟨ready.native, ready.anchored, ready.timezone, nofun⟩
    | some next =>
      obtain ⟨late, occurs⟩ := nextRun_occurs ready grid opens computed
      refine ⟨ready.native, ready.anchored, ready.timezone, fun _ => ⟨next, rfl, occurs, ?_, ?_⟩⟩
      · exact fun start same => le_of_lt (lt_of_le_of_lt (opens start same) late)
      · exact fun instant past => lt_of_le_of_lt past late

theorem Ready.mono (less : ∀ instant, fewer instant → claimed instant) :
    Ready calendar fewer entry where
  native := ready.native
  anchored := ready.anchored
  timezone := ready.timezone
  fires := by
    intro on
    obtain ⟨next, fires, occurs, opens, later⟩ := ready.fires on
    exact ⟨next, fires, occurs, opens, fun instant old => later instant (less instant old)⟩

end

theorem claimEntry_cases (engine : TriggerEngine) (now : Instant) (entry : ScheduleEntry) :
    claimEntry engine now entry = (entry, []) ∨
      (isDue now entry = true ∧ advances now entry = true ∧
        (claimEntry engine now entry = (missedOccurrence engine now entry, []) ∨
          claimEntry engine now entry =
            (dispatched engine now (dispatchCount now entry) entry,
              (List.range (dispatchCount now entry)).map (fun i =>
                scheduledForDispatch entry ((currentDueAt entry).getD now) i)))) := by
  unfold claimEntry
  dsimp only
  split
  · exact .inl rfl
  · rename_i due
    rw [not_eq_true', not_eq_false] at due
    split
    · rename_i none_
      exact .inr ⟨due, by simp [advances, due, none_], .inl rfl⟩
    · split
      · rename_i policy blocked
        exact .inr ⟨due, by simp [advances, due, policy], .inl rfl⟩
      · exact .inl rfl
      · rename_i waits
        refine .inr ⟨due, ?_, .inr rfl⟩
        by_cases policy : entry.overlapPolicy = .queueOne
        · have free : overlapBlocksDispatch entry = false :=
            eq_false_of_not_eq_true (fun blocked => waits policy blocked)
          simp [advances, due, free]
        · simp [advances, due, policy]

theorem claimEntry_id (engine : TriggerEngine) (now : Instant) (entry : ScheduleEntry) :
    (claimEntry engine now entry).1.id = entry.id := by
  rcases claimEntry_cases engine now entry with same | ⟨_, _, missed | taken⟩
  · rw [same]
  · rw [missed]
    exact (missed_keeps entry).id
  · rw [taken]
    exact (advance_keeps _).id

theorem claim_ready (ready : Ready calendar claimed entry)
    (fine : advances now entry = true → steady calendar now entry = true) :
    let outcome := claimEntry (defaultTriggerEngine calendar) now entry
    Ready calendar (fun instant => claimed instant ∨ instant ∈ outcome.2) outcome.1 ∧
      outcome.2.Pairwise (· < ·) ∧
      ∀ at_ ∈ outcome.2, Occurrence calendar entry.trigger entry.timezone at_ ∧
        (∀ start, entry.startAt = some start → start ≤ at_) ∧
        (∀ end_, entry.endAt = some end_ → at_ ≤ end_) ∧ at_ ≤ now ∧
        ∀ instant, claimed instant → instant < at_ := by
  intro outcome
  rcases claimEntry_cases (defaultTriggerEngine calendar) now entry with
    same | ⟨due, moves, missed | taken⟩
  · have outcome_eq : outcome = (entry, []) := same
    rw [outcome_eq]
    exact ⟨ready.mono (fun _ old => old.resolve_right (by simp)), .nil, nofun⟩
  all_goals
    have steady_ := fine moves
    obtain ⟨next, fires, dueAt, past, _, opens, _, later⟩ := due_spec ready due
    have opened : ∀ start, entry.startAt = some start → start ≤ now :=
      fun start same => le_trans (opens start same) past
    have before : ∀ instant, claimed instant → instant ≤ now :=
      fun instant old => le_of_lt (lt_of_lt_of_le (later instant old) past)
  · have outcome_eq : outcome = (missedOccurrence (defaultTriggerEngine calendar) now entry, []) :=
      missed
    have moved : Ready calendar (fun instant => instant ≤ now)
        (missedOccurrence (defaultTriggerEngine calendar) now entry) := by
      have noted : Ready calendar claimed { entry with
          state := recordMissedOccurrence { entry.state with lastScheduledAt := some now } } :=
        ready.congr ⟨rfl, rfl, rfl, rfl, rfl, fun _ same => same⟩
      exact (advance_ready noted opened steady_).congr
        ⟨rfl, rfl, rfl, rfl, rfl, fun _ same => same⟩
    rw [outcome_eq]
    exact ⟨moved.mono (fun instant old => before instant (old.resolve_right (by simp))), .nil,
      nofun⟩
  · have outcome_eq : outcome =
        (dispatched (defaultTriggerEngine calendar) now (dispatchCount now entry) entry,
          (List.range (dispatchCount now entry)).map (fun i =>
            scheduledForDispatch entry ((currentDueAt entry).getD now) i)) := taken
    have moved : Ready calendar (fun instant => instant ≤ now)
        (dispatched (defaultTriggerEngine calendar) now (dispatchCount now entry) entry) := by
      have noted : Ready calendar claimed { entry with
          state := { entry.state with
            lastScheduledAt := some now
            queuedRunCount := saturatingAdd u32Max entry.state.queuedRunCount
              (dispatchCount now entry) } } :=
        ready.congr ⟨rfl, rfl, rfl, rfl, rfl, fun _ same => same⟩
      exact (advance_ready noted opened steady_).congr
        ⟨rfl, rfl, rfl, rfl, rfl, fun _ same => same⟩
    have inside : lastInside now entry = true := by
      rw [steady, and_eq_true] at steady_
      exact steady_.2
    rw [outcome_eq]
    refine ⟨moved.mono ?_, ?_, fun at_ member => dispatch_occurs ready due inside member⟩
    · rintro instant (old | member)
      · exact before instant old
      · exact (dispatch_occurs ready due inside member).2.2.2.1
    · rw [List.pairwise_map]
      refine List.Pairwise.imp_of_mem ?_ List.pairwise_lt_range
      intro i j _ counted less
      rw [dueAt]
      exact dispatch_increasing ready fires less (List.mem_range.1 counted)

end Schedules
