import BambooAgent.Schedules.Firing

/- What a claim dispatches of an interval that is late, and what it counts as missed. -/
namespace Schedules

/-- The occurrences of an interval from the due one on that are over by now, in the window. -/
def owed (every : Nat) (endAt : Option Instant) (due now : Instant) : Nat :=
  ((min now (endAt.getD now) - due) / (every * second)).toNat + 1

def occurrences (every : Nat) (endAt : Option Instant) (due now : Instant) : List Instant :=
  (List.range (owed every endAt due now)).map (fun i : Nat => due + every * i * second)

theorem mem_occurrences (positive : 0 < every) (past : due ≤ now)
    (inside : ∀ end_, endAt = some end_ → due ≤ end_) :
    at_ ∈ occurrences every endAt due now ↔ ∃ i : Nat, at_ = due + every * i * second ∧
      at_ ≤ now ∧ ∀ end_, endAt = some end_ → at_ ≤ end_ := by
  have period : (0 : Int) < every * second := Int.mul_pos (by omega) (by decide)
  have bound : ∀ at_ : Instant, at_ ≤ min now (endAt.getD now) ↔
      at_ ≤ now ∧ ∀ end_, endAt = some end_ → at_ ≤ end_ := by
    cases endAt with
    | none => simp
    | some end_ => simp
  have length : 0 ≤ min now (endAt.getD now) - due :=
    Int.sub_nonneg_of_le ((bound due).2 ⟨past, inside⟩)
  simp only [occurrences, List.mem_map, List.mem_range, owed, Nat.lt_succ_iff, ← bound]
  have counted : ∀ i : Nat, i ≤ ((min now (endAt.getD now) - due) / (every * second)).toNat ↔
      due + every * i * second ≤ min now (endAt.getD now) := by
    intro i
    have order : (every : Int) * i * second = i * (every * second) := by ring
    rw [Int.le_toNat (Int.ediv_nonneg length (le_of_lt period)),
      Int.le_ediv_iff_mul_le period, order]
    exact ⟨Int.add_le_of_le_sub_left, Int.le_sub_left_of_add_le⟩
  constructor
  · rintro ⟨i, least, rfl⟩
    exact ⟨i, rfl, (counted i).1 least⟩
  · rintro ⟨i, rfl, least⟩
    exact ⟨i, (counted i).2 least, rfl⟩

def secondsLate (due now : Instant) : Nat := (max (numSeconds (now - due)) 0).toNat

/-- What the policies promise of a claim of an entry whose due occurrence is this one. -/
structure Promised (entry : ScheduleEntry) (every : Nat) (due now : Instant)
    (outcome : ScheduleEntry × List Instant) : Prop where
  onTime : secondsLate due now = 0 → outcome.2 ≠ []
  runOnce : entry.misfirePolicy = .runOnce → outcome.2.length = 1
  catchUpAll : entry.misfirePolicy = .catchUpAll → entry.overlapPolicy = .allow →
    outcome.2 = occurrences every entry.endAt due now
  catchUpWindow : ∀ limit lateness, entry.misfirePolicy = .catchUpWindow limit lateness →
    outcome.2 <+: occurrences every entry.endAt due now ∧ outcome.2.length ≤ limit ∧
      (lateness < secondsLate due now → outcome.2 = [])
  skip : entry.misfirePolicy = .skip → 0 < secondsLate due now → outcome.2 = []
  missed : outcome.1.state.totalMissedCount + outcome.2.length =
    entry.state.totalMissedCount + owed every entry.endAt due now

/-- The periods since the next fire time, and one, as a 32-bit count. -/
def periodsSince (every : Nat) (next now : Instant) : Nat :=
  saturatingAdd u64Max (secondsLate next now / every) 1 % 2 ^ 32

/-- The only occurrence owed is late, and can be counted as missed. -/
def LateOnce (entry : ScheduleEntry) (every : Nat) (due now : Instant) : Prop :=
  0 < secondsLate due now ∧ owed every entry.endAt due now = 1 ∧
    entry.state.totalMissedCount < u64Max

/-- When the promise is kept: as many periods have passed since the next fire time as occurrences
    are owed, or just one occurrence is owed and none is run. -/
def Punctual (entry : ScheduleEntry) (every : Nat) (next due now : Instant) : Prop :=
  let owed := owed every entry.endAt due now
  let limited (runs : Nat) := if entry.overlapPolicy = .queueOne then min runs 1 else runs
  match entry.misfirePolicy with
  | .runOnce => owed = 1
  | .skip => LateOnce entry every due now
  | .catchUpAll =>
    if periodsSince every next now = 0 then
      entry.overlapPolicy ≠ .allow ∧ LateOnce entry every due now
    else limited (periodsSince every next now) = owed
  | .catchUpWindow limit lateness =>
    if lateness < secondsLate next now ∨ periodsSince every next now = 0 then
      LateOnce entry every due now
    else
      limited (min (periodsSince every next now) (max limit 1)) = owed ∧ owed ≤ limit ∧
        secondsLate due now ≤ lateness

section
variable {engine : TriggerEngine} {entry : ScheduleEntry}

theorem advance_missed (entry : ScheduleEntry) :
    (advance engine now entry).state.totalMissedCount = entry.state.totalMissedCount := by
  unfold advance
  split <;> rfl

theorem length_occurrences : (occurrences every entry.endAt due now).length =
    owed every entry.endAt due now := by
  rw [occurrences, List.length_map, List.length_range]

theorem missed_promised (skips : entry.misfirePolicy ≠ .runOnce) :
    Promised entry every due now (missedOccurrence engine now entry, []) ↔
      (entry.misfirePolicy = .catchUpAll → entry.overlapPolicy ≠ .allow) ∧
        LateOnce entry every due now := by
  have count : (missedOccurrence engine now entry).state.totalMissedCount =
      min u64Max (entry.state.totalMissedCount + 1) :=
    advance_missed { entry with
      state := recordMissedOccurrence { entry.state with lastScheduledAt := some now } }
  have positive : 1 ≤ owed every entry.endAt due now := Nat.le_add_left 1 _
  constructor
  · intro promised
    have missed := promised.missed
    rw [count, List.length_nil] at missed
    refine ⟨fun all allow => ?_, ?_, by omega, by omega⟩
    · have none_ := congrArg List.length (promised.catchUpAll all allow)
      rw [length_occurrences, List.length_nil] at none_
      omega
    · exact Nat.pos_of_ne_zero fun early => promised.onTime early rfl
  · rintro ⟨all, late, once, room⟩
    refine ⟨fun early => absurd early (ne_of_gt late), fun one => absurd one skips,
      fun is allow => absurd allow (all is), fun limit lateness _ =>
      ⟨List.nil_prefix, Nat.zero_le _, fun _ => rfl⟩, fun _ _ => rfl, ?_⟩
    rw [count, List.length_nil]
    omega

theorem dispatched_promised (trigger : entry.trigger = .interval every anchor)
    (speaks : entry.misfirePolicy ≠ .skip) (positive : 0 < runs) :
    Promised entry every due now (dispatched engine now runs entry,
        (List.range runs).map (fun i => scheduledForDispatch entry due i)) ↔
      runs = owed every entry.endAt due now ∧ (entry.misfirePolicy = .runOnce → runs = 1) ∧
        ∀ limit lateness, entry.misfirePolicy = .catchUpWindow limit lateness →
          runs ≤ limit ∧ secondsLate due now ≤ lateness := by
  have count : (dispatched engine now runs entry).state.totalMissedCount =
      entry.state.totalMissedCount :=
    advance_missed { entry with state := { entry.state with
      lastScheduledAt := some now
      queuedRunCount := saturatingAdd u32Max entry.state.queuedRunCount runs } }
  have times : (List.range runs).map (fun i => scheduledForDispatch entry due i) =
      (List.range runs).map (fun i : Nat => due + every * i * second) := by
    unfold scheduledForDispatch intervalSecondsFromTrigger
    rw [trigger]
  have length : ((List.range runs).map (fun i : Nat => due + every * i * second)).length = runs := by
    rw [List.length_map, List.length_range]
  have some_ : (List.range runs).map (fun i : Nat => due + every * i * second) ≠ [] := by
    apply List.ne_nil_of_length_pos
    rwa [length]
  rw [times]
  constructor
  · intro promised
    have missed := promised.missed
    rw [count, length] at missed
    refine ⟨by omega, fun one => length ▸ promised.runOnce one, fun limit lateness is => ?_⟩
    obtain ⟨_, within, early⟩ := promised.catchUpWindow limit lateness is
    exact ⟨length ▸ within, not_lt.1 fun late => some_ (early late)⟩
  · rintro ⟨same, one, window⟩
    refine ⟨fun _ => some_, fun is => length.trans (one is), fun _ _ => by rw [same]; rfl,
      fun limit lateness is => ⟨?_, length.le.trans (window limit lateness is).1,
        fun late => absurd late (not_lt.2 (window limit lateness is).2)⟩,
      fun is => absurd is speaks, ?_⟩
    · rw [same]
      exact List.prefix_rfl
    · rw [count, length, same]

end

def sampleLate (misfirePolicy : MisFirePolicy) : ScheduleEntry :=
  { id := "a", name := "sweep", enabled := true, trigger := .interval 60 (some 0),
    timezone := none, startAt := none, endAt := none, misfirePolicy, overlapPolicy := .allow,
    createdAt := 0, updatedAt := 0, state := { nextFireAt := some (60 * second) },
    runConfig := ⟨none, ""⟩ }

/-- The engine runs the sweep every minute. -/
def sampleEngine : TriggerEngine := fun _ _ after _ => .ok (some (after + 60 * second))

end Schedules
