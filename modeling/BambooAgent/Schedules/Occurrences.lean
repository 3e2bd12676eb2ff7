import BambooAgent.Schedules.Overlaps
import BambooAgent.Library.Checks

/- The occurrences of a trigger, and what the engine computes of them. -/
namespace Schedules
open SortedMaps

def Stands (tz : Tz) (local_ : NaiveDateTime) (instant : Instant) : Prop :=
  match tz.fromLocal local_ with
  | .single only => instant = only
  | .ambiguous first second => instant = first ∨ instant = second
  | .none => False

def OnDay (calendar : Calendar) (timezone : Option String) (wanted : NaiveDate → Bool)
    (hour minute second : Nat) (instant : Instant) : Prop :=
  ∃ tz date, parseTimezone calendar timezone = .ok tz ∧ wanted date = true ∧
    Stands tz ⟨date, ⟨hour, minute, second⟩⟩ instant

/-- An occurrence of the trigger. The cron library is not modelled, so that a cron trigger has
    none. -/
def Occurrence (calendar : Calendar) (trigger : ScheduleTrigger) (timezone : Option String)
    (instant : Instant) : Prop :=
  match trigger with
  | .interval everySeconds anchorAt => ∃ anchor periods : Int, anchorAt = some anchor ∧
      instant = anchor + periods * everySeconds * second
  | .once at_ => instant = at_
  | .daily hour minute second =>
    OnDay calendar timezone (fun _ => true) hour minute second instant
  | .weekly weekdays hour minute second =>
    OnDay calendar timezone (fun date => weekdays.contains date.weekday) hour minute second instant
  | .monthly days hour minute second =>
    OnDay calendar timezone (fun date => days.contains date.day) hour minute second instant
  | .cron _ => False

section Engine
variable {calendar : Calendar} {tz : Tz} {hour minute second : Nat} {after candidate : Instant}

theorem localCandidate_stands
    (found : localCandidateUtc tz date hour minute second = .ok candidate) :
    Stands tz ⟨date, ⟨hour, minute, second⟩⟩ candidate := by
  unfold localCandidateUtc at found
  split at found
  · cases found
  · rename_i time valid
    have same : time = ⟨hour, minute, second⟩ := by
      unfold NaiveTime.fromHms at valid
      split at valid
      · exact (Option.some.inj valid).symm
      · cases valid
    subst same
    unfold resolveLocalDatetime at found
    unfold Stands
    cases resolved : tz.fromLocal ⟨date, ⟨hour, minute, second⟩⟩ with
    | single instant =>
      rw [resolved] at found
      exact (Except.ok.inj found).symm
    | ambiguous first later =>
      rw [resolved] at found
      have least : min first later = candidate := Except.ok.inj found
      rcases min_choice first later with is | is
      · exact .inl (least.symm.trans is)
      · exact .inr (least.symm.trans is)
    | none =>
      rw [resolved] at found
      cases found

theorem scanDays_spec :
    ∀ {days : Nat} {date : NaiveDate},
      scanDays kind wanted tz hour minute second after days date = .ok (some candidate) →
      after < candidate ∧ ∃ day, wanted day = true ∧
        Stands tz ⟨day, ⟨hour, minute, second⟩⟩ candidate := by
  intro days
  induction days with
  | zero =>
    intro date found
    cases found
  | succ days ih =>
    intro date found
    obtain ⟨this, today, rest⟩ := Checks.bind_eq_ok.1 found
    split at rest
    · rename_i late _ filtered
      cases rest
      obtain ⟨same, before⟩ := Option.filter_eq_some_iff.1 filtered
      subst same
      unfold dayCandidate at today
      split at today
      · rename_i want
        cases resolved : localCandidateUtc tz date hour minute second with
        | error error =>
          rw [resolved] at today
          cases today
        | ok instant =>
          rw [resolved] at today
          cases today
          exact ⟨of_decide_eq_true before, date, want, localCandidate_stands resolved⟩
      · cases today
    · exact ih rest
    · cases rest

theorem scanMonth_spec
    (found : scanMonth tz year month maxDay hour minute second after days = .ok (some candidate)) :
    after < candidate ∧ ∃ day ∈ days, Stands tz ⟨⟨year, month, day⟩, ⟨hour, minute, second⟩⟩
      candidate := by
  induction days with
  | nil => cases found
  | cons day rest ih =>
    unfold scanMonth at found
    split at found
    · obtain ⟨late, other, member, stands⟩ := ih found
      exact ⟨late, other, List.mem_cons_of_mem _ member, stands⟩
    · split at found
      · cases found
      · rename_i instant resolved
        split at found
        · rename_i late
          cases found
          exact ⟨late, day, List.mem_cons_self, localCandidate_stands resolved⟩
        · obtain ⟨late, other, member, stands⟩ := ih found
          exact ⟨late, other, List.mem_cons_of_mem _ member, stands⟩

theorem scanMonths_spec :
    ∀ {months : Nat} {year : Int} {month : Nat}, scanMonths days tz hour minute second after months
      year month = .ok (some candidate) → after < candidate ∧ ∃ date : NaiveDate, date.day ∈ days ∧
      Stands tz ⟨date, ⟨hour, minute, second⟩⟩ candidate := by
  intro months
  induction months with
  | zero =>
    intro year month found
    cases found
  | succ months ih =>
    intro year month found
    obtain ⟨maxDay, _, rest⟩ := Checks.bind_eq_ok.1 found
    obtain ⟨this, scanned, rest⟩ := Checks.bind_eq_ok.1 rest
    split at rest
    · cases rest
      obtain ⟨late, day, member, stands⟩ := scanMonth_spec scanned
      exact ⟨late, _, member, stands⟩
    · split at rest
      · exact ih rest
      · exact ih rest

theorem interval_next
    (found : computeIntervalNext everySeconds (some anchor) after = .ok (some candidate)) :
    after < candidate ∧ ∃ periods : Int,
      candidate = anchor + periods * everySeconds * Schedules.second := by
  unfold computeIntervalNext at found
  split at found
  · cases found
  · dsimp only at found
    split at found
    · rename_i early
      cases found
      exact ⟨early, 0, by simp⟩
    · rename_i late
      cases found
      refine ⟨?_, _, rfl⟩
      have late : 0 ≤ after - anchor := Int.sub_nonneg_of_le (not_lt.1 late)
      have whole : (0 : Int) < everySeconds := by omega
      have seconds : numSeconds (after - anchor) = (after - anchor) / Schedules.second :=
        Int.tdiv_eq_ediv_of_nonneg late
      have fraction : after - anchor < (numSeconds (after - anchor) + 1) * Schedules.second := by
        rw [seconds]
        exact Int.lt_ediv_add_one_mul_self _ (by decide)
      have period : numSeconds (after - anchor) <
          (numSeconds (after - anchor) / everySeconds + 1) * everySeconds :=
        Int.lt_ediv_add_one_mul_self _ whole
      have longer : (numSeconds (after - anchor) + 1) * Schedules.second ≤
          (numSeconds (after - anchor) / everySeconds + 1) * everySeconds * Schedules.second :=
        Int.mul_le_mul_of_nonneg_right period (by decide)
      exact Int.lt_add_of_sub_left_lt (lt_of_lt_of_le fraction longer)

theorem nextCandidate_spec
    (anchored : ∀ everySeconds anchorAt, trigger = .interval everySeconds anchorAt →
      anchorAt.isSome = true) (native : ∀ expr, trigger ≠ .cron expr)
    (found : nextCandidate calendar trigger (runtimeTimezone timezone trigger) after =
      .ok (some candidate)) :
    after < candidate ∧ Occurrence calendar trigger timezone candidate := by
  cases trigger with
  | interval everySeconds anchorAt =>
    obtain ⟨anchor, rfl⟩ := Option.isSome_iff_exists.1 (anchored everySeconds anchorAt rfl)
    obtain ⟨late, periods, same⟩ := interval_next found
    exact ⟨late, anchor, periods, rfl, same⟩
  | once at_ =>
    change Except.ok (if after < at_ then some at_ else none) = Except.ok (some candidate) at found
    split at found
    · rename_i late
      cases found
      exact ⟨late, rfl⟩
    · cases found
  | daily hour minute second =>
    obtain ⟨tz, parsed, scanned⟩ := Checks.bind_eq_ok.1 found
    obtain ⟨late, day, wanted, stands⟩ := scanDays_spec scanned
    exact ⟨late, tz, day, parsed, wanted, stands⟩
  | weekly weekdays hour minute second =>
    change computeWeeklyNext calendar weekdays hour minute second timezone after = _ at found
    unfold computeWeeklyNext at found
    split at found
    · cases found
    · obtain ⟨tz, parsed, scanned⟩ := Checks.bind_eq_ok.1 found
      obtain ⟨late, day, wanted, stands⟩ := scanDays_spec scanned
      exact ⟨late, tz, day, parsed, wanted, stands⟩
  | monthly days hour minute second =>
    change computeMonthlyNext calendar days hour minute second timezone after = _ at found
    unfold computeMonthlyNext at found
    split at found
    · cases found
    · split at found
      · cases found
      · obtain ⟨tz, parsed, scanned⟩ := Checks.bind_eq_ok.1 found
        obtain ⟨late, date, member, stands⟩ := scanMonths_spec scanned
        rw [List.mem_dedup, List.mem_mergeSort] at member
        exact ⟨late, tz, date, parsed, List.contains_iff_mem.2 member, stands⟩
  | cron expr => exact absurd rfl (native expr)

end Engine

end Schedules
