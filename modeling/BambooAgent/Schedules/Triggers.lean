import BambooAgent.Compression.Texts

/- Triggers of a schedule, and the engine that computes their occurrences. -/
namespace Schedules

/-- Nanoseconds since the epoch. -/
abbrev Instant := Int

def second : Int := 1000000000

/-- `num_seconds` of a duration drops the fraction. -/
def numSeconds (duration : Int) : Int := duration.tdiv second

inductive ScheduleWeekday where
  | mon | tue | wed | thu | fri | sat | sun
  deriving DecidableEq

inductive ScheduleTrigger where
  | interval (everySeconds : Nat) (anchorAt : Option Instant)
  | once (at_ : Instant)
  | daily (hour minute second : Nat)
  | weekly (weekdays : List ScheduleWeekday) (hour minute second : Nat)
  | monthly (days : List Nat) (hour minute second : Nat)
  | cron (expr : String)
  deriving DecidableEq

structure ScheduleWindow where
  startAt : Option Instant
  endAt : Option Instant

/- Calendar dates. -/

structure NaiveDate where
  year : Int
  month : Nat
  day : Nat

structure NaiveTime where
  hour : Nat
  minute : Nat
  second : Nat

structure NaiveDateTime where
  date : NaiveDate
  time : NaiveTime

def maxYear : Int := 262142

def isLeap (year : Int) : Bool := year % 4 = 0 && (year % 100 ≠ 0 || year % 400 = 0)

/-- How many days a month has. -/
def monthLength (year : Int) (month : Nat) : Nat :=
  if month = 2 then (if isLeap year then 29 else 28)
  else if month = 4 ∨ month = 6 ∨ month = 9 ∨ month = 11 then 30 else 31

/-- The day after, which the last day of all does not have. -/
def NaiveDate.addDay (date : NaiveDate) : Option NaiveDate :=
  if date.day < monthLength date.year date.month then some { date with day := date.day + 1 }
  else if date.month < 12 then some ⟨date.year, date.month + 1, 1⟩
  else if date.year < maxYear then some ⟨date.year + 1, 1, 1⟩
  else none

/-- Days since the first of March of the year zero. -/
def NaiveDate.dayNumber (date : NaiveDate) : Int :=
  let year := if date.month ≤ 2 then date.year - 1 else date.year
  let month := (date.month + 9) % 12
  365 * year + year / 4 - year / 100 + year / 400 + (153 * month + 2) / 5 + date.day - 1

/-- The first of March of the year zero was a Wednesday. -/
def NaiveDate.weekday (date : NaiveDate) : ScheduleWeekday :=
  match date.dayNumber % 7 with
  | 0 => .wed
  | 1 => .thu
  | 2 => .fri
  | 3 => .sat
  | 4 => .sun
  | 5 => .mon
  | _ => .tue

def NaiveTime.fromHms (hour minute second : Nat) : Option NaiveTime :=
  if hour < 24 ∧ minute < 60 ∧ second < 60 then some ⟨hour, minute, second⟩ else none

/- Time zones. -/

inductive LocalResult where
  | single (instant : Instant)
  | ambiguous (first second : Instant)
  | none

/-- What instants a local time stands for, and what an instant is on the local calendar. -/
structure Tz where
  fromLocal : NaiveDateTime → LocalResult
  toLocal : Instant → NaiveDateTime

inductive TriggerComputationError where
  | unsupportedTrigger (kind : String)
  | invalidTrigger (message : String)
  | unsupportedTimezone

/-- The time zones by name, and the cron library. -/
structure Calendar where
  utc : Tz
  parse : String → Option Tz
  cron : String → Tz → Instant → Except String (Option Instant)

section Engine
variable (calendar : Calendar)

def parseTimezone (timezone : Option String) : Except TriggerComputationError Tz :=
  match timezone with
  | some value =>
    match calendar.parse value with
    | some tz => .ok tz
    | none => .error (.invalidTrigger s!"invalid timezone: {value}")
  | none => .ok calendar.utc

def resolveLocalDatetime (timezone : Tz) (local_ : NaiveDateTime) :
    Except TriggerComputationError Instant :=
  match timezone.fromLocal local_ with
  | .single instant => .ok instant
  | .ambiguous first second => .ok (min first second)
  | .none => .error (.invalidTrigger "local datetime does not exist in timezone")

def localCandidateUtc (timezone : Tz) (date : NaiveDate) (hour minute second : Nat) :
    Except TriggerComputationError Instant :=
  match NaiveTime.fromHms hour minute second with
  | none => .error (.invalidTrigger "invalid time components")
  | some time => resolveLocalDatetime timezone ⟨date, time⟩

def dayCandidate (wanted : NaiveDate → Bool) (timezone : Tz) (date : NaiveDate)
    (hour minute second : Nat) : Except TriggerComputationError (Option Instant) :=
  if wanted date then (localCandidateUtc timezone date hour minute second).map some else .ok none

def scanDays (kind : String) (wanted : NaiveDate → Bool) (timezone : Tz)
    (hour minute second : Nat) (after : Instant) :
    Nat → NaiveDate → Except TriggerComputationError (Option Instant)
  | 0, _ => .error (.invalidTrigger (kind ++ " schedule failed to produce next occurrence"))
  | days + 1, date => do
    let candidate ← dayCandidate wanted timezone date hour minute second
    match candidate.filter (fun candidate => after < candidate), date.addDay with
    | some candidate, _ => .ok (some candidate)
    | none, some next => scanDays kind wanted timezone hour minute second after days next
    | none, none => .error (.invalidTrigger (kind ++ " schedule overflowed date range"))

def computeDailyNext (hour minute second : Nat) (timezone : Option String) (after : Instant) :
    Except TriggerComputationError (Option Instant) := do
  let tz ← parseTimezone calendar timezone
  scanDays "daily" (fun _ => true) tz hour minute second after 370 (tz.toLocal after).date

def computeWeeklyNext (weekdays : List ScheduleWeekday) (hour minute second : Nat)
    (timezone : Option String) (after : Instant) :
    Except TriggerComputationError (Option Instant) :=
  if weekdays.isEmpty then .error (.invalidTrigger "weekly.weekdays must not be empty")
  else do
    let tz ← parseTimezone calendar timezone
    scanDays "weekly" (fun date => weekdays.contains date.weekday) tz hour minute second after 370
      (tz.toLocal after).date

def daysInMonth (year : Int) (month : Nat) : Except TriggerComputationError Nat :=
  if maxYear < year then .error (.invalidTrigger "invalid year-month")
  else if year = maxYear ∧ month = 12 then
    .error (.invalidTrigger "invalid next year-month")
  else .ok (monthLength year month)

def scanMonth (timezone : Tz) (year : Int) (month maxDay hour minute second : Nat)
    (after : Instant) : List Nat → Except TriggerComputationError (Option Instant)
  | [] => .ok none
  | day :: rest =>
    if maxDay < day then scanMonth timezone year month maxDay hour minute second after rest
    else
      match localCandidateUtc timezone ⟨year, month, day⟩ hour minute second with
      | .error error => .error error
      | .ok candidate =>
        if after < candidate then .ok (some candidate)
        else scanMonth timezone year month maxDay hour minute second after rest

def scanMonths (days : List Nat) (timezone : Tz) (hour minute second : Nat) (after : Instant) :
    Nat → Int → Nat → Except TriggerComputationError (Option Instant)
  | 0, _, _ => .error (.invalidTrigger "monthly schedule failed to produce next occurrence")
  | months + 1, year, month => do
    let maxDay ← daysInMonth year month
    let found ← scanMonth timezone year month maxDay hour minute second after days
    match found with
    | some candidate => .ok (some candidate)
    | none =>
      if month = 12 then scanMonths days timezone hour minute second after months (year + 1) 1
      else scanMonths days timezone hour minute second after months year (month + 1)

def computeMonthlyNext (days : List Nat) (hour minute second : Nat) (timezone : Option String)
    (after : Instant) : Except TriggerComputationError (Option Instant) :=
  if days.isEmpty then .error (.invalidTrigger "monthly.days must not be empty")
  else if days.any (fun day => day = 0 ∨ 31 < day) then
    .error (.invalidTrigger "monthly.days values must be between 1 and 31")
  else do
    let tz ← parseTimezone calendar timezone
    let sortedDays := (days.mergeSort (fun a b => decide (a ≤ b))).dedup
    let start := (tz.toLocal after).date
    scanMonths sortedDays tz hour minute second after 1200 start.year start.month

def computeIntervalNext (everySeconds : Nat) (anchorAt : Option Instant) (after : Instant) :
    Except TriggerComputationError (Option Instant) :=
  if everySeconds = 0 then .error (.invalidTrigger "interval.every_seconds must be > 0")
  else
    match anchorAt with
    | some anchor =>
      if after < anchor then .ok (some anchor)
      else
        let intervalsElapsed := numSeconds (after - anchor) / everySeconds + 1
        .ok (some (anchor + intervalsElapsed * everySeconds * second))
    | none => .ok (some (after + everySeconds * second))

def applyWindow (candidate : Option Instant) (window : ScheduleWindow) : Option Instant :=
  candidate.bind (fun candidate =>
    if window.startAt.any (fun start => candidate < start) then window.startAt
    else if window.endAt.any (fun end_ => end_ < candidate) then none
    else some candidate)

abbrev TriggerEngine := ScheduleTrigger → Option String → Instant → ScheduleWindow →
  Except TriggerComputationError (Option Instant)

def nextCandidate (trigger : ScheduleTrigger) (timezone : Option String) (after : Instant) :
    Except TriggerComputationError (Option Instant) :=
  match trigger with
  | .interval everySeconds anchorAt =>
    if timezone.isSome then .error .unsupportedTimezone
    else computeIntervalNext everySeconds anchorAt after
  | .once at_ =>
    if timezone.isSome then .error .unsupportedTimezone
    else .ok (if after < at_ then some at_ else none)
  | .daily hour minute second => computeDailyNext calendar hour minute second timezone after
  | .weekly weekdays hour minute second =>
    computeWeeklyNext calendar weekdays hour minute second timezone after
  | .monthly days hour minute second =>
    computeMonthlyNext calendar days hour minute second timezone after
  | .cron expr => do
    let tz ← parseTimezone calendar timezone
    (calendar.cron expr tz after).mapError .invalidTrigger

/-- The native engine, with the cron library for cron triggers. -/
def defaultTriggerEngine : TriggerEngine := fun trigger timezone after window =>
  (nextCandidate calendar trigger timezone after).map (fun next => applyWindow next window)

end Engine

end Schedules
