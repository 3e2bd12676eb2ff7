import BambooAgent.Ready.Retries
import BambooAgent.Library.Interleavings

/- The passes of any schedulers over one store of retry records. An attempt is what one pass does
   about one Work; it reads its clock, and loads and exchanges the record, in steps of their own,
   and may be lost between them. -/
namespace Ready.Retries
open SortedMaps Interleavings

/-- A stored record; its place in the list is its revision. -/
structure Entry where
  record : ReadyRetryRecord
  why : Why

/-- The reserved revision that the runtime was entered with, and the clock of the last check. -/
structure Admission where
  key : ReadyRetryKey
  revision : Nat
  now : Nat
  deriving DecidableEq

/-- `checks` are the looks at the clock that are left before the runtime is entered. -/
inductive Stage where
  | loading (now : Nat)
  | creating (record : ReadyRetryRecord)
  | loaded (value : VersionedReadyRetry)
  | saving (value : VersionedReadyRetry) (record : ReadyRetryRecord) (why : Why) (now : Nat)
  | permitted (value : VersionedReadyRetry)
  | reserved (value : VersionedReadyRetry) (checks : Nat)
  | admitted (value : VersionedReadyRetry)

structure Attempt where
  context : RetryContext
  stage : Stage

/-- `seen` are the snapshots that have been read. -/
structure Recovery where
  entries : ReadyRetryKey → List Entry
  attempts : List (Option Attempt)
  admissions : List Admission
  seen : List Tickets.Snapshot

def Recovery.new : Recovery where
  entries := fun _ => []
  attempts := []
  admissions := []
  seen := []

/- What a pass looks at. -/

def pendingAssignment (snapshot : Tickets.Snapshot) (work : Tickets.Ticket) :
    Option Tickets.Assignment :=
  (work.activeAssignment.bind snapshot.assignments.lookup).filter (fun assignment =>
    assignment.state = .dispatchPending && assignment.runtime.isNone &&
      assignment.authorityEpoch = snapshot.authorityEpoch && assignment.generation = 1)

def startable (work : Tickets.Ticket) : Bool :=
  work.generation = 0 && work.state = .ready && !work.paused && !work.archived &&
    work.activeAssignment.isNone

def contextOf (snapshot : Tickets.Snapshot) (work : Tickets.Ticket) (workId identityHash : String)
    (remainingMs : Nat) : RetryContext where
  key := ⟨snapshot.binding.scopeId, workId⟩
  identityHash := identityHash
  remainingMs := remainingMs
  snapshot := snapshot
  work := work
  pendingKey := (pendingAssignment snapshot work).map Tickets.Assignment.dispatchKey

/-- A pending attempt is ensured again, anything else would be a first Start. -/
def requestOf (context : RetryContext) (operationId hash : String) : ReadyRetryRequest :=
  match context.pendingKey with
  | some dispatchKey => .intent dispatchKey hash
  | none => .start operationId hash

section Steps
variable (s : Recovery) (place : Nat)

def Recovery.setStage (attempt : Attempt) (stage : Stage) : Recovery :=
  { s with attempts := s.attempts.set place (some { attempt with stage := stage }) }

def Recovery.stop : Recovery := { s with attempts := s.attempts.set place none }

def Recovery.append (key : ReadyRetryKey) (entry : Entry) : Recovery :=
  { s with entries := fun other =>
      if other = key then s.entries other ++ [entry] else s.entries other }

def Recovery.see (snapshot : Tickets.Snapshot) : Recovery := { s with seen := s.seen ++ [snapshot] }

def beginAttempt (snapshot : Tickets.Snapshot) (workId identityHash : String) (remainingMs : Nat)
    (reading : Option Nat) : Recovery :=
  match snapshot.tickets.lookup workId, reading with
  | some work, some now =>
    if (pendingAssignment snapshot work).isSome || startable work then
      { s.see snapshot with attempts := s.attempts ++
          [some ⟨contextOf snapshot work workId identityHash remainingMs, .loading now⟩] }
    else s
  | _, _ => s

/-- Nothing is exchanged that does not validate. -/
def save (attempt : Attempt) (value : VersionedReadyRetry) (record : ReadyRetryRecord) (why : Why)
    (now : Nat) : Recovery :=
  match validateReadyRetryRecord record with
  | .error _ => s.stop place
  | .ok () => s.setStage place attempt (.saving value record why now)

def follow (attempt : Attempt) (value : VersionedReadyRetry) (now : Nat) : Verdict → Recovery
  | .stop _ => s.stop place
  | .save record why => save s place attempt value record why now

def saveResult (attempt : Attempt) (value : VersionedReadyRetry) (why : Why) :
    Except String ReadyRetryRecord → Recovery
  | .error _ => s.stop place
  | .ok record => save s place attempt value record why 0

def load (attempt : Attempt) (now : Nat) : Recovery :=
  match (s.entries attempt.context.key).getLast? with
  | some entry => s.setStage place attempt
      (.loaded ⟨(s.entries attempt.context.key).length, entry.record⟩)
  | none =>
    match freshRecord attempt.context now with
    | .error _ => s.stop place
    | .ok record => s.setStage place attempt (.creating record)

/-- What follows an exchange that was acknowledged. -/
def resume (attempt : Attempt) (value : VersionedReadyRetry) (why : Why) (now : Nat) : Recovery :=
  match why with
  | .created => s.setStage place attempt (.loaded value)
  | .epoch => follow s place attempt value now (checkAdmissible attempt.context value.record now)
  | .floor => s.setStage place attempt (.permitted value)
  | .reserve => s.setStage place attempt
      (.reserved value (if attempt.context.pendingKey.isSome then 2 else 1))
  | .quarantine | .failure | .observed | .conflict => s.stop place

/-- The exchange takes place if nothing was stored since; its answer may be lost. -/
def exchange (attempt : Attempt) (revision : Nat) (record : ReadyRetryRecord) (why : Why)
    (now : Nat) (acknowledged : Bool) : Recovery :=
  if (s.entries attempt.context.key).length = revision then
    let stored := s.append attempt.context.key ⟨record, why⟩
    if acknowledged then resume stored place attempt ⟨revision + 1, record⟩ why now
    else stored.stop place
  else s.stop place

/-- The last look at the clock before the runtime is entered. -/
def enter (attempt : Attempt) (value : VersionedReadyRetry) (checks : Nat)
    (reading : Option Nat) : Recovery :=
  match checkTime value.record reading with
  | .error _ => s.stop place
  | .ok now =>
    if checks ≤ 1 then
      let admission : Admission := ⟨attempt.context.key, value.revision, now⟩
      { s with admissions := s.admissions ++ [admission] }.setStage place attempt (.admitted value)
    else s.setStage place attempt (.reserved value (checks - 1))

end Steps

inductive Act where
  | begin_ (snapshot : Tickets.Snapshot) (workId identityHash : String) (remainingMs : Nat)
    (reading : Option Nat)
  | load (place : Nat)
  | decide_ (place : Nat) (reading : Option Nat)
  | exchange (place : Nat) (acknowledged : Bool)
  | refuse (place : Nat) (kind : ReadyBlockKind) (reason : String) (snapshot : Tickets.Snapshot)
    (reading : Option Nat)
  | reserve (place : Nat) (operationId hash : String) (reading : Option Nat)
  | enter (place : Nat) (reading : Option Nat)
  | observe (place : Nat) (dispatchKey : String) (snapshot : Tickets.Snapshot)
    (reading : Option Nat)
  | reject (place : Nat) (reading : Option Nat)
  | lose (place : Nat)

def Act.place : Act → Option Nat
  | .begin_ _ _ _ _ _ => none
  | .load place | .decide_ place _ | .exchange place _ | .refuse place _ _ _ _
  | .reserve place _ _ _ | .enter place _ | .observe place _ _ _ | .reject place _
  | .lose place => some place

def stepOf (s : Recovery) (place : Nat) (attempt : Attempt) : Act → Recovery
  | .begin_ _ _ _ _ _ => s
  | .load _ =>
    match attempt.stage with
    | .loading now => load s place attempt now
    | _ => s
  | .decide_ _ reading =>
    match attempt.stage, reading with
    | .loaded value, some now => follow s place attempt value now (check attempt.context value now)
    | .loaded _, none => s.stop place
    | _, _ => s
  | .exchange _ acknowledged =>
    match attempt.stage with
    | .creating record => exchange s place attempt 0 record .created 0 acknowledged
    | .saving value record why now => exchange s place attempt value.revision record why now
        acknowledged
    | _ => s
  | .refuse _ kind reason snapshot reading =>
    match attempt.stage with
    | .permitted value | .admitted value => saveResult (s.see snapshot) place attempt value .failure
        (failure value.record kind reason snapshot reading)
    | _ => s
  | .reserve _ operationId hash reading =>
    match attempt.stage with
    | .permitted value => saveResult s place attempt value .reserve
        (reserve value.record (requestOf attempt.context operationId hash) reading)
    | _ => s
  | .enter _ reading =>
    match attempt.stage with
    | .reserved value checks => enter s place attempt value checks reading
    | _ => s
  | .observe _ dispatchKey snapshot reading =>
    match attempt.stage with
    | .admitted value => saveResult (s.see snapshot) place attempt value .observed
        (observed value.record dispatchKey snapshot reading)
    | _ => s
  | .reject _ reading =>
    -- Only the dispatch of a first Start tells a conflict from other errors.
    match attempt.stage, attempt.context.pendingKey with
    | .admitted value, none => saveResult s place attempt value .conflict
        (conflict value.record reading)
    | _, _ => s
  | .lose _ => s.stop place

def step (s : Recovery) : Act → Recovery
  | .begin_ snapshot workId identityHash remainingMs reading =>
    beginAttempt s snapshot workId identityHash remainingMs reading
  | act =>
    match act.place.bind (fun place => (s.attempts[place]?.join).map (fun a => (place, a))) with
    | some (place, attempt) => stepOf s place attempt act
    | none => s

end Ready.Retries
