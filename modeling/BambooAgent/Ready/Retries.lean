import BambooAgent.Ready.Policies

/- The durable record of the retries of one Work, and what the operations make of it. -/
namespace Ready.Retries
open SortedMaps

def readyRetryLimit : Nat := 3

def readyRetryReasonLimit : Nat := 2048

def u64Max : Nat := 2 ^ 64 - 1

structure ReadyRetryKey where
  scopeId : String
  workId : String
  deriving DecidableEq

inductive ReadyRetryRequest where
  | start (operationId requestHash : String)
  | intent (dispatchKey specHash : String)

inductive ReadyRetryPhase where
  | ready
  | reserved
  | deferred
  | quarantined
  deriving DecidableEq

structure ReadyRetryRecord where
  identityHash : String
  authorityEpoch : Nat
  createdAtMs : Nat
  expiresAtMs : Nat
  lastSeenAtMs : Nat
  nextCheckAtMs : Nat
  attempts : Nat
  phase : ReadyRetryPhase
  request : Option ReadyRetryRequest
  blockKind : Option ReadyBlockKind
  reason : String

structure VersionedReadyRetry where
  revision : Nat
  record : ReadyRetryRecord

inductive ReadyReconcile where
  | deferred (workId : String) (nextCheckAtMs attempts : Nat) (reason : String)
  | blocked (workId : String) (kind : ReadyBlockKind) (reason : String)

/- Validation. -/

def isHash (value : String) : Bool :=
  value.utf8ByteSize = 64 &&
    value.toList.all (fun c => isHexDigit c && !('A' ≤ c && c ≤ 'F'))

def requestValid (record : ReadyRetryRecord) : Bool :=
  match record.request with
  | none => record.phase ≠ .reserved
  | some (.start operationId requestHash) =>
    operationId ≠ "" && operationId.utf8ByteSize ≤ 256 && isHash requestHash
  | some (.intent dispatchKey specHash) =>
    dispatchKey ≠ "" && dispatchKey.utf8ByteSize ≤ 2048 && isHash specHash

def validateReadyRetryRecord (record : ReadyRetryRecord) : Except String Unit :=
  if !isHash record.identityHash || record.authorityEpoch = 0 ||
      readyRetryLimit < record.attempts ||
      readyRetryReasonLimit < record.reason.utf8ByteSize ||
      record.expiresAtMs ≤ record.createdAtMs ||
      3600000 < record.expiresAtMs - record.createdAtMs ||
      record.lastSeenAtMs < record.createdAtMs ||
      record.nextCheckAtMs < record.createdAtMs ||
      record.expiresAtMs < record.nextCheckAtMs || !requestValid record ||
      (record.phase = .reserved && record.attempts = 0) then
    .error "invalid durable Ready retry metadata"
  else .ok ()

def validateReadyRetryTransition (previous next : ReadyRetryRecord) : Except String Unit :=
  match validateReadyRetryRecord next with
  | .error error => .error error
  | .ok () =>
    if previous.identityHash ≠ next.identityHash || previous.createdAtMs ≠ next.createdAtMs ||
        previous.expiresAtMs ≠ next.expiresAtMs || next.attempts < previous.attempts ||
        next.lastSeenAtMs < previous.lastSeenAtMs ||
        next.authorityEpoch < previous.authorityEpoch ||
        (previous.phase = .quarantined && next.phase ≠ .quarantined) then
      .error "durable retry identity/count/deadline cannot be reset"
    else .ok ()

/- Helpers. -/

def nextCheck (record : ReadyRetryRecord) (delay : Nat) : Nat :=
  min (min (record.lastSeenAtMs + delay) u64Max) record.expiresAtMs

def backoff (attempts : Nat) : Nat := 1000 * 2 ^ min (attempts - 1) 5

def fitting : Nat → List Char → List Char
  | _, [] => []
  | bytes, c :: rest => if c.utf8Size ≤ bytes then c :: fitting (bytes - c.utf8Size) rest else []

def truncateReason (reason : String) : String :=
  if readyRetryReasonLimit < reason.utf8ByteSize then
    String.ofList (fitting readyRetryReasonLimit reason.toList)
  else reason

def report (key : ReadyRetryKey) (record : ReadyRetryRecord) : ReadyReconcile :=
  .blocked key.workId (record.blockKind.getD .resource) record.reason

def canonicalIntent (request : Option ReadyRetryRequest) (snapshot : Tickets.Snapshot) :
    Except String (Option Tickets.DispatchIntent) :=
  match request with
  | none => .ok none
  | some (.start operationId requestHash) =>
    match snapshot.receipts.lookup operationId with
    | none => .ok none
    | some receipt =>
      if receipt.requestHash ≠ requestHash then .error "idempotency conflict"
      else
        match (receipt.ids.lookup "assignment").bind snapshot.assignments.lookup with
        | none => .error "original Start receipt has no Assignment"
        | some assignment => .ok (snapshot.intents.lookup assignment.dispatchKey)
  | some (.intent dispatchKey specHash) =>
    match snapshot.intents.lookup dispatchKey with
    | none => .ok none
    | some intent =>
      if intent.specHash ≠ specHash then .error "idempotency conflict" else .ok (some intent)

/- Operations. -/

/-- What a pass knows of a Work that it looks at. -/
structure RetryContext where
  key : ReadyRetryKey
  identityHash : String
  remainingMs : Nat
  snapshot : Tickets.Snapshot
  work : Tickets.Ticket
  pendingKey : Option String

/-- Why a record was stored. -/
inductive Why where
  | created
  | epoch
  | floor
  | quarantine
  | reserve
  | failure
  | observed
  | conflict

inductive Verdict where
  | stop (answer : Except String ReadyReconcile)
  | save (record : ReadyRetryRecord) (why : Why)

def freshRecord (context : RetryContext) (now : Nat) : Except String ReadyRetryRecord :=
  if u64Max < now + context.remainingMs then .error "context budget exceeded"
  else
    let record : ReadyRetryRecord :=
      { identityHash := context.identityHash, authorityEpoch := context.snapshot.authorityEpoch,
        createdAtMs := now, expiresAtMs := now + context.remainingMs, lastSeenAtMs := now,
        nextCheckAtMs := now, attempts := 0, phase := .ready, request := none, blockKind := none,
        reason := "" }
    match validateReadyRetryRecord record with
    | .error error => .error error
    | .ok () => .ok record

def quarantine (record : ReadyRetryRecord) (kind : ReadyBlockKind) (reason : String) : Verdict :=
  .save { record with phase := .quarantined, blockKind := some kind, reason := reason } .quarantine

/-- The checks after the one of the epoch; the observed clock becomes the floor. -/
def checkAdmissible (context : RetryContext) (record : ReadyRetryRecord) (now : Nat) : Verdict :=
  if readyRetryLimit ≤ record.attempts then
    quarantine record .transient "durable admission attempt limit exhausted"
  else if now < record.nextCheckAtMs then
    .stop (.ok (.deferred context.key.workId record.nextCheckAtMs record.attempts record.reason))
  else if record.request.isNone then .save { record with lastSeenAtMs := now } .floor
  else
    match canonicalIntent record.request context.snapshot with
    | .error error => .stop (.error error)
    | .ok intent =>
      match intent.filter (fun intent => context.pendingKey = some intent.dispatchKey) with
      | none => quarantine record .outcomeUnknown
          "interrupted admission has no matching original pending receipt"
      | some intent =>
        if intent.immutableSpec.authorityEpoch ≠ context.snapshot.authorityEpoch ||
            intent.immutableSpec.generation ≠ 1 then
          quarantine record .outcomeUnknown "pending receipt has a stale execution fence"
        else .save { record with lastSeenAtMs := now } .floor

/-- The part of `check` after the load. -/
def check (context : RetryContext) (value : VersionedReadyRetry) (now : Nat) : Verdict :=
  let record := value.record
  match validateReadyRetryRecord record with
  | .error error => .stop (.error error)
  | .ok () =>
    if value.revision = 0 then .stop (.error "invalid retry revision")
    else if record.identityHash ≠ context.identityHash then
      .stop (.ok (.blocked context.key.workId .permission
        "durable retry identity differs from the fresh Host decision"))
    else if record.phase = .quarantined then .stop (.ok (report context.key record))
    else if now < record.lastSeenAtMs then
      quarantine record .configuration "retry clock moved backwards"
    else if record.expiresAtMs ≤ now then
      quarantine record .configuration "original durable retry deadline expired"
    else if record.authorityEpoch ≠ context.snapshot.authorityEpoch then
      if record.request.isSome || context.work.generation ≠ 0 ||
          context.work.activeAssignment.isSome ||
          context.snapshot.authorityEpoch < record.authorityEpoch then
        quarantine record .outcomeUnknown
          "writer epoch changed; original execution needs canonical reconciliation"
      else .save { record with authorityEpoch := context.snapshot.authorityEpoch } .epoch
    else checkAdmissible context record now

def checkTime (record : ReadyRetryRecord) (reading : Option Nat) : Except String Nat :=
  match reading with
  | none => .error "retry clock predates its epoch"
  | some now =>
    if now < record.lastSeenAtMs || record.expiresAtMs ≤ now then
      .error "durable retry clock/deadline no longer permits admission"
    else .ok now

def reserve (record : ReadyRetryRecord) (request : ReadyRetryRequest) (reading : Option Nat) :
    Except String ReadyRetryRecord :=
  match checkTime record reading with
  | .error error => .error error
  | .ok now =>
    if readyRetryLimit ≤ record.attempts then .error "durable retry attempts exhausted"
    else
      let seen := { record with
        attempts := record.attempts + 1
        phase := .reserved
        request := some request
        lastSeenAtMs := now }
      .ok { seen with
        nextCheckAtMs := nextCheck seen (backoff seen.attempts)
        reason := "admission reserved; original receipt must settle this attempt" }

/-- A transient failure of a reserved attempt without an intent has an unknown outcome. -/
def failureKind (record : ReadyRetryRecord) (kind : ReadyBlockKind)
    (snapshot : Tickets.Snapshot) : Except String ReadyBlockKind :=
  if record.phase = .reserved && kind = .transient then
    match canonicalIntent record.request snapshot with
    | .error error => .error error
    | .ok none => .ok .outcomeUnknown
    | .ok (some _) => .ok kind
  else .ok kind

def failureAttempts (record : ReadyRetryRecord) (kind : ReadyBlockKind) : Nat :=
  if record.phase ≠ .reserved && kind = .transient then min (record.attempts + 1) readyRetryLimit
  else record.attempts

def failurePhase (kind : ReadyBlockKind) (attempts : Nat) : ReadyRetryPhase :=
  match kind with
  | .configuration | .permission | .outcomeUnknown => .quarantined
  | _ => if readyRetryLimit ≤ attempts then .quarantined else .deferred

def failure (record : ReadyRetryRecord) (kind : ReadyBlockKind) (reason : String)
    (snapshot : Tickets.Snapshot) (reading : Option Nat) : Except String ReadyRetryRecord :=
  match failureKind record kind snapshot, reading with
  | .error error, _ => .error error
  | .ok _, none => .error "retry clock predates its epoch"
  | .ok kind, some now =>
    let attempts := failureAttempts record kind
    let seen := { record with
      attempts := attempts
      phase := failurePhase kind attempts
      blockKind := some kind
      reason := truncateReason reason
      lastSeenAtMs := max record.lastSeenAtMs now }
    .ok { seen with
      nextCheckAtMs := nextCheck seen (if kind = .resource then 5000 else backoff attempts) }

def observed (record : ReadyRetryRecord) (dispatchKey : String) (snapshot : Tickets.Snapshot)
    (reading : Option Nat) : Except String ReadyRetryRecord :=
  match canonicalIntent record.request snapshot with
  | .error error => .error error
  | .ok intent =>
    match intent.filter (fun intent => intent.dispatchKey = dispatchKey), reading with
    | none, _ => .error "admission observation has no matching canonical receipt"
    | some _, none => .error "retry clock predates its epoch"
    | some intent, some now =>
      let seen := { record with
        request := some (.intent dispatchKey intent.specHash)
        phase := .deferred
        blockKind := none
        reason := "awaiting the original canonical runtime receipt"
        lastSeenAtMs := max record.lastSeenAtMs now }
      .ok { seen with nextCheckAtMs := nextCheck seen 5000 }

def conflict (record : ReadyRetryRecord) (reading : Option Nat) :
    Except String ReadyRetryRecord :=
  match reading with
  | none => .error "retry clock predates its epoch"
  | some now =>
    let seen := { record with
      request := none
      phase := .deferred
      blockKind := some .transient
      reason := "scope CAS rejected; fresh eligibility required"
      lastSeenAtMs := max record.lastSeenAtMs now }
    .ok { seen with nextCheckAtMs := nextCheck seen (backoff seen.attempts) }

end Ready.Retries
