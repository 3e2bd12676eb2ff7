import Mathlib
import BambooAgent.Tickets.Execute

/- The token ledger's own transactions. They change the budget, the schema and the
   publication number of a snapshot and nothing that execution depends on. -/
namespace Tickets
open SortedMaps

def Snapshot.executionFactsRevision (snapshot : Snapshot) : Nat :=
  snapshot.executionFactsSeq.getD snapshot.seq

/-- The private path to the disk that token accounting takes. -/
def publishAccounting (current snapshot : Snapshot) : Result Snapshot := do
  rejectIf ({ snapshot with
      seq := current.seq
      schema := current.schema
      executionBudget := current.executionBudget
      executionFactsSeq := current.executionFactsSeq } ≠ current)
    (.scopeDenied "accounting cannot change execution facts")
  return { snapshot with executionFactsSeq := some current.executionFactsRevision }

/-- Subtraction on counters that reports underflow. -/
def checkedSub (a b : Nat) : Option Nat := if b ≤ a then some (a - b) else none

namespace ExecutionBudget

inductive WorkTokenBlock where
  | work
  | daily
  | total
  | capacity
  | accounting
  deriving DecidableEq

/-- The accounting record and the one-time right to submit are separate. -/
inductive WorkTokenSubmission where
  | new (record : WorkTokenReservation)
  | existing (record : WorkTokenReservation)
  | blocked (block : WorkTokenBlock)
  deriving DecidableEq

def runtime (authority : Authority) : Result Unit :=
  match authority.principal with
  | .runtime => .ok ()
  | _ => fail (.scopeDenied "trusted Runtime token accounting required")

def writable (health : Health) : Result Unit :=
  rejectIf (health ≠ .writable) (.authorityUnavailable "token ledger is not writable")

/- The attempt a request is made for. -/

/-- Has this run stopped to wait for an answer that is still open? -/
def yieldedForInput (snapshot : Snapshot) (a : Assignment) : Bool :=
  a.state = .blocked && a.processStopped &&
    (a.awaitingRequest.bind snapshot.requests.lookup).any (fun r => r.status = .opened)

def submittedBy (snapshot : Snapshot) (work : Ticket) (a : Assignment) : Bool :=
  (work.currentSubmission.bind snapshot.submissions.lookup).any (fun s => s.assignmentId = a.id)

/-- A Supervisor reviews the question of the only run of this attempt that yielded. -/
def yieldedReview (snapshot : Snapshot) (request : WorkTokenRequest) (work : Ticket)
    (a : Assignment) : Bool :=
  request.purpose = .supervisorDecision && work.state = .blocked &&
    work.activeAssignment.isNone && work.currentSubmission.isNone && yieldedForInput snapshot a &&
    !snapshot.assignments.values.any (fun other => other.id ≠ a.id && other.workId = work.id &&
      other.generation = work.generation && other.contractRevision = work.contractRevision &&
      yieldedForInput snapshot other)

def currentAttempt (codec : Codec) (snapshot : Snapshot) (request : WorkTokenRequest) :
    Result Unit :=
  match request.attempt with
  | none => .ok ()
  | some attempt => do
      let work ← orElseErr (snapshot.tickets.lookup request.workId) (invalid "budget Work missing")
      let a ← orElseErr (snapshot.assignments.lookup attempt.assignmentId)
        (.scopeDenied "budget Assignment missing")
      let intent ← orElseErr (snapshot.intents.lookup a.dispatchKey)
        (.scopeDenied "budget DispatchSpec missing")
      rejectIf (a.workId ≠ work.id ∨ work.generation ≠ attempt.generation ∨
          a.generation ≠ attempt.generation ∨ a.contractRevision ≠ work.contractRevision ∨
          intent.assignmentId ≠ a.id ∨ intent.dispatchKey ≠ a.dispatchKey ∨
          intent.immutableSpec.assignmentId ≠ a.id ∨ intent.immutableSpec.workId ≠ work.id ∨
          intent.immutableSpec.generation ≠ attempt.generation ∨
          intent.immutableSpec.contractRevision ≠ work.contractRevision ∨
          intent.immutableSpec.authorityEpoch ≠ attempt.authorityEpoch ∨
          intent.immutableSpec.binding ≠ snapshot.binding ∨
          intent.specHash ≠ codec.hash (.dispatchSpec intent.immutableSpec) ∨
          a.runtime ≠ intent.receipt ∨
          (work.activeAssignment ≠ some a.id ∧ submittedBy snapshot work a = false ∧
            yieldedReview snapshot request work a = false) ∨
          work.state = .accepted ∨ work.state = .cancelled)
        (.scopeDenied "token reservation attempt changed")

/- Configuration. -/

def openBudget (limits : Option WorkTokenLimits) : WorkTokenBudget where
  revision := 0
  limits := limits
  currentUtcDay := none
  lastReservationMs := none
  totalCharged := 0
  dailyCharged := 0
  workCharged := SortedMap.empty
  reservations := SortedMap.empty
  configurations := SortedMap.empty

def configuredBudget (budget : WorkTokenBudget) (configuration : WorkTokenConfiguration) :
    WorkTokenBudget :=
  { budget with
    limits := configuration.limits
    revision := configuration.revision
    configurations := budget.configurations.insert configuration.revision configuration }

def decidingUser (authority : Authority) : Result String :=
  match authority.principal with
  | .user userId => .ok userId
  | _ => fail (.scopeDenied "explicit User token-budget decision required")

/-- An exact retry under a named epoch reads its original decision. -/
def configurationReplay (snapshot : Snapshot) (userId : String) (authorityEpoch : Option Nat)
    (expectedRevision : Nat) (limits : Option WorkTokenLimits) :
    Result (Option WorkTokenConfiguration) :=
  if authorityEpoch.isSome then do
    let revision ← orElseErr (checkedAdd expectedRevision 1) .revisionConflict
    match snapshot.executionBudget.bind (fun budget => budget.configurations.lookup revision) with
    | none => return none
    | some previous => do
        rejectIf (¬ (previous.userId = userId ∧ previous.limits = limits)) .idempotencyConflict
        return some previous
  else .ok none

/-- The configuration and, when it is a new one, what is published with it. The public
    calls differ in the epoch they name and in whether they may leave the limits out. -/
def configureWorkTokenBudgetInner (codec : Codec) (health : Health) (snapshot : Snapshot)
    (authority : Authority) (authorityEpoch : Option Nat) (expectedRevision : Nat)
    (limits : Option WorkTokenLimits) : Result (WorkTokenConfiguration × Option Snapshot) := do
  validateAuthority authority snapshot
  let userId ← decidingUser authority
  rejectIf (authorityEpoch.any (fun epoch => epoch ≠ snapshot.authorityEpoch) = true)
    .revisionConflict
  match ← configurationReplay snapshot userId authorityEpoch expectedRevision limits with
  | some previous => return (previous, none)
  | none => do
      writable health
      limitsValid limits snapshot
      rejectIf ((snapshot.executionBudget.map (fun budget => budget.revision)).getD 0 ≠
        expectedRevision) .revisionConflict
      let budget := snapshot.executionBudget.getD (openBudget limits)
      rejectIf (128 ≤ budget.configurations.size)
        (.resourceBlocked "budget configuration audit is full")
      let revision ← orElseErr (checkedAdd budget.revision 1) .revisionConflict
      let seq ← orElseErr (checkedAdd snapshot.seq 1) .revisionConflict
      let configuration : WorkTokenConfiguration := ⟨revision, userId, seq, limits⟩
      let next := { snapshot with
        schema := max snapshot.schema 8
        seq := seq
        executionBudget := some (configuredBudget budget configuration) }
      validateSnapshot codec next
      let published ← publishAccounting snapshot next
      return (configuration, some published)

/-- What reservations, settlements and reports do with the budget they arrive at. -/
def recordBudget (codec : Codec) (snapshot : Snapshot) (budget : WorkTokenBudget) :
    Result Snapshot := do
  let seq ← orElseErr (checkedAdd snapshot.seq 1) .revisionConflict
  let next := { snapshot with seq := seq, executionBudget := some budget }
  validateSnapshot codec next
  publishAccounting snapshot next

/- Reservation. -/

inductive ReserveDecision where
  | existing (record : WorkTokenReservation)
  | blocked (block : WorkTokenBlock)
  | admitted (budget : WorkTokenBudget)

def requestTokens (request : WorkTokenRequest) : Nat := request.inputCap + request.outputCap

/-- What the day of this clock value has been charged so far. -/
def dailySpent (budget : WorkTokenBudget) (day : Nat) : Nat :=
  if some day = budget.currentUtcDay then budget.dailyCharged else 0

def limitsBlock (budget : WorkTokenBudget) (request : WorkTokenRequest) (day : Nat)
    (limits : WorkTokenLimits) : Option WorkTokenBlock :=
  let used := (budget.workCharged.lookup request.workId).getD 0
  let overWork := match limits.workTokens.lookup request.workId with
    | none => true
    | some limit => limit - used < requestTokens request
  if overWork = true then some .work
  else if limits.utcDayTokens - dailySpent budget day < requestTokens request then some .daily
  else if limits.totalTokens - budget.totalCharged < requestTokens request then some .total
  else none

def reservationBlock (budget : WorkTokenBudget) (request : WorkTokenRequest) (nowMs : Nat) :
    Option WorkTokenBlock :=
  if budget.reservations.values.any (fun record => record.overCapUsage.isSome) = true then
    some .accounting
  else if maxRecords ≤ budget.reservations.size then some .capacity
  else budget.limits.bind (limitsBlock budget request (nowMs / dayMs))

/-- Every check of a reservation, in the order it makes them. -/
def reserveDecision (codec : Codec) (health : Health) (snapshot : Snapshot)
    (authority : Authority) (request : WorkTokenRequest) (nowMs : Nat) :
    Result ReserveDecision := do
  validateAuthority authority snapshot
  runtime authority
  validRequest request
  writable health
  rejectIf ((snapshot.tickets.lookup request.workId).map (fun work => work.kind) ≠ some .work ∨
      snapshot.project.links.lookup request.workId ≠ some request.projectId)
    (.scopeDenied "token request Work/Project mismatch")
  let budget ← orElseErr snapshot.executionBudget
    (.resourceBlocked "Work token limits are not configured")
  match budget.reservations.lookup request.operationId with
  | some record => do
      rejectIf (record.request ≠ request) .idempotencyConflict
      return .existing record
  | none => do
      rejectIf (request.observedSeq ≠ snapshot.seq) .revisionConflict
      currentAttempt codec snapshot request
      rejectIf (budget.lastReservationMs.any (fun last => nowMs < last) = true)
        (.resourceBlocked "Work token clock regressed")
      match reservationBlock budget request nowMs with
      | some block => return .blocked block
      | none => return .admitted budget

def newReservation (codec : Codec) (snapshot : Snapshot) (request : WorkTokenRequest)
    (nowMs : Nat) : WorkTokenReservation where
  request := request
  receipt := codec.hash (.tokenRequest snapshot.binding request)
  utcDay := nowMs / dayMs
  usage := none
  overCapUsage := none

/-- Charge the full caps of a new reservation. -/
def chargeReservation (budget : WorkTokenBudget) (record : WorkTokenReservation) (nowMs : Nat) :
    Result WorkTokenBudget := do
  let tokens := requestTokens record.request
  let daily ← orElseErr (checkedAdd (dailySpent budget record.utcDay) tokens)
    (invalid "daily token overflow")
  let total ← orElseErr (checkedAdd budget.totalCharged tokens) (invalid "total token overflow")
  let used ← orElseErr
    (checkedAdd ((budget.workCharged.lookup record.request.workId).getD 0) tokens)
    (invalid "Work token overflow")
  return { budget with
    currentUtcDay := some record.utcDay
    lastReservationMs := some nowMs
    dailyCharged := daily
    totalCharged := total
    workCharged := budget.workCharged.insert record.request.workId used
    reservations := budget.reservations.insert record.request.operationId record }

def reserveWorkTokenSubmission (codec : Codec) (health : Health) (snapshot : Snapshot)
    (authority : Authority) (request : WorkTokenRequest) (nowMs : Nat) :
    Result (WorkTokenSubmission × Option Snapshot) := do
  match ← reserveDecision codec health snapshot authority request nowMs with
  | .existing record => return (.existing record, none)
  | .blocked block => return (.blocked block, none)
  | .admitted budget => do
      let record := newReservation codec snapshot request nowMs
      let charged ← chargeReservation budget record nowMs
      let published ← recordBudget codec snapshot charged
      return (.new record, some published)

/- Settlement. -/

inductive SettleDecision where
  | unchanged (record : WorkTokenReservation)
  | overCap (budget : WorkTokenBudget) (record : WorkTokenReservation)
  | settle (budget : WorkTokenBudget) (old record : WorkTokenReservation)

def isKnown (usage : Option ExecutionTokenUsage) : Bool :=
  match usage with
  | some (.known _ _) => true
  | _ => false

def accountingHalted : Error :=
  .resourceBlocked "provider usage exceeded reserved ceilings; accounting halted"

def receiptRecord (budget : Option WorkTokenBudget) (operationId requestHash receipt : String) :
    Result WorkTokenReservation := do
  let old ← orElseErr (budget.bind (fun budget => budget.reservations.lookup operationId))
    (.scopeDenied "unknown token receipt")
  rejectIf (old.receipt ≠ receipt ∨ old.request.requestHash ≠ requestHash) .idempotencyConflict
  return old

def measured (budget : WorkTokenBudget) (old : WorkTokenReservation)
    (usage : ExecutionTokenUsage) : SettleDecision :=
  match usage with
  | .known inputTokens outputTokens =>
      if inputTokens > old.request.inputCap ∨ outputTokens > old.request.outputCap then
        .overCap budget { old with
          overCapUsage := some ⟨some inputTokens, some outputTokens, none⟩ }
      else .settle budget old { old with usage := some usage }
  | .unknown => .settle budget old { old with usage := some usage }

def settleDecision (health : Health) (snapshot : Snapshot) (authority : Authority)
    (operationId requestHash receipt : String) (usage : ExecutionTokenUsage) :
    Result SettleDecision := do
  validateAuthority authority snapshot
  runtime authority
  writable health
  let budget ← orElseErr snapshot.executionBudget (.resourceBlocked "token ledger unavailable")
  let old ← receiptRecord (some budget) operationId requestHash receipt
  rejectIf (old.overCapUsage.isSome = true) accountingHalted
  if old.usage = some usage then return .unchanged old
  else do
    rejectIf (isKnown old.usage = true) .idempotencyConflict
    return measured budget old usage

def refundDay (budget : WorkTokenBudget) (utcDay refund : Nat) : Result Nat :=
  if some utcDay = budget.currentUtcDay then
    orElseErr (checkedSub budget.dailyCharged refund) (invalid "daily token refund underflow")
  else .ok budget.dailyCharged

/-- Give back what the settled record costs less than the one it replaces. -/
def refundReservation (budget : WorkTokenBudget) (operationId : String)
    (old record : WorkTokenReservation) : Result WorkTokenBudget := do
  let before ← charge old
  let after ← charge record
  let refund ← orElseErr (checkedSub before after)
    (invalid "token settlement increases a reservation")
  let total ← orElseErr (checkedSub budget.totalCharged refund)
    (invalid "total token refund underflow")
  let spent ← orElseErr (budget.workCharged.lookup record.request.workId)
    (invalid "charged Work missing")
  let used ← orElseErr (checkedSub spent refund) (invalid "Work token refund underflow")
  let daily ← refundDay budget record.utcDay refund
  return { budget with
    totalCharged := total
    workCharged := budget.workCharged.insert record.request.workId used
    dailyCharged := daily
    reservations := budget.reservations.insert operationId record }

def reported (budget : WorkTokenBudget) (operationId : String) (record : WorkTokenReservation) :
    WorkTokenBudget :=
  { budget with reservations := budget.reservations.insert operationId record }

/-- What the caller gets and what is published. Usage above a reserved cap is published
    as a report, and the caller gets the halt as an error all the same. -/
def settleWorkTokens (codec : Codec) (health : Health) (snapshot : Snapshot)
    (authority : Authority) (operationId requestHash receipt : String)
    (usage : ExecutionTokenUsage) : Result (Result WorkTokenReservation × Option Snapshot) := do
  match ← settleDecision health snapshot authority operationId requestHash receipt usage with
  | .unchanged record => return (.ok record, none)
  | .overCap budget record => do
      let published ← recordBudget codec snapshot (reported budget operationId record)
      return (fail accountingHalted, some published)
  | .settle budget old record => do
      let refunded ← refundReservation budget operationId old record
      let published ← recordBudget codec snapshot refunded
      return (.ok record, some published)

/- Reports of usage above a cap. -/

inductive ReportDecision where
  | unchanged (record : WorkTokenReservation)
  | report (budget : WorkTokenBudget) (record : WorkTokenReservation)

def reportDecision (health : Health) (snapshot : Snapshot) (authority : Authority)
    (operationId requestHash receipt : String) (report : ExecutionTokenOverCapUsage) :
    Result ReportDecision := do
  validateAuthority authority snapshot
  runtime authority
  writable health
  let old ← receiptRecord snapshot.executionBudget operationId requestHash receipt
  match old.overCapUsage with
  | some previous => do
      rejectIf (previous ≠ report) .idempotencyConflict
      return .unchanged old
  | none => do
      rejectIf (isKnown old.usage = true ∨ exceeds report old.request = false)
        (invalid "report does not prove an unsettled reservation exceeded its ceilings")
      let budget ← expect snapshot.executionBudget "configured"
      return .report budget { old with overCapUsage := some report }

def reportWorkTokenOverCap (codec : Codec) (health : Health) (snapshot : Snapshot)
    (authority : Authority) (operationId requestHash receipt : String)
    (report : ExecutionTokenOverCapUsage) : Result (WorkTokenReservation × Option Snapshot) := do
  match ← reportDecision health snapshot authority operationId requestHash receipt report with
  | .unchanged record => return (record, none)
  | .report budget record => do
      let published ← recordBudget codec snapshot (reported budget operationId record)
      return (record, some published)

end ExecutionBudget

end Tickets
