import BambooAgent.Tickets.Project

/- The checks every publication makes on what surrounds the Tickets: the token ledger,
   Sprint planning, authority transfer, frozen file requests and resolved messages. -/
namespace Tickets
open SortedMaps

def workContextBytesLimit : Nat := 65536
def fileBytesLimit : Nat := 16384
def managedArtifactPrefix : String := "artifact://ticket/"

namespace ExecutionBudget

def dayMs : Nat := 86400000
def maxRecords : Nat := 1024
def maxLimit : Nat := 1000000000000

/-- Does the provider's retained report pass one of the reserved caps? -/
def exceeds (usage : ExecutionTokenOverCapUsage) (request : WorkTokenRequest) : Bool :=
  usage.inputTokens.any (fun input => request.inputCap < input) ||
    usage.outputTokens.any (fun output => request.outputCap < output) ||
    usage.totalTokens.any (fun total => request.inputCap + request.outputCap < total)

def validRequest (request : WorkTokenRequest) : Result Unit := do
  rejectIf (request.operationId = "" ∨ request.operationId.utf8ByteSize > 256 ∨
      request.workId = "" ∨ request.workId.utf8ByteSize > 256 ∨
      validHash request.requestHash = false ∨ request.inputCap = 0 ∨ request.outputCap = 0 ∨
      request.inputCap > 1048576 ∨ request.outputCap > 1048576)
    (invalid "invalid bounded Work token request")
  rejectIf (((request.purpose = .worker ∨ request.purpose = .patrol) ∧ request.attempt = none) ∨
      request.attempt.any (fun attempt => attempt.assignmentId = "" ||
        attempt.assignmentId.utf8ByteSize > 256 || attempt.generation = 0 ||
        attempt.authorityEpoch = 0) = true)
    (invalid "invalid token attempt identity")

def charge (record : WorkTokenReservation) : Result Nat :=
  match record.usage with
  | some (.known inputTokens outputTokens) => do
      rejectIf (inputTokens > record.request.inputCap ∨ outputTokens > record.request.outputCap)
        (invalid "measured token usage exceeds the reserved caps")
      orElseErr (checkedAdd inputTokens outputTokens) (invalid "measured token overflow")
  | none => .ok (record.request.inputCap + record.request.outputCap)
  | some .unknown => .ok (record.request.inputCap + record.request.outputCap)

def limitsValid (limits : Option WorkTokenLimits) (snapshot : Snapshot) : Result Unit :=
  match limits with
  | none => .ok ()
  | some limits => do
      rejectIf (limits.workTokens.isEmpty = true ∨ limits.workTokens.size > 64 ∨
          ¬ (1 ≤ limits.utcDayTokens ∧ limits.utcDayTokens ≤ maxLimit) ∨
          ¬ (1 ≤ limits.totalTokens ∧ limits.totalTokens ≤ maxLimit))
        (invalid "finite Work/day/total token limits are required")
      each limits.workTokens.entries (fun entry =>
        rejectIf (¬ (1 ≤ entry.2 ∧ entry.2 ≤ maxLimit) ∨
            (snapshot.tickets.lookup entry.1).map (fun work => work.kind) ≠ some .work)
          (invalid "budget limit needs an existing Work and finite cap"))

def validateConfiguration (budget : WorkTokenBudget) (snapshot : Snapshot) (revision : Nat) :
    Result Unit := do
  let configuration ← orElseErr (budget.configurations.lookup revision)
    (invalid "budget configuration audit gap")
  rejectIf (configuration.revision ≠ revision ∨ configuration.userId = "" ∨
      configuration.userId.utf8ByteSize > 256 ∨ configuration.committedSeq > snapshot.seq)
    (invalid "invalid explicit User budget decision")
  limitsValid configuration.limits snapshot

/-- What the reservations add up to so far. -/
structure Charged where
  total : Nat
  daily : Nat
  works : SortedMap String Nat

def chargeDay (budget : WorkTokenBudget) (daily utcDay amount : Nat) : Result Nat :=
  if some utcDay = budget.currentUtcDay then
    orElseErr (checkedAdd daily amount) (invalid "daily tokens overflow")
  else .ok daily

def chargeRecord (codec : Codec) (budget : WorkTokenBudget) (snapshot : Snapshot)
    (charged : Charged) (entry : String × WorkTokenReservation) : Result Charged := do
  let record := entry.2
  let request := record.request
  validRequest request
  rejectIf ((snapshot.tickets.lookup request.workId).map (fun work => work.kind) ≠ some .work ∨
      snapshot.project.links.lookup request.workId ≠ some request.projectId)
    (invalid "Work token receipt lost its Work/Project identity")
  rejectIf (record.overCapUsage.any (fun usage => !exceeds usage request ||
      match record.usage with
      | some (.known _ _) => true
      | _ => false) = true)
    (invalid "invalid retained over-cap provider report")
  rejectIf (entry.1 ≠ request.operationId ∨
      record.receipt ≠ codec.hash (.tokenRequest snapshot.binding request) ∨
      ¬ (budget.currentUtcDay.any (fun day => record.utcDay ≤ day) = true))
    (invalid "invalid immutable Work token receipt")
  let amount ← charge record
  let total ← orElseErr (checkedAdd charged.total amount) (invalid "token total overflow")
  let used ← orElseErr
    (checkedAdd ((charged.works.lookup request.workId).getD 0) amount)
    (invalid "Work tokens overflow")
  let daily ← chargeDay budget charged.daily record.utcDay amount
  return ⟨total, daily, charged.works.insert request.workId used⟩

def overLimits (limits : WorkTokenLimits) (charged : Charged) : Bool :=
  limits.totalTokens < charged.total || limits.utcDayTokens < charged.daily ||
    charged.works.entries.any (fun entry =>
      match limits.workTokens.lookup entry.1 with
      | none => true
      | some limit => limit < entry.2)

def validateBudget (codec : Codec) (snapshot : Snapshot) (budget : WorkTokenBudget) :
    Result Unit := do
  rejectIf (snapshot.schema < 8 ∨ budget.revision = 0 ∨ budget.reservations.size > maxRecords)
    (invalid "invalid Work token budget schema/revision/capacity")
  limitsValid budget.limits snapshot
  rejectIf (budget.configurations.size > 128 ∨ budget.configurations.size ≠ budget.revision)
    (invalid "budget configuration audit capacity/revision mismatch")
  each (List.range budget.revision)
    (fun earlier => validateConfiguration budget snapshot (earlier + 1))
  rejectIf ((budget.configurations.lookup budget.revision).map (fun c => c.limits) ≠
      some budget.limits)
    (invalid "budget limits differ from their explicit User decision")
  let charged ← budget.reservations.entries.foldlM (chargeRecord codec budget snapshot)
    ⟨0, 0, SortedMap.empty⟩
  rejectIf (charged.total ≠ budget.totalCharged ∨ charged.daily ≠ budget.dailyCharged ∨
      charged.works ≠ budget.workCharged ∨
      budget.limits.any (fun limits => overLimits limits charged) = true ∨
      budget.lastReservationMs.map (fun ms => ms / dayMs) ≠ budget.currentUtcDay)
    (invalid "Work token counters/limits do not match canonical reservations")

def validate (codec : Codec) (snapshot : Snapshot) : Result Unit := do
  rejectIf (snapshot.executionFactsSeq.any
      (fun seq => snapshot.schema < 8 || snapshot.seq < seq) = true)
    (invalid "invalid execution-facts revision")
  match snapshot.executionBudget with
  | none =>
      rejectIf (snapshot.schema ≥ 8)
        (invalid "budget schema cannot erase its canonical ledger")
  | some budget => validateBudget codec snapshot budget

@[simp] theorem returns_limitsValid (limits : Option WorkTokenLimits) (snapshot : Snapshot) :
    Returns (limitsValid limits snapshot) := by
  cases limits with
  | none => trivial
  | some limits =>
    simp only [limitsValid, returns_bind, returns_rejectIf, true_and]
    intro _ _
    exact returns_each (fun _ _ => returns_rejectIf _ _)

theorem returns_charge (record : WorkTokenReservation) : Returns (charge record) := by
  unfold charge
  split <;> simp

theorem returns_chargeRecord (codec : Codec) (budget : WorkTokenBudget) (snapshot : Snapshot)
    (charged : Charged) (entry : String × WorkTokenReservation) :
    Returns (chargeRecord codec budget snapshot charged entry) := by
  have today : ∀ amount, Returns (chargeDay budget charged.daily entry.2.utcDay amount) := by
    unfold chargeDay
    split <;> simp
  simp [chargeRecord, validRequest, returns_charge, today]

theorem returns_validate (codec : Codec) (snapshot : Snapshot) :
    Returns (validate codec snapshot) := by
  simp only [validate, returns_bind, returns_rejectIf, true_and]
  intro _ _
  split
  · simp
  · simp only [validateBudget, returns_bind, returns_rejectIf, returns_limitsValid, true_and]
    intro _ _ _ _ _ _
    refine ⟨returns_each (fun _ _ => by simp [validateConfiguration]), fun _ _ _ _ => ?_⟩
    exact ⟨returns_foldlM (fun _ _ _ => returns_chargeRecord _ _ _ _ _), fun _ _ => trivial⟩

end ExecutionBudget

namespace Sprints

def memberLimit : Nat := 128
def historyLimit : Nat := 2048

def definitionValid (definition : SprintDefinition) : Result Unit :=
  rejectIf (trimIsEmpty definition.name = true ∨ definition.name.utf8ByteSize > 256 ∨
      trimIsEmpty definition.goal = true ∨ definition.goal.utf8ByteSize > 4096 ∨
      definition.startsAt.any (fun a => definition.endsAt.any (fun b => b < a)) = true)
    (invalid "invalid Sprint name, goal or dates")

def work (snapshot : Snapshot) (project : ProjectId) (id : String) : Result Ticket := do
  let work ← orElseErr (snapshot.tickets.lookup id) (invalid "Work not found")
  rejectIf (work.kind ≠ .work ∨ snapshot.project.links.lookup id ≠ some project)
    (.scopeDenied "Sprint requires a Work in the same Project")
  return work

def sprint (snapshot : Snapshot) (project : ProjectId) (id : SprintId) : Result Sprint := do
  let sprint ← orElseErr (snapshot.sprint.sprints.lookup id) (invalid "Sprint not found")
  rejectIf (sprint.projectId ≠ project) (.scopeDenied "Sprint Project mismatch")
  return sprint

def counts (versions : List SprintWorkVersion) : SprintCounts where
  total := versions.length
  accepted := versions.countP (fun v => v.accepted)
  pendingAcceptance := versions.countP (fun v => v.state = .submitted)
  blocked := versions.countP (fun v => v.state = .blocked)
  cancelled := versions.countP (fun v => v.state = .cancelled)
  unfinished := versions.countP (fun v => !v.accepted && v.state ≠ .cancelled)

def carriedOutTo (snapshot : Snapshot) (project : ProjectId) (target : Option SprintId) :
    Result SprintCloseDisposition :=
  match target with
  | none => .ok .backlog
  | some sprintId => do
      let _ ← sprint snapshot project sprintId
      return .sprint sprintId

def replayChange (snapshot : Snapshot) (s : Sprint) (e : SprintMembershipEvent)
    (historical : SortedSet String) : Result (Bool × SortedSet String) :=
  match e.change with
  | .added => .ok (!historical.contains e.workId, historical.insert e.workId)
  | .removed => .ok (historical.contains e.workId, historical.erase e.workId)
  | .carriedIn sourceId => do
      let source ← sprint snapshot s.projectId sourceId
      let closed := source.closure.any (fun c => c.closedSeq = e.seq &&
        (c.members.lookup e.workId).any (fun m => m.version.recordRevision = e.workRevision &&
          m.disposition = .sprint s.id))
      return (closed && !historical.contains e.workId, historical.insert e.workId)
  | .carriedOut target => do
      let expected ← carriedOutTo snapshot s.projectId target
      return (historical.contains e.workId &&
        s.closure.any (fun c => c.closedSeq = e.seq &&
          (c.members.lookup e.workId).any (fun m => m.disposition = expected)), historical)

def replayEvent (snapshot : Snapshot) (s : Sprint) (state : SortedSet String × Nat)
    (e : SprintMembershipEvent) : Result (SortedSet String × Nat) := do
  let _ ← work snapshot s.projectId e.workId
  rejectIf (e.seq < state.2 ∨ e.seq > s.updatedSeq ∨ e.workRevision = 0 ∨
      trimIsEmpty e.source = true ∨ e.source.utf8ByteSize > 512 ∨ e.principal = "" ∨
      ¬ ((snapshot.receipts.lookup e.operationId).any
        (fun r => r.principal = e.principal && r.committedSeq = e.seq) = true))
    (invalid "invalid Sprint membership provenance")
  let outcome ← replayChange snapshot s e state.1
  rejectIf (outcome.1 = false) (invalid "invalid Sprint membership history")
  return (outcome.2, e.seq)

def dispositionValid (s : Sprint) (c : SprintClosure) (workId : String)
    (m : SprintClosedMember) : Bool :=
  let left := !m.version.accepted && m.version.state ≠ .cancelled &&
    s.history.any (fun e => e.workId = workId && e.seq = c.closedSeq &&
      match e.change with
      | .carriedOut _ => true
      | _ => false)
  match m.disposition with
  | .accepted => m.version.accepted && m.version.state = .accepted &&
      m.version.acceptedSubmission.isSome &&
      m.version.acceptedSubmission = m.version.currentSubmission
  | .cancelled => m.version.state = .cancelled && !m.version.accepted
  | .backlog => left
  | .sprint _ => left

def validateClosure (s : Sprint) : Result Unit :=
  match s.closure, s.status with
  | none, .planned => .ok ()
  | none, .active => .ok ()
  | some c, .closed => do
      rejectIf (validHash c.sourceCommit = false ∨
          checkedAdd c.sourceSeq 1 ≠ some c.closedSeq ∨ c.closedSeq ≠ s.updatedSeq ∨
          c.members.keys ≠ s.members.items ∨
          counts (c.members.values.map (fun m => m.version)) ≠ c.counts)
        (invalid "invalid frozen Sprint closure")
      each c.members.entries (fun entry =>
        rejectIf (dispositionValid s c entry.1 entry.2 = false)
          (invalid "invalid Sprint closing disposition"))
  | _, _ => fail (invalid "Sprint status and closure mismatch")

/-- The open memberships met so far; a Work belongs to one open Sprint at most. -/
def admitMember (snapshot : Snapshot) (s : Sprint) (membership : SortedSet String)
    (id : String) : Result (SortedSet String) := do
  let _ ← work snapshot s.projectId id
  if s.status = .closed then return membership
  else do
    rejectIf (membership.contains id = true) (invalid "multiple open Sprint memberships")
    return membership.insert id

def validateSprint (snapshot : Snapshot) (state : SortedSet ProjectId × SortedSet String)
    (entry : SprintId × Sprint) : Result (SortedSet ProjectId × SortedSet String) := do
  let s := entry.2
  definitionValid s.definition
  rejectIf (entry.1 ≠ s.id ∨ s.revision = 0 ∨ s.createdSeq = 0 ∨ s.createdSeq > s.updatedSeq ∨
      s.updatedSeq > snapshot.seq ∨ s.members.items.length > memberLimit ∨
      s.history.length > historyLimit)
    (invalid "invalid Sprint identity, revision or bounds")
  rejectIf (s.status = .active ∧ state.1.contains s.projectId = true)
    (invalid "multiple active Sprints in Project")
  let active := if s.status = .active then state.1.insert s.projectId else state.1
  let membership ← s.members.items.foldlM (admitMember snapshot s) state.2
  let replayed ← s.history.foldlM (replayEvent snapshot s) (SortedSet.empty, s.createdSeq)
  rejectIf (replayed.1 ≠ s.members) (invalid "Sprint members differ from history")
  validateClosure s
  return (active, membership)

def validate (snapshot : Snapshot) : Result Unit := do
  rejectIf (snapshot.sprint.isEmpty = false ∧ snapshot.schema < 6)
    (invalid "Sprint planning requires schema 6")
  let _ ← snapshot.sprint.sprints.entries.foldlM (validateSprint snapshot)
    (SortedSet.empty, SortedSet.empty)

variable (snapshot : Snapshot)

@[simp] theorem returns_work (project : ProjectId) (id : String) : Returns (work snapshot project id) := by
  simp [work]

@[simp] theorem returns_sprint (project : ProjectId) (id : SprintId) :
    Returns (sprint snapshot project id) := by
  simp [sprint]

theorem returns_replayEvent (s : Sprint) (state : SortedSet String × Nat)
    (e : SprintMembershipEvent) : Returns (replayEvent snapshot s state e) := by
  have carried : ∀ target, Returns (carriedOutTo snapshot s.projectId target) := by
    intro target
    cases target <;> simp [carriedOutTo]
  have replayed : ∀ historical, Returns (replayChange snapshot s e historical) := by
    unfold replayChange
    split <;> simp [carried]
  simp [replayEvent, replayed]

theorem returns_validateClosure (s : Sprint) : Returns (validateClosure s) := by
  unfold validateClosure
  split
  · trivial
  · trivial
  · simp only [returns_bind, returns_rejectIf, true_and]
    intro _ _
    exact returns_each (fun _ _ => returns_rejectIf _ _)
  · trivial

theorem returns_admitMember (s : Sprint) (membership : SortedSet String) (id : String) :
    Returns (admitMember snapshot s membership id) := by
  simp only [admitMember, returns_bind, returns_work, true_and]
  split <;> simp

theorem returns_validate : Returns (validate snapshot) := by
  simp only [validate, returns_bind, returns_rejectIf, true_and, returns_pure]
  intro _ _
  refine ⟨returns_foldlM (fun _ _ _ => ?_), fun _ _ => trivial⟩
  simp only [validateSprint, returns_bind, returns_rejectIf, true_and, definitionValid]
  intro _ _ _ _ _ _
  refine ⟨returns_foldlM (fun _ _ _ => returns_admitMember _ _ _ _), fun _ _ => ?_⟩
  refine ⟨returns_foldlM (fun _ _ _ => returns_replayEvent _ _ _ _), fun _ _ _ _ => ?_⟩
  exact ⟨returns_validateClosure _, fun _ _ => trivial⟩

end Sprints

end Tickets
