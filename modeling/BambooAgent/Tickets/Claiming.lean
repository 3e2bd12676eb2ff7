import BambooAgent.Tickets.Execute

/- The bounded selection of one Ready Work for a new claim. It publishes nothing. -/
namespace Tickets
open SortedMaps

def claimCandidateLimit : Nat := 64

structure ClaimCandidate where
  workId : String
  workspace : Option ExecutionWorkspace

structure SnapshotRef where
  commit : String
  seq : Nat
  authorityEpoch : Nat
  deriving DecidableEq

inductive ClaimDecision where
  | prepared (command : Command)
  | capacityBlocked (occupied capacity : Nat)
  | noEligibleWork

/-- The assignments that still hold resources. -/
def occupied (snapshot : Snapshot) : Nat := snapshot.assignments.values.countP holdsResources

def dependencyReady (snapshot : Snapshot) (id : String) : Bool :=
  (snapshot.tickets.lookup id).any (fun dependency => dependency.state = .accepted &&
    dependency.acceptedSubmission.any (fun id => snapshot.submissions.contains id))

def eligible (snapshot : Snapshot) (candidate : ClaimCandidate) :
    Option (Ticket × ClaimCandidate) :=
  (snapshot.tickets.lookup candidate.workId).bind (fun work =>
    if work.kind = .work ∧ work.state = .ready ∧ work.paused = false ∧ work.archived = false ∧
        work.activeAssignment = none ∧ work.dependsOn.items.all (dependencyReady snapshot) = true
    then some (work, candidate) else none)

/-- Oldest update first, the id breaks ties. -/
def before (a b : Ticket) : Bool := a.updatedSeq < b.updatedSeq || (a.updatedSeq = b.updatedSeq && a.id < b.id)

def oldest (candidates : List (Ticket × ClaimCandidate)) : Option (Ticket × ClaimCandidate) :=
  candidates.foldl (fun best next => match best with
    | none => some next
    | some b => if before next.1 b.1 = true then some next else some b) none

def claimCommand (snapshot : Snapshot) (operationId : String) (work : Ticket)
    (candidate : ClaimCandidate) : Command where
  operationId := operationId
  binding := snapshot.binding
  expectedSeq := snapshot.seq
  expectedEpoch := snapshot.authorityEpoch
  operations := [.start work.id "assignment" candidate.workspace]
  source := none

def requireClaimAuthority (authority : Authority) : Result Unit :=
  match authority.principal with
  | .supervisor _ => .ok ()
  | .user _ => .ok ()
  | _ => fail (.scopeDenied "Supervisor/User claim authority required")

def prepareReadyClaim (commit : String) (snapshot : Snapshot) (authority : Authority)
    (observed : SnapshotRef) (operationId : String) (candidates : List ClaimCandidate)
    (capacity : Nat) : Result ClaimDecision := do
  validateAuthority authority snapshot
  requireClaimAuthority authority
  rejectIf (observed ≠ ⟨commit, snapshot.seq, snapshot.authorityEpoch⟩) .revisionConflict
  rejectIf (operationId = "" ∨ operationId.utf8ByteSize > 256 ∨
      candidates.length > claimCandidateLimit ∨
      ¬ (candidates.map (fun c => c.workId)).Nodup) (invalid "invalid claim id or candidate bound")
  rejectIf (snapshot.receipts.contains operationId = true) .idempotencyConflict
  if capacity ≤ occupied snapshot then return .capacityBlocked (occupied snapshot) capacity
  else match oldest (candidates.filterMap (eligible snapshot)) with
    | none => return .noEligibleWork
    | some chosen => return .prepared (claimCommand snapshot operationId chosen.1 chosen.2)

end Tickets
