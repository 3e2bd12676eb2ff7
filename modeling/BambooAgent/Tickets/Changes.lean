import BambooAgent.Library.Evolution
import BambooAgent.Tickets.Operations

/- What one operation can do to one record. An edit names the operation, what the
   operation checked about the record, and the record after it; the records a snapshot
   holds after an operation are the old ones, edited ones and the one it created. -/
namespace Tickets
open SortedMaps Evolutions

def StopsRuns : Operation → Prop
  | .updateContract _ _ => True
  | .cancel _ => True
  | .pause _ _ => True
  | .reopen _ => True
  | _ => False

/-- Operations that revoke what was built on a Ticket. -/
def Revoking : Operation → Prop
  | .updateContract _ _ => True
  | .cancel _ => True
  | .reopen _ => True
  | _ => False

/-- Operations that change how a Ticket is described and nothing about its work. -/
def Describing : Operation → Prop
  | .associateProject _ _ => True
  | .setProjectContext _ _ => True
  | .setPlanningMetadata _ _ _ _ => True
  | .archive _ _ => True
  | _ => False

/-- Operations that supersede open requests of a Ticket. -/
def Superseding : Operation → Prop
  | .updateContract _ _ => True
  | .setDependencies _ _ => True
  | .submit _ _ _ _ => True
  | .cancel _ => True
  | .pause _ _ => True
  | .reopen _ => True
  | _ => False

section Edits
variable (snapshot : Snapshot) (authority : Authority)

/-- An approval used by the assignment it is bound to. -/
structure Consumption (requestId fingerprint attemptId : String) (request : PendingRequest)
    (bound : String) (a : Assignment) : Prop where
  requested : snapshot.requests.lookup requestId = some request
  binding : request.assignmentId = some bound
  found : snapshot.assignments.lookup bound = some a
  worker : authority.worker a = .ok ()
  permit : activePermit snapshot a = .ok ()
  outside : startsWith attemptId "worker-file/" = false
  fingerprint : hasFingerprint request fingerprint = true
  generation : request.generation = a.generation
  contractRevision : request.contractRevision = a.contractRevision
  approved : request.status = .approved
  unused : a.effects.lookup attemptId = none

inductive AssignmentEdit : Operation → String → Assignment → Assignment → Prop where
  | stopping {id : String} (stops : StopsRuns operation) (change : Stopping snapshot.seq a b) :
      AssignmentEdit operation id a b
  | admitted {id : String}
      (runtime : authority.runtime = .ok ()) (pending : a.state = .dispatchPending)
      (first : a.runtime = none)
      (beside : ∀ key other, snapshot.assignments.lookup key = some other → other.id ≠ a.id →
        holdsResources other = true → admitBeside receipt a other = .ok ()) :
      AssignmentEdit (.admitted id receipt) id a
        (bump { a with runtime := some receipt, state := .admitted } snapshot.seq)
  | running {id : String} (runtime : authority.runtime = .ok ())
      (admitted : a.state = .admitted) (permit : activePermit snapshot a = .ok ()) :
      AssignmentEdit (.running id) id a (bump { a with state := .running } snapshot.seq)
  | planned {id : String}
      (worker : authority.worker a = .ok ()) (permit : activePermit snapshot a = .ok ()) :
      AssignmentEdit (.replacePlan id revision steps) id a
        (bump { a with plan := ⟨a.plan.planRevision + 1, steps⟩ } snapshot.seq)
  | yielded {id : String}
      (worker : authority.worker a = .ok ()) (permit : activePermit snapshot a = .ok ()) :
      AssignmentEdit (.yieldForInput id named packetHash) id a
        (bump { a with awaitingRequest := some requestId, state := .blocked } snapshot.seq)
  | consumed {id : String}
      (used : Consumption snapshot authority requestId fingerprint attemptId request bound holder)
      (named : holder.id = id) :
      AssignmentEdit (.consumeApproval requestId fingerprint attemptId) id a
        { a with effects := a.effects.insert attemptId (plannedEffect fingerprint) }
  | recorded {id : String}
      (worker : authority.worker a = .ok ()) (permit : activePermit snapshot a = .ok ())
      (found : a.effects.lookup attemptId = some old)
      (outside : startsWith attemptId "worker-file/" = false)
      (same : old.actionFingerprint = effect.actionFingerprint) :
      AssignmentEdit (.recordEffect id attemptId effect) id a
        (bump { a with effects := a.effects.insert attemptId effect } snapshot.seq)
  | submitted {id : String} (worker : authority.worker a = .ok ())
      (current : currentAttempt snapshot a = .ok ()) :
      AssignmentEdit (.submit id tempId artifacts evidence) id a
        (bump { a with state := .submitted } snapshot.seq)
  | confirmed {id : String}
      (runtime : authority.runtime = .ok ()) (settled : hasUnsettled a.effects = false) :
      AssignmentEdit (.confirmStopped id effectsReconciled) id a
        (bump { a with
          processStopped := true
          state := if a.state = .submitted then .submitted else .cancelled } snapshot.seq)
  | stopped {id : String} (runtime : authority.runtime = .ok ()) :
      AssignmentEdit (.runtimeStopped id receipt completed) id a
        (bump { a with
          processStopped := true
          state := stoppedState (hasUnsettled a.effects) cancelled waiting completed a.state }
          snapshot.seq)
  | reconciled {id : String}
      (runtime : authority.runtime = .ok ()) (stopped : a.processStopped = true) :
      AssignmentEdit (.reconcileCompleted id receipt) id a
        (bump { a with authorityEpoch := snapshot.authorityEpoch, state := .running } snapshot.seq)
  | unknown {id : String} (runtime : authority.runtime = .ok ()) :
      AssignmentEdit (.outcomeUnknown id reason) id a
        (bump { a with state := .outcomeUnknown } snapshot.seq)

/-- What Start checked of the Work and what it froze into the new assignment. -/
structure Started (files : Files) (uuid workId : String) (work : Ticket)
    (contextRef : Option String) (inputs : List DependencyInput)
    (workspace : Option ExecutionWorkspace) : Prop where
  supervisor : authority.supervisor = .ok ()
  found : snapshot.tickets.lookup workId = some work
  kind : work.kind = .work
  ready : work.state = .ready
  idle : work.activeAssignment = none
  workspace : admitWorkspace files snapshot workspace = .ok ()
  inputs : dependencies snapshot work = .ok inputs

inductive NewAssignment (files : Files) (ids : Ids) (uuid : String) :
    Operation → Assignment → Prop where
  | started (dispatchKey : String)
      (admitted : Started snapshot authority files uuid (resolve workId ids) work contextRef
        inputs workspace) :
      NewAssignment files ids uuid (.start workId tempId workspace)
        (newAssignment (dispatchSpec snapshot work (resolve workId ids) uuid contextRef inputs
          workspace) dispatchKey snapshot.seq)

inductive RequestEdit : Operation → String → PendingRequest → PendingRequest → Prop where
  | superseded {id : String} (supersedes : Superseding operation) :
      RequestEdit operation id r (superseded snapshot.seq r)
  | answered {id : String}
      (user : authority.user = .ok ()) (opened : r.status = .opened) (question : r.kind = .question) :
      RequestEdit (.answer id revision answer) id r
        { r with answer := some answer, status := .answered, updatedSeq := snapshot.seq }
  | noted {id : String} (opened : r.status = .opened) :
      RequestEdit (.yieldForInput assignmentId named packetHash) id r
        { r with workerPacketHash := some packetHash }
  | decided {id : String} (user : authority.user = .ok ()) (opened : r.status = .opened)
      (same : hasFingerprint r fingerprint = true) :
      RequestEdit (.decideApproval id revision fingerprint approve) id r
        { r with
          status := if approve = true then .approved else .denied
          updatedSeq := snapshot.seq }
  | consumed {id : String}
      (used : Consumption snapshot authority id fingerprint attemptId r bound a) :
      RequestEdit (.consumeApproval id fingerprint attemptId) id r
        { r with
          status := .consumed
          consumedAttempt := some attemptId
          updatedSeq := snapshot.seq }

inductive NewRequest (codec : Codec) (ids : Ids) (uuid : String) :
    Operation → PendingRequest → Prop where
  | asked (found : snapshot.tickets.lookup (resolve workId ids) = some work)
      (asking : askingAssignment snapshot authority work = .ok assignmentId) :
      NewRequest codec ids uuid (.ask workId tempId prompt action)
        (newRequest snapshot uuid (resolve workId ids) assignmentId work
          (requestKind codec action) prompt)

inductive NewSubmission (uuid : String) : Operation → Submission → Prop where
  | submitted {id : String} (found : snapshot.assignments.lookup id = some a)
      (worker : authority.worker a = .ok ())
      (owner : snapshot.tickets.lookup a.workId = some work)
      (ran : a.runtime = some runtime) :
      NewSubmission uuid (.submit id tempId artifacts evidence)
        (newSubmission a uuid runtime artifacts evidence (staleResult snapshot work a)
          snapshot.seq)

inductive NewTicket (ids : Ids) (uuid : String) : Operation → Ticket → Prop where
  | created (supervisor : authority.supervisor = .ok ())
      (kinds : kind ≠ .step) :
      NewTicket ids uuid (.create tempId kind parent contract dependsOn)
        (newTicket snapshot uuid kind
          (parent.map (fun p => resolve p (ids.insert tempId uuid)))
          (resolveAll dependsOn (ids.insert tempId uuid)) contract)
  | imported (supervisor : authority.supervisor = .ok ()) :
      NewTicket ids uuid (.importLegacy tempId contract source)
        (importedTicket snapshot uuid contract source)

end Edits

/- The edits of a Ticket by the operation that names it. -/

structure AcceptedSubmission (snapshot : Snapshot) (workId submissionId : String) (work : Ticket)
    (submission : Submission) (source : Assignment) : Prop where
  submitted : work.state = .submitted
  current : work.currentSubmission = some submissionId
  found : snapshot.submissions.lookup submissionId = some submission
  owner : submission.workId = workId
  fresh : submission.stale = false
  generation : submission.generation = work.generation
  contractRevision : submission.contractRevision = work.contractRevision
  inputs : dependencies snapshot work = .ok submission.dependencyInputs
  settled : hasUnsettled submission.effects = false
  matching : matchingSubmissionAssignment snapshot work submission = some source
  stopped : source.processStopped = true

/-- A report on an assignment that belongs to the Ticket `id`. -/
structure Reports (snapshot : Snapshot) (assignmentId id : String) (a : Assignment) : Prop where
  found : snapshot.assignments.lookup assignmentId = some a
  owner : a.workId = id

inductive TicketEdit (snapshot : Snapshot) (authority : Authority) (ids : Ids) (uuid : String) :
    Operation → String → Ticket → Ticket → Prop where
  | described {id : String} (describes : Describing operation) :
      TicketEdit snapshot authority ids uuid operation id w
        (touch { w with
          priority := priority
          expectedCompletionAt := deadline
          archived := archived } snapshot.seq)
  | readied (allowed : w.state = .draft ∨ (w.paused = true ∧ w.activeAssignment = none)) :
      TicketEdit snapshot authority ids uuid (.ready named) (resolve named ids) w
        (touch { w with state := .ready, paused := false, blocked := none } snapshot.seq)
  | edited (changed : w.contract ≠ contract)
      (kind : w.kind = .work ∨ w.kind = .goal) :
      TicketEdit snapshot authority ids uuid (.updateContract named contract) (resolve named ids) w
        (touch (contractEdited contract w w) snapshot.seq)
  | rewired (idle : w.activeAssignment = none) (state : w.state = .draft ∨ w.state = .ready) :
      TicketEdit snapshot authority ids uuid (.setDependencies named dependsOn)
        (resolve named ids) w
        (touch { w with
          dependsOn := resolveAll dependsOn ids
          contractRevision := w.contractRevision + 1 } snapshot.seq)
  | started
      (admitted : Started snapshot authority files uuid (resolve named ids) w contextRef inputs
        workspace) :
      TicketEdit snapshot authority ids uuid (.start named tempId workspace) (resolve named ids) w
        (touch { w with
          generation := w.generation + 1
          activeAssignment := some uuid
          state := .active
          currentSubmission := none } snapshot.seq)
  | resumed {id : String} (blocked : w.state = .blocked) (running : w.paused = false)
      (idle : w.activeAssignment = none) :
      TicketEdit snapshot authority ids uuid (.answer requestId revision answer) id w
        (touch { w with state := .ready, blocked := none } snapshot.seq)
  | yielded {id : String} (report : Reports snapshot assignmentId id a)
      (permit : activePermit snapshot a = .ok ()) :
      TicketEdit snapshot authority ids uuid (.yieldForInput assignmentId named packetHash) id w
        (touch (awaitingAnswer w) snapshot.seq)
  | submitted {id : String} (report : Reports snapshot assignmentId id a)
      (current : currentAttempt snapshot a = .ok ())
      (inputs : dependencies snapshot w = .ok a.dependencyInputs) :
      TicketEdit snapshot authority ids uuid (.submit assignmentId tempId artifacts evidence) id w
        (touch { w with
          state := .submitted
          currentSubmission := some uuid
          activeAssignment := none } snapshot.seq)
  | accepted {id : String} (supervisor : authority.supervisor = .ok ())
      (exact : AcceptedSubmission snapshot id submissionId w submission source) :
      TicketEdit snapshot authority ids uuid (.accept id submissionId evidence) id w
        (touch { w with state := .accepted, acceptedSubmission := some submissionId } snapshot.seq)
  | goalAccepted {id : String} (supervisor : authority.supervisor = .ok ()) (kind : w.kind = .goal)
      (alive : w.state ≠ .cancelled)
      (children : ∀ key child, snapshot.tickets.lookup key = some child →
        child.parent = some id → child.state = .accepted) :
      TicketEdit snapshot authority ids uuid (.acceptGoal id evidence) id w
        (touch { w with state := .accepted } snapshot.seq)
  | rejected {id : String} (state : w.state = .submitted) :
      TicketEdit snapshot authority ids uuid (.reject id submissionId reason) id w
        (touch { w with state := .ready, currentSubmission := none } snapshot.seq)
  | cancelled {id : String} :
      TicketEdit snapshot authority ids uuid (.cancel id) id w
        (touch { w with
          state := .cancelled
          paused := false
          blocked := none
          acceptedSubmission := none } snapshot.seq)
  | paused {id : String} (kind : w.kind = .work)
      (state : w.state = .draft ∨ w.state = .ready ∨ w.state = .active ∨ w.state = .blocked) :
      TicketEdit snapshot authority ids uuid (.pause id reason) id w
        (touch { w with
          paused := true
          state := .blocked
          blocked := some ⟨reason, .ready⟩ } snapshot.seq)
  | released {id : String} (report : Reports snapshot assignmentId id a)
      (active : w.activeAssignment = some assignmentId) :
      TicketEdit snapshot authority ids uuid (.confirmStopped assignmentId effectsReconciled) id w
        (touch (releasedWork w) snapshot.seq)
  | stopped {id : String} (report : Reports snapshot assignmentId id a)
      (active : w.activeAssignment = some assignmentId)
      (outcome : stoppedWork effectsUnknown (decide (w.state = .cancelled)) waiting unanswered
        completed a w = some after) :
      TicketEdit snapshot authority ids uuid (.runtimeStopped assignmentId receipt completed) id w
        (touch after snapshot.seq)
  | reconciled {id : String} (runtime : authority.runtime = .ok ())
      (report : Reports snapshot assignmentId id a)
      (generation : w.generation = a.generation)
      (contractRevision : w.contractRevision = a.contractRevision)
      (active : w.activeAssignment = some assignmentId) (alive : w.state ≠ .cancelled) :
      TicketEdit snapshot authority ids uuid (.reconcileCompleted assignmentId receipt) id w
        (touch { w with state := .active, blocked := none } snapshot.seq)
  | unknown {id : String}
      (report : Reports snapshot assignmentId id a) (alive : w.state ≠ .cancelled) :
      TicketEdit snapshot authority ids uuid (.outcomeUnknown assignmentId reason) id w
        (touch { w with blocked := some ⟨reason, w.state⟩, state := .blocked } snapshot.seq)
  | reopened {id : String} (released : requireReleased snapshot w.activeAssignment = .ok ()) :
      TicketEdit snapshot authority ids uuid (.reopen id) id w
        (touch { w with
          activeAssignment := none
          paused := false
          state := .ready
          blocked := none
          acceptedSubmission := none
          currentSubmission := none } snapshot.seq)

/-- What the revocations of an operation may then do to a Ticket. -/
def Revised (seq : Nat) (w v : Ticket) : Prop :=
  v = w ∨ v = revoked seq w ∨ v = reviewed seq w ∨ v = reviewed seq (revoked seq w)

/-- A Ticket after an operation: edited by it or not, then revised by its revocations. -/
def TicketChange (snapshot : Snapshot) (authority : Authority) (ids : Ids) (uuid : String)
    (operation : Operation) (id : String) (w v : Ticket) : Prop :=
  ∃ u, (u = w ∨ TicketEdit snapshot authority ids uuid operation id w u) ∧
    (v = u ∨ (Revoking operation ∧ Revised snapshot.seq u v))

def AssignmentChange (snapshot : Snapshot) (authority : Authority) (operation : Operation)
    (id : String) (a b : Assignment) : Prop :=
  b = a ∨ AssignmentEdit snapshot authority operation id a b

def RequestChange (snapshot : Snapshot) (authority : Authority) (operation : Operation)
    (id : String) (r q : PendingRequest) : Prop :=
  q = r ∨ RequestEdit snapshot authority operation id r q

section Changes
variable (codec : Codec) (files : Files) (authority : Authority) (ids : Ids) (uuid : String)
  (operation : Operation) (snapshot next : Snapshot)

abbrev TicketsEvolve : SortedMap String Ticket → SortedMap String Ticket → Prop :=
  Evolves (TicketChange snapshot authority ids uuid operation)
    (fun id v => id = uuid ∧ NewTicket snapshot authority ids uuid operation v)

abbrev AssignmentsEvolve : SortedMap String Assignment → SortedMap String Assignment → Prop :=
  Evolves (AssignmentChange snapshot authority operation)
    (fun id b => id = uuid ∧ NewAssignment snapshot authority files ids uuid operation b)

abbrev RequestsEvolve : SortedMap String PendingRequest → SortedMap String PendingRequest → Prop :=
  Evolves (RequestChange snapshot authority operation)
    (fun id q => id = uuid ∧ NewRequest snapshot authority codec ids uuid operation q)

abbrev SubmissionsEvolve : SortedMap String Submission → SortedMap String Submission → Prop :=
  Evolves (fun _ m n => n = m)
    (fun id n => id = uuid ∧ NewSubmission snapshot authority uuid operation n)

/-- Every record after an operation comes from one before it or was made by it. -/
structure Changes : Prop where
  binding : next.binding = snapshot.binding
  seq : next.seq = snapshot.seq
  authorityEpoch : next.authorityEpoch = snapshot.authorityEpoch
  tickets : TicketsEvolve authority ids uuid operation snapshot snapshot.tickets next.tickets
  assignments :
    AssignmentsEvolve files authority ids uuid operation snapshot snapshot.assignments next.assignments
  requests :
    RequestsEvolve codec authority ids uuid operation snapshot snapshot.requests next.requests
  submissions :
    SubmissionsEvolve authority uuid operation snapshot snapshot.submissions next.submissions

end Changes

theorem ticket_still (id : String) (w : Ticket) :
    TicketChange snapshot authority ids uuid operation id w w :=
  ⟨w, .inl rfl, .inl rfl⟩

theorem tickets_same : TicketsEvolve authority ids uuid operation snapshot snapshot.tickets
    snapshot.tickets := evolves_same ticket_still

theorem ticket_edited {id : String} (found : snapshot.tickets.lookup id = some w)
    (edit : TicketEdit snapshot authority ids uuid operation id w v) :
    TicketsEvolve authority ids uuid operation snapshot snapshot.tickets
      (snapshot.tickets.insert id v) :=
  evolves_put ticket_still found ⟨v, .inr edit, .inl rfl⟩

theorem ticket_made (new : NewTicket snapshot authority ids uuid operation v) :
    TicketsEvolve authority ids uuid operation snapshot snapshot.tickets
      (snapshot.tickets.insert uuid v) :=
  evolves_add ticket_still ⟨rfl, new⟩

theorem assignment_still (id : String) (a : Assignment) :
    AssignmentChange snapshot authority operation id a a := .inl rfl

theorem request_still (id : String) (r : PendingRequest) :
    RequestChange snapshot authority operation id r r := .inl rfl

theorem assignments_same : AssignmentsEvolve files authority ids uuid operation snapshot
    snapshot.assignments snapshot.assignments := evolves_same assignment_still

theorem assignment_edited {id : String} (found : snapshot.assignments.lookup id = some a)
    (edit : AssignmentEdit snapshot authority operation id a b) :
    AssignmentsEvolve files authority ids uuid operation snapshot snapshot.assignments
      (snapshot.assignments.insert id b) :=
  evolves_put assignment_still found (.inr edit)

theorem requests_same : RequestsEvolve codec authority ids uuid operation snapshot
    snapshot.requests snapshot.requests := evolves_same request_still

theorem request_edited {id : String} (found : snapshot.requests.lookup id = some r)
    (edit : RequestEdit snapshot authority operation id r q) :
    RequestsEvolve codec authority ids uuid operation snapshot snapshot.requests
      (snapshot.requests.insert id q) :=
  evolves_put request_still found (.inr edit)

theorem requests_superseded (supersedes : Superseding operation) (workId : String) :
    RequestsEvolve codec authority ids uuid operation snapshot snapshot.requests
      (invalidateRequests snapshot workId).requests := by
  rw [invalidateRequests_requests]
  apply evolves_mapValues
  intro id r _
  by_cases same : r.workId = workId
  · simp only [same, if_true]
    exact .inr (.superseded supersedes)
  · simp only [same, if_false]
    exact request_still id r

theorem submissions_same : SubmissionsEvolve authority uuid operation snapshot
    snapshot.submissions snapshot.submissions := evolves_same (fun _ _ => rfl)

theorem submission_made (new : NewSubmission snapshot authority uuid operation n) :
    SubmissionsEvolve authority uuid operation snapshot snapshot.submissions
      (snapshot.submissions.insert uuid n) := by
  apply evolves_add
  · intro _ _
    rfl
  · exact ⟨rfl, new⟩

theorem changes_nothing : Changes codec files authority ids uuid operation snapshot snapshot :=
  ⟨rfl, rfl, rfl, tickets_same, assignments_same, requests_same, submissions_same⟩

end Tickets
