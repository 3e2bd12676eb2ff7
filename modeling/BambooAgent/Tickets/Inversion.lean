import BambooAgent.Tickets.Changes

/- Each operation read backwards: from its success to what it checked and changed. -/
namespace Tickets
open SortedMaps Evolutions SortedMap Option

/-- A Ticket after the revocations of a changed Work. -/
def revisedBy (seq : Nat) (affected : SortedSet String) (passed : List String) (id : String)
    (w : Ticket) : Ticket :=
  let v := if id ∈ affected then revoked seq w else w
  if id ∈ passed then reviewed seq v else v

theorem revisedBy_revised (seq : Nat) (affected : SortedSet String) (passed : List String)
    (id : String) (w : Ticket) : Revised seq w (revisedBy seq affected passed id w) := by
  unfold revisedBy Revised
  by_cases above : id ∈ passed <;> by_cases below : id ∈ affected <;> simp [above, below]

structure WorkRevoked (snapshot next : Snapshot) (workId : String) (affected : SortedSet String)
    (passed : List String) : Prop where
  reached : ∀ id, id ∈ affected ↔ Relation.TransGen (Consumes snapshot) workId id
  walk : Chains.Ends (parentLink snapshot)
    ((snapshot.tickets.lookup workId).bind (fun work => work.parent)) passed none
  tickets : ∀ id, next.tickets.lookup id =
    (snapshot.tickets.lookup id).map (revisedBy snapshot.seq affected passed id)
  assignments : RunsStopping snapshot next
  requests : ∀ id, next.requests.lookup id = (snapshot.requests.lookup id).map (fun request =>
    if request.workId = workId ∨ request.workId ∈ affected then superseded snapshot.seq request
    else request)
  frame : next = { snapshot with
    tickets := next.tickets
    assignments := next.assignments
    requests := next.requests }

theorem revoked_parent (seq : Nat) (work : Ticket) : (revoked seq work).parent = work.parent := by
  unfold revoked
  split <;> rfl

theorem parentLink_revoked (change : DependentsRevoked snapshot next affected) :
    parentLink next = parentLink snapshot := by
  funext id
  simp only [parentLink, change.tickets id]
  split
  · rw [map_map]
    congr 1
    funext work
    exact revoked_parent _ work
  · rfl

theorem parent_of_link (same : parentLink next = parentLink snapshot) (id : String) :
    (next.tickets.lookup id).bind (fun work => work.parent) = (snapshot.tickets.lookup id).bind (fun
      work => work.parent) := by
  have here := congrFun same id
  simp only [parentLink] at here
  cases before : snapshot.tickets.lookup id <;> cases after : next.tickets.lookup id <;>
    simp_all

theorem revokeWork_ok (run : revokeWork snapshot workId = .ok next) :
    ∃ affected passed, WorkRevoked snapshot next workId affected passed := by
  simp only [revokeWork, bind_eq_ok] at run
  obtain ⟨middle, dependents, parents⟩ := run
  obtain ⟨affected, reached, below⟩ := invalidateDependents_ok dependents
  obtain ⟨passed, above⟩ := invalidateParentGoals_ok parents
  have link : parentLink middle = parentLink (invalidateRequests snapshot workId) :=
    parentLink_revoked below
  have seq : middle.seq = snapshot.seq := by rw [below.frame]; rfl
  have walk := above.walk
  rw [parent_of_link link, link] at walk
  have assignments : next.assignments = middle.assignments := by rw [above.frame]
  have requests : next.requests = middle.requests := by rw [above.frame]
  refine ⟨affected, passed, reached, walk, ?_, ?_, ?_, ?_⟩
  · intro id
    rw [above.tickets id, below.tickets id, seq]
    simp only [invalidateRequests_tickets, invalidateRequests_seq, ← SortedSet.mem_def]
    cases snapshot.tickets.lookup id with
    | none => simp
    | some w =>
      by_cases high : id ∈ passed <;> by_cases low : id ∈ affected <;>
        simp [high, low, revisedBy]
  · intro id
    rw [assignments]
    exact below.assignments id
  · intro id
    rw [requests, below.requests id]
    simp only [invalidateRequests_requests, invalidateRequests_seq, lookup_mapValues,
      map_map, ← SortedSet.mem_def]
    cases snapshot.requests.lookup id with
    | none => rfl
    | some request =>
      by_cases here : request.workId = workId
      · by_cases low : workId ∈ affected <;>
          simp [here, low, superseded_twice, superseded_work]
      · by_cases low : request.workId ∈ affected <;> simp [here, low]
  · rw [above.frame, below.frame]
    rfl

theorem assignments_stopping (stops : StopsRuns operation) (runs : RunsStopping snapshot next) :
    AssignmentsEvolve files authority ids uuid operation snapshot snapshot.assignments
      next.assignments where
  kept := by
    intro id a found
    obtain ⟨b, present, _⟩ := (runs id).2 a found
    exact ⟨b, present⟩
  origin := by
    intro id b present
    cases before : snapshot.assignments.lookup id with
    | none =>
      rw [(runs id).1 before] at present
      cases present
    | some a =>
      obtain ⟨c, there, change⟩ := (runs id).2 a before
      rw [there] at present
      cases present
      exact .inl ⟨a, rfl, .inr (.stopping stops change)⟩

theorem revoking_changes (revoking : Revoking operation) (stops : StopsRuns operation)
    (supersedes : Superseding operation)
    (frame : middle = { snapshot with
      tickets := middle.tickets
      assignments := middle.assignments }) (found : snapshot.tickets.lookup workId = some w)
    (edited : middle.tickets = snapshot.tickets.insert workId u)
    (edit : TicketEdit snapshot authority ids uuid operation workId w u)
    (runs : RunsStopping snapshot middle) (run : revokeWork middle workId = .ok next) :
    Changes codec files authority ids uuid operation snapshot next := by
  obtain ⟨affected, passed, change⟩ := revokeWork_ok run
  have seq : middle.seq = snapshot.seq := by rw [frame]
  have requests : middle.requests = snapshot.requests := by rw [frame]
  refine ⟨?_, ?_, ?_, ?_, ?_, ?_, ?_⟩
  · rw [change.frame, frame]
  · rw [change.frame, frame]
  · rw [change.frame, frame]
  · refine ⟨?_, ?_⟩
    · intro id v before
      rw [change.tickets id, edited]
      by_cases same : id = workId <;> simp [same, before]
    · intro id v present
      rw [change.tickets id, edited, seq] at present
      simp only [lookup_insert, map_eq_some_iff] at present
      obtain ⟨x, there, last⟩ := present
      have revision := revisedBy_revised snapshot.seq affected passed id x
      rw [last] at revision
      left
      split at there
      · rename_i same
        subst same
        cases there
        exact ⟨w, found, u, .inr edit, .inr ⟨revoking, revision⟩⟩
      · exact ⟨x, there, x, .inl rfl, .inr ⟨revoking, revision⟩⟩
  · exact assignments_stopping stops (runsStopping_trans seq runs change.assignments)
  · refine ⟨?_, ?_⟩
    · intro id r before
      rw [change.requests id, requests, before]
      exact ⟨_, rfl⟩
    · intro id q present
      rw [change.requests id, requests, seq] at present
      simp only [map_eq_some_iff] at present
      obtain ⟨r, there, last⟩ := present
      refine .inl ⟨r, there, ?_⟩
      rw [← last]
      split
      · exact .inr (.superseded supersedes)
      · exact request_still id r
  · have submissions : next.submissions = snapshot.submissions := by rw [change.frame, frame]
    rw [submissions]
    exact submissions_same

theorem associateProject_changes
    (run : Project.associate snapshot (resolve ticketId ids) projectId = .ok next) :
    Changes codec files authority ids uuid (.associateProject ticketId projectId) snapshot next := by
  simp only [Project.associate, bind_eq_ok, orElseErr_eq_ok] at run
  obtain ⟨work, found, rest⟩ := run
  split at rest
  · simp only [bind_eq_ok, pure_eq_ok] at rest
    obtain ⟨_, _, same⟩ := rest
    subst same
    exact changes_nothing
  · simp only [bind_eq_ok, pure_eq_ok] at rest
    obtain ⟨_, _, same⟩ := rest
    subst same
    exact ⟨rfl, rfl, rfl, ticket_edited found (.described trivial), assignments_same,
      requests_same, submissions_same⟩

theorem setProjectContext_changes
    (run : Project.setContext codec snapshot (resolve workId ids) context = .ok next) :
    Changes codec files authority ids uuid (.setProjectContext workId context) snapshot next := by
  simp only [Project.setContext, bind_eq_ok, orElseErr_eq_ok, pure_eq_ok] at run
  obtain ⟨work, found, _, _, _, _, _, _, _, _, same⟩ := run
  subst same
  exact ⟨rfl, rfl, rfl, ticket_edited found (.described trivial), assignments_same,
    requests_same, submissions_same⟩

theorem setPlanningMetadata_changes
    (run : Planning.set codec snapshot authority (resolve ticketId ids) revision priority deadline =
      .ok next) :
    Changes codec files authority ids uuid
      (.setPlanningMetadata ticketId revision priority deadline) snapshot next := by
  simp only [Planning.set, bind_eq_ok, orElseErr_eq_ok, pure_eq_ok] at run
  obtain ⟨_, _, _, _, work, found, _, _, _, _, same⟩ := run
  subst same
  exact ⟨rfl, rfl, rfl, ticket_edited found (.described trivial), assignments_same,
    requests_same, submissions_same⟩

theorem inheritProject_records (snapshot : Snapshot) (created : String) (parent : Option String) :
    ∃ project, inheritProject snapshot created parent = { snapshot with project := project } := by
  unfold inheritProject
  split
  · exact ⟨snapshot.project, rfl⟩
  · exact ⟨_, rfl⟩

theorem allocate_ok (run : allocate uuid tempId ids = .ok after) :
    after = ids.insert tempId uuid := by
  simp only [allocate, bind_eq_ok, pure_eq_ok] at run
  obtain ⟨_, _, same⟩ := run
  exact same.symm

theorem create_changes
    (run : applyCreate codec snapshot authority uuid ids tempId kind parent contract dependsOn =
      .ok (next, after)) :
    Changes codec files authority ids uuid (.create tempId kind parent contract dependsOn)
      snapshot next := by
  simp only [applyCreate, bind_eq_ok, rejectIf_eq_ok, expect_eq_ok, pure_eq_ok,
    Prod.mk.injEq] at run
  obtain ⟨_, supervisor, _, kinds, _, _, taken, allocated, created, _, stored, _, same, _⟩ := run
  cases allocate_ok allocated
  obtain ⟨project, inherited⟩ := inheritProject_records
    (snapshot.putTicket uuid (newTicket snapshot uuid kind
      (parent.map (fun p => resolve p (ids.insert tempId uuid)))
      (resolveAll dependsOn (ids.insert tempId uuid)) contract)) created stored.parent
  rw [inherited] at same
  subst same
  exact ⟨rfl, rfl, rfl, ticket_made (.created supervisor kinds), assignments_same,
    requests_same, submissions_same⟩

theorem ready_changes (run : applyReady snapshot authority (resolve workId ids) = .ok next) :
    Changes codec files authority ids uuid (.ready workId) snapshot next := by
  simp only [applyReady, bind_eq_ok, ticket_eq_ok, rejectIf_eq_ok, pure_eq_ok] at run
  obtain ⟨_, _, work, found, _, allowed, same⟩ := run
  subst same
  have reason : work.state = .draft ∨ (work.paused = true ∧ work.activeAssignment = none) := by
    by_contra neither
    rw [not_or] at neither
    exact allowed neither
  exact ⟨rfl, rfl, rfl, ticket_edited found (.readied reason), assignments_same,
    requests_same, submissions_same⟩

theorem stopForEdit_ok (run : stopForEdit snapshot active = .ok next) :
    RunsStopping snapshot next ∧ next = { snapshot with assignments := next.assignments } := by
  cases active with
  | none =>
    cases run
    exact ⟨runsStopping_refl snapshot, rfl⟩
  | some id =>
    simp only [stopForEdit, bind_eq_ok, orElseErr_eq_ok, pure_eq_ok] at run
    obtain ⟨a, found, same⟩ := run
    subst same
    exact ⟨runsStopping_put found (stopping_requested _ a), rfl⟩

theorem updateContract_ok
    (run : applyUpdateContract codec snapshot authority workId contract = .ok next) :
    ∃ w, snapshot.tickets.lookup workId = some w ∧
      ((w.contract = contract ∧ next = snapshot) ∨
        (w.contract ≠ contract ∧ (w.kind = .work ∨ w.kind = .goal) ∧ ∃ stopped,
          RunsStopping snapshot stopped ∧
          stopped = { snapshot with assignments := stopped.assignments } ∧
          revokeWork (stopped.putTicket workId
            (touch (contractEdited contract w w) snapshot.seq)) workId = .ok next)) := by
  simp only [applyUpdateContract, bind_eq_ok, ticket_eq_ok] at run
  obtain ⟨_, _, _, _, w, found, rest⟩ := run
  refine ⟨w, found, ?_⟩
  split at rest
  · rename_i unchanged
    cases rest
    exact .inl ⟨unchanged, rfl⟩
  · rename_i changed
    simp only [bind_eq_ok, rejectIf_eq_ok, expect_eq_ok] at rest
    obtain ⟨_, kinds, stopped, stopping, again, present, revoke⟩ := rest
    obtain ⟨runs, frame⟩ := stopForEdit_ok stopping
    have tickets : stopped.tickets = snapshot.tickets := by rw [frame]
    rw [tickets, found] at present
    cases present
    refine .inr ⟨changed, ?_, stopped, runs, frame, revoke⟩
    by_contra neither
    rw [not_or] at neither
    exact kinds neither

theorem updateContract_changes
    (run : applyUpdateContract codec snapshot authority (resolve workId ids) contract = .ok next) :
    Changes codec files authority ids uuid (.updateContract workId contract) snapshot next := by
  obtain ⟨w, found, ⟨_, same⟩ | ⟨changed, kinds, stopped, runs, frame, revoke⟩⟩ :=
    updateContract_ok run
  · subst same
    exact changes_nothing
  · have tickets : stopped.tickets = snapshot.tickets := by rw [frame]
    have runsToo : RunsStopping snapshot (stopped.putTicket (resolve workId ids)
      (touch (contractEdited contract w w) snapshot.seq)) := runs
    refine revoking_changes trivial trivial trivial ?_ found ?_ (.edited changed kinds) runsToo
      revoke
    · rw [frame]
      rfl
    · rw [← tickets]
      rfl

theorem setDependencies_changes
    (run : applySetDependencies snapshot authority (resolve workId ids)
      (resolveAll dependsOn ids) = .ok next) :
    Changes codec files authority ids uuid (.setDependencies workId dependsOn) snapshot next := by
  simp only [applySetDependencies, bind_eq_ok, orElseErr_eq_ok, rejectIf_eq_ok, pure_eq_ok,
    not_or, Bool.not_eq_true, isSome_eq_false_iff, isNone_iff_eq_none] at run
  obtain ⟨_, _, work, found, _, ⟨idle, state⟩, same⟩ := run
  subst same
  have early : work.state = .draft ∨ work.state = .ready := by tauto
  have supersedes : Superseding (.setDependencies workId dependsOn) := trivial
  exact ⟨rfl, rfl, rfl, ticket_edited found (.rewired idle early), assignments_same,
    requests_superseded supersedes (resolve workId ids), submissions_same⟩

theorem start_ok (run : applyStart codec files snapshot authority uuid ids workId tempId workspace =
      .ok (next, after)) :
    ∃ w contextRef inputs dispatchKey specHash,
      Started snapshot authority files uuid workId w contextRef inputs workspace ∧
      next = (snapshot.dispatch (dispatchSpec snapshot w workId uuid contextRef inputs workspace)
        dispatchKey specHash).putTicket workId (touch { w with
          generation := w.generation + 1
          activeAssignment := some uuid
          state := .active
          currentSubmission := none } snapshot.seq) := by
  simp only [applyStart, bind_eq_ok, ticket_eq_ok, rejectIf_eq_ok, expect_eq_ok, pure_eq_ok,
    Prod.mk.injEq, not_or, not_not, Bool.not_eq_true, isSome_eq_false_iff,
    isNone_iff_eq_none] at run
  obtain ⟨_, supervisor, w, found, _, ⟨kind, ready, idle⟩, _, _, _, _, _, space, contextRef,
    _, inputs, depended, _, _, again, present, same, _⟩ := run
  simp only [Snapshot.dispatch_tickets, found, some.injEq] at present
  subst present
  subst same
  exact ⟨w, contextRef, inputs, _, _,
    ⟨supervisor, found, kind, ready, idle, space, depended⟩, rfl⟩

theorem start_changes
    (run : applyStart codec files snapshot authority uuid ids (resolve workId ids) tempId workspace
      = .ok (next, after)) :
    Changes codec files authority ids uuid (.start workId tempId workspace) snapshot next := by
  obtain ⟨w, contextRef, inputs, dispatchKey, specHash, admitted, same⟩ := start_ok run
  subst same
  exact ⟨rfl, rfl, rfl, ticket_edited admitted.found (.started admitted),
    evolves_add assignment_still ⟨rfl, .started dispatchKey admitted⟩,
    requests_same, submissions_same⟩

theorem updateAssignment_ok {id : String} (run : updateAssignment snapshot id change = .ok next)
    (found : snapshot.assignments.lookup id = some a) :
    next = snapshot.putAssignment id (bump (change a) snapshot.seq) := by
  simp only [updateAssignment, bind_eq_ok, expect_eq_ok, pure_eq_ok] at run
  obtain ⟨b, present, same⟩ := run
  rw [found] at present
  cases present
  exact same.symm

theorem admitted_ok (run : applyAdmitted snapshot authority assignmentId receipt = .ok next) :
    authority.runtime = .ok () ∧ ∃ a, snapshot.assignments.lookup assignmentId = some a ∧
      (next = snapshot ∨ (a.state = .dispatchPending ∧ a.runtime = none ∧
        (∀ key other, snapshot.assignments.lookup key = some other → other.id ≠ a.id →
          holdsResources other = true → admitBeside receipt a other = .ok ()) ∧
        ∃ intent : DispatchIntent, next = (snapshot.putAssignment assignmentId
          (bump { a with runtime := some receipt, state := .admitted } snapshot.seq)).putIntent
            a.dispatchKey { intent with receipt := some receipt })) := by
  simp only [applyAdmitted, bind_eq_ok, assignment_eq_ok, orElseErr_eq_ok] at run
  obtain ⟨_, runtime, a, found, intent, _, _, _, rest⟩ := run
  refine ⟨runtime, a, found, ?_⟩
  split at rest
  · simp only [bind_eq_ok, pure_eq_ok] at rest
    obtain ⟨_, _, same⟩ := rest
    exact .inl same.symm
  · rename_i first
    simp only [bind_eq_ok, rejectIf_eq_ok, not_not, ticket_eq_ok, each_eq_ok] at rest
    obtain ⟨_, pending, _, _, _, _, _, beside, admission⟩ := rest
    simp only [recordAdmission, bind_eq_ok, expect_eq_ok, pure_eq_ok] at admission
    obtain ⟨b, present, intent, _, same⟩ := admission
    rw [found] at present
    cases present
    refine .inr ⟨pending, first, ?_, intent, same.symm⟩
    intro key other there different holds
    apply beside
    rw [List.mem_filter]
    exact ⟨mem_values.2 ⟨key, there⟩, by simp [different, holds]⟩

theorem admitted_changes (run : applyAdmitted snapshot authority assignmentId receipt = .ok next) :
    Changes codec files authority ids uuid (.admitted assignmentId receipt) snapshot next := by
  obtain ⟨runtime, a, found, same | ⟨pending, first, beside, intent, same⟩⟩ := admitted_ok run
  · subst same
    exact changes_nothing
  · subst same
    exact ⟨rfl, rfl, rfl, tickets_same,
      assignment_edited found (.admitted runtime pending first beside), requests_same,
      submissions_same⟩

theorem running_changes (run : applyRunning snapshot authority assignmentId = .ok next) :
    Changes codec files authority ids uuid (.running assignmentId) snapshot next := by
  simp only [applyRunning, bind_eq_ok, assignment_eq_ok, rejectIf_eq_ok, not_not] at run
  obtain ⟨_, runtime, a, found, _, admitted, _, permit, update⟩ := run
  cases updateAssignment_ok update found
  exact ⟨rfl, rfl, rfl, tickets_same, assignment_edited found (.running runtime admitted permit),
    requests_same, submissions_same⟩

theorem replacePlan_changes
    (run : applyReplacePlan snapshot authority assignmentId revision steps = .ok next) :
    Changes codec files authority ids uuid (.replacePlan assignmentId revision steps) snapshot
      next := by
  simp only [applyReplacePlan, bind_eq_ok, assignment_eq_ok] at run
  obtain ⟨a, found, _, worker, _, permit, _, _, _, _, update⟩ := run
  cases updateAssignment_ok update found
  exact ⟨rfl, rfl, rfl, tickets_same, assignment_edited found (.planned worker permit),
    requests_same, submissions_same⟩

theorem ask_changes
    (run : applyAsk codec snapshot authority uuid ids (resolve workId ids) tempId prompt action =
      .ok (next, after)) :
    Changes codec files authority ids uuid (.ask workId tempId prompt action) snapshot next := by
  simp only [applyAsk, bind_eq_ok, ticket_eq_ok, pure_eq_ok, Prod.mk.injEq] at run
  obtain ⟨work, found, _, _, assignmentId, asking, _, _, _, _, same, _⟩ := run
  subst same
  exact ⟨rfl, rfl, rfl, tickets_same, assignments_same,
    evolves_add request_still ⟨rfl, .asked found asking⟩, submissions_same⟩

structure OpenRequest (snapshot : Snapshot) (id : String) (request : PendingRequest)
    (work : Ticket) : Prop where
  found : snapshot.requests.lookup id = some request
  owner : snapshot.tickets.lookup request.workId = some work
  opened : request.status = .opened
  generation : request.generation = work.generation
  contractRevision : request.contractRevision = work.contractRevision
  alive : work.state ≠ .cancelled

theorem validateRequest_ok {id : String} (run : validateRequest snapshot id revision = .ok u) :
    ∃ request work, OpenRequest snapshot id request work := by
  simp only [validateRequest, bind_eq_ok, orElseErr_eq_ok, ticket_eq_ok, rejectIf_eq_ok, not_or,
    not_not] at run
  obtain ⟨request, found, work, owner, opened, _, generation, contractRevision, alive⟩ := run
  exact ⟨request, work, found, owner, opened, generation, contractRevision, alive⟩

theorem answer_changes (run : applyAnswer snapshot authority requestId revision answer = .ok next) :
    Changes codec files authority ids uuid (.answer requestId revision answer) snapshot next := by
  simp only [applyAnswer, bind_eq_ok, expect_eq_ok, rejectIf_eq_ok, not_not] at run
  obtain ⟨_, user, _, valid, request, found, _, question, _, _, resume⟩ := run
  obtain ⟨again, work, opened⟩ := validateRequest_ok valid
  have same := opened.found
  rw [found] at same
  cases same
  have requests : RequestsEvolve codec authority ids uuid (.answer requestId revision answer)
      snapshot snapshot.requests (snapshot.requests.insert requestId { request with
        answer := some answer
        status := .answered
        updatedSeq := snapshot.seq }) :=
    request_edited found (.answered user opened.opened question)
  simp only [resumeAnswered, bind_eq_ok, expect_eq_ok] at resume
  obtain ⟨current, _, w, present, rest⟩ := resume
  split at rest
  · rename_i resumes
    obtain ⟨_, _, blocked, unpaused, idle⟩ := resumes
    cases rest
    exact ⟨rfl, rfl, rfl, ticket_edited present (.resumed blocked unpaused idle),
      assignments_same, requests, submissions_same⟩
  · cases rest
    exact ⟨rfl, rfl, rfl, tickets_same, assignments_same, requests, submissions_same⟩

theorem yieldForInput_changes
    (run : applyYieldForInput snapshot authority assignmentId (resolve requestId ids) packetHash =
      .ok next) :
    Changes codec files authority ids uuid (.yieldForInput assignmentId requestId packetHash)
      snapshot next := by
  simp only [applyYieldForInput, bind_eq_ok, assignment_eq_ok, expect_eq_ok, pure_eq_ok] at run
  obtain ⟨a, found, _, worker, _, permit, _, valid, r, there, _, _, yielded, update, w, present,
    same⟩ := run
  obtain ⟨again, work, opened⟩ := validateRequest_ok valid
  have sameRequest := opened.found
  rw [there] at sameRequest
  cases sameRequest
  cases updateAssignment_ok update found
  subst same
  exact ⟨rfl, rfl, rfl, ticket_edited present (.yielded ⟨found, rfl⟩ permit),
    assignment_edited found (.yielded worker permit),
    request_edited there (.noted opened.opened), submissions_same⟩

theorem decideApproval_changes
    (run : applyDecideApproval snapshot authority requestId revision fingerprint approve =
      .ok next) :
    Changes codec files authority ids uuid
      (.decideApproval requestId revision fingerprint approve) snapshot next := by
  simp only [applyDecideApproval, bind_eq_ok, expect_eq_ok, rejectIf_eq_ok, pure_eq_ok,
    Bool.not_eq_false] at run
  obtain ⟨_, user, _, valid, request, found, _, same, made⟩ := run
  obtain ⟨again, work, opened⟩ := validateRequest_ok valid
  have sameRequest := opened.found
  rw [found] at sameRequest
  cases sameRequest
  subst made
  exact ⟨rfl, rfl, rfl, tickets_same, assignments_same,
    request_edited found (.decided user opened.opened same), submissions_same⟩

theorem consumeApproval_ok
    (run : applyConsumeApproval snapshot authority requestId fingerprint attemptId = .ok next) :
    next = snapshot ∨ ∃ request bound holder a,
      Consumption snapshot authority requestId fingerprint attemptId request bound holder ∧
      snapshot.assignments.lookup holder.id = some a ∧
      next = (snapshot.putRequest requestId { request with
        status := .consumed
        consumedAttempt := some attemptId
        updatedSeq := snapshot.seq }).putAssignment holder.id
          { a with effects := a.effects.insert attemptId (plannedEffect fingerprint) } := by
  simp only [applyConsumeApproval, bind_eq_ok, orElseErr_eq_ok, assignment_eq_ok, rejectIf_eq_ok,
    not_or, not_not, Bool.not_eq_true, Bool.not_eq_false] at run
  obtain ⟨request, requested, bound, binding, holder, found, _, worker, _, permit, _,
    ⟨_, outside, fingerprinted, generation, revision⟩, rest⟩ := run
  split at rest
  · cases rest
    exact .inl rfl
  · simp only [bind_eq_ok, rejectIf_eq_ok, not_not, Bool.not_eq_true,
      contains_false] at rest
    obtain ⟨_, approved, _, unused, use⟩ := rest
    simp only [consume, bind_eq_ok, expect_eq_ok, pure_eq_ok] at use
    obtain ⟨again, sameRequest, a, present, same⟩ := use
    rw [requested] at sameRequest
    cases sameRequest
    exact .inr ⟨request, bound, holder, a, ⟨requested, binding, found, worker, permit, outside,
      fingerprinted, generation, revision, approved, unused⟩, present, same.symm⟩

theorem consumeApproval_changes
    (run : applyConsumeApproval snapshot authority requestId fingerprint attemptId = .ok next) :
    Changes codec files authority ids uuid (.consumeApproval requestId fingerprint attemptId)
      snapshot next := by
  rcases consumeApproval_ok run with same | ⟨request, bound, holder, a, used, present, same⟩
  · subst same
    exact changes_nothing
  · subst same
    exact ⟨rfl, rfl, rfl, tickets_same, assignment_edited present (.consumed used rfl),
      request_edited used.requested (.consumed used), submissions_same⟩

theorem recordEffect_changes
    (run : applyRecordEffect snapshot authority assignmentId attemptId effect = .ok next) :
    Changes codec files authority ids uuid (.recordEffect assignmentId attemptId effect) snapshot
      next := by
  simp only [applyRecordEffect, bind_eq_ok, assignment_eq_ok, orElseErr_eq_ok, rejectIf_eq_ok,
    not_or, not_not, Bool.not_eq_true] at run
  obtain ⟨a, found, _, worker, _, permit, old, recorded, _, ⟨outside, _, _⟩, _, ⟨same, _⟩, _, _,
    update⟩ := run
  cases updateAssignment_ok update found
  exact ⟨rfl, rfl, rfl, tickets_same,
    assignment_edited found (.recorded worker permit recorded outside same), requests_same,
    submissions_same⟩

theorem staleResult_false (fresh : staleResult snapshot work a = false) :
    currentAttempt snapshot a = .ok () ∧ dependencies snapshot work = .ok a.dependencyInputs := by
  simp only [staleResult, Bool.or_eq_false_iff, decide_eq_false_iff_not, not_not] at fresh
  exact ⟨fresh.1.1, fresh.2⟩

theorem submit_changes
    (run : applySubmit snapshot authority uuid ids assignmentId tempId artifacts evidence =
      .ok (next, after)) :
    Changes codec files authority ids uuid (.submit assignmentId tempId artifacts evidence)
      snapshot next := by
  simp only [applySubmit, bind_eq_ok, assignment_eq_ok, ticket_eq_ok, expect_eq_ok] at run
  obtain ⟨a, found, _, worker, _, _, _, _, work, owner, _, _, runtime, ran, rest⟩ := run
  have submissions : SubmissionsEvolve authority uuid
      (.submit assignmentId tempId artifacts evidence) snapshot snapshot.submissions
      (snapshot.submissions.insert uuid (newSubmission a uuid runtime artifacts evidence
        (staleResult snapshot work a) snapshot.seq)) :=
    submission_made (.submitted found worker owner ran)
  split at rest
  · cases rest
    exact ⟨rfl, rfl, rfl, tickets_same, assignments_same, requests_same, submissions⟩
  · rename_i fresh
    simp only [bind_eq_ok, pure_eq_ok, Prod.mk.injEq, handOver, expect_eq_ok] at rest
    obtain ⟨handed, ⟨w, present, ended, update, closed⟩, same, _⟩ := rest
    subst same
    subst closed
    simp only [Snapshot.putSubmission_tickets, owner, some.injEq] at present
    subst present
    obtain ⟨current, inputs⟩ := staleResult_false (Bool.eq_false_iff.2 fresh)
    cases updateAssignment_ok update found
    have supersedes : Superseding (.submit assignmentId tempId artifacts evidence) := trivial
    have report : Reports snapshot assignmentId a.workId a := ⟨found, rfl⟩
    exact ⟨rfl, rfl, rfl, ticket_edited owner (.submitted report current inputs),
      assignment_edited found (.submitted worker current),
      requests_superseded supersedes a.workId, submissions⟩

end Tickets
