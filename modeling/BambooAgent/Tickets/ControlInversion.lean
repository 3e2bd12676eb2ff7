import BambooAgent.Tickets.Inversion

/- The operations of review, control and reconciliation read backwards, and with them
   every operation. -/
namespace Tickets
open SortedMaps Evolutions

theorem accept_ok (run : applyAccept snapshot authority workId submissionId evidence = .ok next) :
    authority.supervisor = .ok () ∧ ∃ w submission source,
      snapshot.tickets.lookup workId = some w ∧
      AcceptedSubmission snapshot workId submissionId w submission source ∧
      next = snapshot.putTicket workId (touch { w with
        state := .accepted
        acceptedSubmission := some submissionId } snapshot.seq) := by
  simp only [applyAccept, bind_eq_ok, ticket_eq_ok, orElseErr_eq_ok, rejectIf_eq_ok, expect_eq_ok,
    pure_eq_ok, not_or, not_not, Bool.not_eq_true, Bool.not_eq_false] at run
  obtain ⟨_, supervisor, w, found, _, _, submission, recorded, _,
    ⟨submitted, current, owner, fresh, generation, revision, _⟩, inputs, depended, _,
    ⟨same, settled⟩, source, matching, _, stopped, again, present, made⟩ := run
  rw [found] at present
  cases present
  rw [same] at depended
  exact ⟨supervisor, w, submission, source, found, ⟨submitted, current, recorded, owner, fresh,
    generation, revision, depended, settled, matching, stopped⟩, made.symm⟩

theorem accept_changes
    (run : applyAccept snapshot authority workId submissionId evidence = .ok next) :
    Changes codec files authority ids uuid (.accept workId submissionId evidence) snapshot next := by
  obtain ⟨supervisor, w, submission, source, found, exact', same⟩ := accept_ok run
  subst same
  exact ⟨rfl, rfl, rfl, ticket_edited found (.accepted supervisor exact'), assignments_same,
    requests_same, submissions_same⟩

theorem acceptGoal_changes (run : applyAcceptGoal snapshot authority goalId evidence = .ok next) :
    Changes codec files authority ids uuid (.acceptGoal goalId evidence) snapshot next := by
  simp only [applyAcceptGoal, bind_eq_ok, ticket_eq_ok, rejectIf_eq_ok, expect_eq_ok, pure_eq_ok,
    not_or, not_not, Bool.not_eq_true] at run
  obtain ⟨_, supervisor, goal, found, _, _, _, ⟨kind, _, alive, children⟩, again, present, same⟩ :=
    run
  rw [found] at present
  cases present
  subst same
  have accepted : ∀ key child, snapshot.tickets.lookup key = some child →
      child.parent = some goalId → child.state = .accepted := by
    intro key child there under
    have one := List.any_eq_false.1 children child (SortedMap.mem_values.2 ⟨key, there⟩)
    simpa [under] using one
  exact ⟨rfl, rfl, rfl, ticket_edited found (.goalAccepted supervisor kind alive accepted),
    assignments_same, requests_same, submissions_same⟩

theorem reject_changes (run : applyReject snapshot authority workId submissionId reason = .ok next) :
    Changes codec files authority ids uuid (.reject workId submissionId reason) snapshot next := by
  simp only [applyReject, bind_eq_ok, orElseErr_eq_ok, rejectIf_eq_ok, pure_eq_ok, not_or,
    not_not] at run
  obtain ⟨_, _, w, found, _, ⟨submitted, _, _⟩, same⟩ := run
  subst same
  exact ⟨rfl, rfl, rfl, ticket_edited found (.rejected submitted), assignments_same,
    requests_same, submissions_same⟩

theorem stopForCancel_ok (run : stopForCancel snapshot active = .ok next) :
    RunsStopping snapshot next ∧ next = { snapshot with assignments := next.assignments } := by
  cases active with
  | none =>
    cases run
    exact ⟨runsStopping_refl snapshot, rfl⟩
  | some id =>
    simp only [stopForCancel, updateAssignment, bind_eq_ok, expect_eq_ok, pure_eq_ok] at run
    obtain ⟨a, found, same⟩ := run
    subst same
    exact ⟨runsStopping_put found (stopping_requested _ a), rfl⟩

theorem cancel_ok (run : applyCancel snapshot authority workId = .ok next) :
    ∃ w, snapshot.tickets.lookup workId = some w ∧ ∃ stopped, RunsStopping snapshot stopped ∧
      stopped = { snapshot with
        tickets := snapshot.tickets.insert workId (touch { w with
          state := .cancelled
          paused := false
          blocked := none
          acceptedSubmission := none } snapshot.seq)
        assignments := stopped.assignments } ∧
      revokeWork stopped workId = .ok next := by
  simp only [applyCancel, bind_eq_ok, orElseErr_eq_ok] at run
  obtain ⟨_, _, w, found, stopped, stopping, revoke⟩ := run
  obtain ⟨runs, frame⟩ := stopForCancel_ok stopping
  exact ⟨w, found, stopped, runs, frame, revoke⟩

theorem cancel_changes (run : applyCancel snapshot authority workId = .ok next) :
    Changes codec files authority ids uuid (.cancel workId) snapshot next := by
  obtain ⟨w, found, stopped, runs, frame, revoke⟩ := cancel_ok run
  refine revoking_changes trivial trivial trivial ?_ found ?_ .cancelled runs revoke
  · rw [frame]
  · rw [frame]

theorem stopForPause_ok (run : stopForPause snapshot active = .ok next) :
    RunsStopping snapshot next ∧ next = { snapshot with assignments := next.assignments } := by
  cases active with
  | none =>
    cases run
    exact ⟨runsStopping_refl snapshot, rfl⟩
  | some id =>
    simp only [stopForPause, bind_eq_ok, expect_eq_ok, pure_eq_ok] at run
    obtain ⟨a, found, same⟩ := run
    subst same
    exact ⟨runsStopping_put found (stopping_revokedRun _ a), rfl⟩

theorem pause_changes (run : applyPause snapshot authority workId reason = .ok next) :
    Changes codec files authority ids uuid (.pause workId reason) snapshot next := by
  simp only [applyPause, bind_eq_ok, ticket_eq_ok, rejectIf_eq_ok, expect_eq_ok, pure_eq_ok,
    not_or, not_not] at run
  obtain ⟨_, _, w, found, _, ⟨kind, _, states⟩, stopped, stopping, again, present, same⟩ := run
  obtain ⟨runs, frame⟩ := stopForPause_ok stopping
  have tickets : stopped.tickets = snapshot.tickets := by rw [frame]
  have requests : stopped.requests = snapshot.requests := by rw [frame]
  have submissions : stopped.submissions = snapshot.submissions := by rw [frame]
  have seq : stopped.seq = snapshot.seq := by rw [frame]
  rw [tickets, found] at present
  cases present
  subst same
  have unfinished : w.state = .draft ∨ w.state = .ready ∨ w.state = .active ∨
      w.state = .blocked := by tauto
  have supersedes : Superseding (.pause workId reason) := trivial
  have superseded : RequestsEvolve codec authority ids uuid (.pause workId reason) snapshot
      snapshot.requests (invalidateRequests snapshot workId).requests :=
    requests_superseded supersedes workId
  refine ⟨?_, seq, ?_, ?_, assignments_stopping trivial runs, ?_, ?_⟩
  · rw [frame]
    rfl
  · rw [frame]
    rfl
  · simp only [invalidateRequests_tickets, Snapshot.putTicket_tickets, tickets]
    exact ticket_edited found (.paused kind unfinished)
  · simp only [invalidateRequests_requests, Snapshot.putTicket_requests, Snapshot.putTicket_seq,
      requests, seq] at ⊢
    exact superseded
  · simp only [invalidateRequests_submissions, Snapshot.putTicket_submissions, submissions]
    exact submissions_same

theorem confirmStopped_changes
    (run : applyConfirmStopped snapshot authority assignmentId effectsReconciled = .ok next) :
    Changes codec files authority ids uuid (.confirmStopped assignmentId effectsReconciled)
      snapshot next := by
  simp only [applyConfirmStopped, bind_eq_ok, assignment_eq_ok, rejectIf_eq_ok, expect_eq_ok,
    not_or, Bool.not_eq_true] at run
  obtain ⟨_, runtime, a, found, _, ⟨_, settled⟩, _, _, stopped, update, w, present, rest⟩ := run
  have assignments : AssignmentsEvolve files authority ids uuid
      (.confirmStopped assignmentId effectsReconciled) snapshot snapshot.assignments
      stopped.assignments := by
    rw [updateAssignment_ok update found]
    exact assignment_edited found (.confirmed runtime settled)
  cases updateAssignment_ok update found
  split at rest
  · rename_i active
    cases rest
    exact ⟨rfl, rfl, rfl, ticket_edited present (.released ⟨found, rfl⟩ active), assignments,
      requests_same, submissions_same⟩
  · cases rest
    exact ⟨rfl, rfl, rfl, tickets_same, assignments, requests_same, submissions_same⟩

theorem runtimeStopped_changes
    (run : applyRuntimeStopped snapshot authority assignmentId receipt completed = .ok next) :
    Changes codec files authority ids uuid (.runtimeStopped assignmentId receipt completed)
      snapshot next := by
  simp only [applyRuntimeStopped, bind_eq_ok, assignment_eq_ok, ticket_eq_ok, expect_eq_ok] at run
  obtain ⟨_, runtime, a, found, _, _, owner, owned, stopped, update, w, present, rest⟩ := run
  have assignments : AssignmentsEvolve files authority ids uuid
      (.runtimeStopped assignmentId receipt completed) snapshot snapshot.assignments
      stopped.assignments := by
    rw [updateAssignment_ok update found]
    exact assignment_edited found (.stopped runtime)
  cases updateAssignment_ok update found
  simp only [Snapshot.putAssignment_tickets, owned, Option.some.injEq] at present
  subst present
  split at rest
  · rename_i active
    split at rest
    · cases rest
      exact ⟨rfl, rfl, rfl, tickets_same, assignments, requests_same, submissions_same⟩
    · rename_i after outcome
      cases rest
      exact ⟨rfl, rfl, rfl, ticket_edited owned (.stopped ⟨found, rfl⟩ active outcome),
        assignments, requests_same, submissions_same⟩
  · cases rest
    exact ⟨rfl, rfl, rfl, tickets_same, assignments, requests_same, submissions_same⟩

theorem reconcileCompleted_changes
    (run : applyReconcileCompleted snapshot authority assignmentId receipt = .ok next) :
    Changes codec files authority ids uuid (.reconcileCompleted assignmentId receipt) snapshot
      next := by
  simp only [applyReconcileCompleted, bind_eq_ok, assignment_eq_ok, ticket_eq_ok, rejectIf_eq_ok,
    expect_eq_ok, pure_eq_ok, not_or, not_not, Bool.not_eq_false] at run
  obtain ⟨_, runtime, a, found, w, owned, _,
    ⟨stopped, _, _, generation, revision, active, alive⟩, _, _, _, _, reconciled, update, again,
    present, same⟩ := run
  cases updateAssignment_ok update found
  simp only [Snapshot.putAssignment_tickets, owned, Option.some.injEq] at present
  subst present
  subst same
  exact ⟨rfl, rfl, rfl,
    ticket_edited owned (.reconciled runtime ⟨found, rfl⟩ generation revision active alive),
    assignment_edited found (.reconciled runtime stopped), requests_same, submissions_same⟩

theorem outcomeUnknown_ok
    (run : applyOutcomeUnknown snapshot authority assignmentId reason = .ok next) :
    authority.runtime = .ok () ∧ ∃ a w, snapshot.assignments.lookup assignmentId = some a ∧
      snapshot.tickets.lookup a.workId = some w ∧
      next = (snapshot.putAssignment assignmentId
        (bump { a with state := .outcomeUnknown } snapshot.seq)).putTicket a.workId
          (outcomeUnknownWork reason snapshot.seq w) := by
  simp only [applyOutcomeUnknown, bind_eq_ok, orElseErr_eq_ok, expect_eq_ok, pure_eq_ok] at run
  obtain ⟨_, runtime, a, found, w, owned, same⟩ := run
  exact ⟨runtime, a, w, found, owned, same.symm⟩

theorem outcomeUnknown_changes
    (run : applyOutcomeUnknown snapshot authority assignmentId reason = .ok next) :
    Changes codec files authority ids uuid (.outcomeUnknown assignmentId reason) snapshot next := by
  obtain ⟨runtime, a, w, found, owned, same⟩ := outcomeUnknown_ok run
  subst same
  refine ⟨rfl, rfl, rfl, ?_, assignment_edited found (.unknown runtime), requests_same,
    submissions_same⟩
  unfold outcomeUnknownWork
  split
  · simp only [Snapshot.putTicket_tickets, Snapshot.putAssignment_tickets,
      SortedMap.insert_lookup_self owned]
    exact tickets_same
  · rename_i alive
    exact ticket_edited owned (.unknown ⟨found, rfl⟩ alive)

theorem reopen_ok (run : applyReopen snapshot authority workId = .ok next) :
    ∃ w, snapshot.tickets.lookup workId = some w ∧
      requireReleased snapshot w.activeAssignment = .ok () ∧
      revokeWork (snapshot.putTicket workId (touch { w with
        activeAssignment := none
        paused := false
        state := .ready
        blocked := none
        acceptedSubmission := none
        currentSubmission := none } snapshot.seq)) workId = .ok next := by
  simp only [applyReopen, bind_eq_ok, ticket_eq_ok, orElseErr_eq_ok] at run
  obtain ⟨_, _, w, found, _, released, again, present, revoke⟩ := run
  rw [found] at present
  cases present
  exact ⟨w, found, released, revoke⟩

theorem reopen_changes (run : applyReopen snapshot authority workId = .ok next) :
    Changes codec files authority ids uuid (.reopen workId) snapshot next := by
  obtain ⟨w, found, released, revoke⟩ := reopen_ok run
  have runs : RunsStopping snapshot (snapshot.putTicket workId (touch { w with
      activeAssignment := none
      paused := false
      state := .ready
      blocked := none
      acceptedSubmission := none
      currentSubmission := none } snapshot.seq)) := runsStopping_refl snapshot
  exact revoking_changes trivial trivial trivial rfl found rfl (.reopened released) runs revoke

theorem archive_changes (run : applyArchive snapshot authority ticketId archived = .ok next) :
    Changes codec files authority ids uuid (.archive ticketId archived) snapshot next := by
  simp only [applyArchive, bind_eq_ok, orElseErr_eq_ok, pure_eq_ok] at run
  obtain ⟨_, _, w, found, same⟩ := run
  subst same
  exact ⟨rfl, rfl, rfl, ticket_edited found (.described trivial), assignments_same,
    requests_same, submissions_same⟩

theorem resolveMessage_changes
    (run : applyResolveMessage codec snapshot authority resolution = .ok next) :
    Changes codec files authority ids uuid (.resolveMessage resolution) snapshot next := by
  simp only [applyResolveMessage, bind_eq_ok] at run
  obtain ⟨_, _, _, _, rest⟩ := run
  split at rest
  · simp only [bind_eq_ok, pure_eq_ok] at rest
    obtain ⟨_, _, same⟩ := rest
    subst same
    exact changes_nothing
  · simp only [bind_eq_ok, pure_eq_ok] at rest
    obtain ⟨_, _, same⟩ := rest
    subst same
    exact ⟨rfl, rfl, rfl, tickets_same, assignments_same, requests_same, submissions_same⟩

theorem attachLegacy_changes (run : applyAttachLegacy codec snapshot authority source = .ok next) :
    Changes codec files authority ids uuid (.attachLegacy source) snapshot next := by
  simp only [applyAttachLegacy, bind_eq_ok] at run
  obtain ⟨_, _, _, _, rest⟩ := run
  split at rest
  · simp only [bind_eq_ok, pure_eq_ok] at rest
    obtain ⟨_, _, same⟩ := rest
    subst same
    exact changes_nothing
  · cases rest
    exact ⟨rfl, rfl, rfl, tickets_same, assignments_same, requests_same, submissions_same⟩

theorem importLegacy_changes
    (run : applyImport codec snapshot authority uuid ids tempId contract source =
      .ok (next, after)) :
    Changes codec files authority ids uuid (.importLegacy tempId contract source) snapshot next := by
  simp only [applyImport, bind_eq_ok] at run
  obtain ⟨_, supervisor, _, _, _, _, rest⟩ := run
  -- Only an import that carries its artifact moves the schema, and that is no record.
  by_cases carried : source.artifact.isSome = true
  · simp only [carried, if_true] at rest
    split at rest
    · cases rest
      exact ⟨rfl, rfl, rfl, tickets_same, assignments_same, requests_same, submissions_same⟩
    · simp only [bind_eq_ok, pure_eq_ok, Prod.mk.injEq] at rest
      obtain ⟨_, _, same, _⟩ := rest
      subst same
      exact ⟨rfl, rfl, rfl, ticket_made (.imported supervisor), assignments_same, requests_same,
        submissions_same⟩
  · simp only [carried] at rest
    split at rest
    · cases rest
      exact changes_nothing
    · simp only [bind_eq_ok, pure_eq_ok, Prod.mk.injEq] at rest
      obtain ⟨_, _, same, _⟩ := rest
      subst same
      exact ⟨rfl, rfl, rfl, ticket_made (.imported supervisor), assignments_same, requests_same,
        submissions_same⟩

theorem keepIds_ok : keepIds ids run = .ok (next, after) ↔ run = .ok next ∧ after = ids := by
  simp only [keepIds, bind_eq_ok, pure_eq_ok, Prod.mk.injEq]
  constructor
  · rintro ⟨_, made, same, kept⟩
    exact ⟨same ▸ made, kept.symm⟩
  · rintro ⟨made, kept⟩
    exact ⟨next, made, rfl, kept.symm⟩

theorem apply_changes
    (run : apply codec files snapshot authority uuid operation ids = .ok (next, after)) :
    Changes codec files authority ids uuid operation snapshot next := by
  cases operation <;> simp only [apply, keepIds_ok, bind_eq_ok] at run
  case associateProject =>
    obtain ⟨⟨_, _, change⟩, _⟩ := run
    exact associateProject_changes change
  case setProjectContext =>
    obtain ⟨⟨_, _, change⟩, _⟩ := run
    exact setProjectContext_changes change
  case create => exact create_changes run
  case setPlanningMetadata => exact setPlanningMetadata_changes run.1
  case ready => exact ready_changes run.1
  case updateContract => exact updateContract_changes run.1
  case setDependencies => exact setDependencies_changes run.1
  case start => exact start_changes run
  case admitted => exact admitted_changes run.1
  case running => exact running_changes run.1
  case replacePlan => exact replacePlan_changes run.1
  case ask => exact ask_changes run
  case yieldForInput => exact yieldForInput_changes run.1
  case answer => exact answer_changes run.1
  case decideApproval => exact decideApproval_changes run.1
  case consumeApproval => exact consumeApproval_changes run.1
  case recordEffect => exact recordEffect_changes run.1
  case submit => exact submit_changes run
  case accept => exact accept_changes run.1
  case acceptGoal => exact acceptGoal_changes run.1
  case reject => exact reject_changes run.1
  case cancel => exact cancel_changes run.1
  case pause => exact pause_changes run.1
  case confirmStopped => exact confirmStopped_changes run.1
  case runtimeStopped => exact runtimeStopped_changes run.1
  case reconcileCompleted => exact reconcileCompleted_changes run.1
  case outcomeUnknown => exact outcomeUnknown_changes run.1
  case reopen => exact reopen_changes run.1
  case archive => exact archive_changes run.1
  case resolveMessage => exact resolveMessage_changes run.1
  case importLegacy => exact importLegacy_changes run
  case attachLegacy => exact attachLegacy_changes run.1

end Tickets
