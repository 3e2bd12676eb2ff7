import BambooAgent.Tickets.Superseded

/- When a batch of operations returns. The lookups that an operation takes for granted all
   succeed, except for those of the walk up the containment tree: a Ticket created earlier in
   the same batch may have a parent that has no record, or that leads back to it. -/
namespace Tickets
open SortedMaps Evolutions Batches SortedMap

/-- Every assignment belongs to a recorded Ticket. -/
def WorksRecorded (snapshot : Snapshot) : Prop :=
  ∀ id a, snapshot.assignments.lookup id = some a →
    ∃ w, snapshot.tickets.lookup a.workId = some w

/-- What the lookups of an operation rely on. -/
structure Referenced (authority : Authority) (snapshot : Snapshot) : Prop where
  active : ActiveRecorded snapshot
  works : WorksRecorded snapshot
  worker : ∀ id generation runId sessionId,
    authority.principal = .worker id generation runId sessionId →
      ∃ a, snapshot.assignments.lookup id = some a

theorem valid_referenced (valid : validateSnapshot codec snapshot = .ok ())
    (authorized : validateAuthority authority snapshot = .ok ()) :
    Referenced authority snapshot where
  active := by
    intro id w found active holds
    have checked := (validateSnapshot_ok valid).1 id w found
    simp only [validateTicket, bind_eq_ok, validateActive, holds, assignment_eq_ok] at checked
    obtain ⟨_, _, _, _, _, _, _, _, _, _, _, _, _, _, a, there, _⟩ := checked
    exact ⟨a, there⟩
  works := by
    intro id a found
    have checked := (validateSnapshot_ok valid).2 id a found
    simp only [validateAssignment, bind_eq_ok, ticket_eq_ok] at checked
    obtain ⟨w, there, _⟩ := checked
    exact ⟨w, there⟩
  worker := by
    intro id generation runId sessionId who
    simp only [validateAuthority, who, bind_eq_ok, assignment_eq_ok] at authorized
    obtain ⟨_, _, a, there, _⟩ := authorized
    exact ⟨a, there⟩

theorem active_started (recorded : ActiveRecorded snapshot)
    (run : applyStart codec files snapshot authority uuid ids workId tempId workspace =
      .ok (next, after)) : ActiveRecorded next := by
  obtain ⟨w, contextRef, inputs, dispatchKey, specHash, admitted, same⟩ := start_ok run
  subst same
  intro key v present active holds
  simp only [Snapshot.putTicket_tickets, Snapshot.dispatch_tickets,
    lookup_insert] at present
  have before : active = uuid ∨ ∃ a, snapshot.assignments.lookup active = some a := by
    split at present
    · cases present
      cases holds
      exact .inl rfl
    · exact .inr (recorded key v present active holds)
  rcases before with same | ⟨a, there⟩
  · subst same
    exact ⟨_, lookup_insert_self _ _ _⟩
  · by_cases same : active = uuid
    · subst same
      exact ⟨_, lookup_insert_self _ _ _⟩
    · exact ⟨a, (lookup_insert_other _ _ same).trans there⟩

theorem referenced_applied (here : Referenced authority snapshot)
    (run : apply codec files snapshot authority uuid operation ids = .ok (next, after)) :
    Referenced authority next := by
  have change := apply_changes run
  refine ⟨?_, ?_, ?_⟩
  · by_cases starts : Starts operation
    · cases operation with
      | start workId tempId workspace => exact active_started here.active run
      | _ => exact starts.elim
    · intro key v present active holds
      have before : ∃ a, snapshot.assignments.lookup active = some a := by
        rcases change.tickets.origin key v present with ⟨w, found, edit⟩ | ⟨_, new⟩
        · rcases change_active starts edit with none | ⟨same, _⟩
          · rw [none] at holds
            cases holds
          · exact here.active key w found active (same.symm.trans holds)
        · cases new with
          | created _ _ => cases holds
          | imported _ => cases holds
      obtain ⟨a, there⟩ := before
      exact change.assignments.kept active a there
  · intro key b present
    have before : ∃ w, snapshot.tickets.lookup b.workId = some w := by
      rcases change.assignments.origin key b present with ⟨a, found, edit⟩ | ⟨_, new⟩
      · rw [(change_owner edit).workId]
        exact here.works key a found
      · cases new with
        | started _ admitted => exact ⟨_, admitted.found⟩
    obtain ⟨w, there⟩ := before
    exact change.tickets.kept b.workId w there
  · intro id generation runId sessionId who
    obtain ⟨a, there⟩ := here.worker id generation runId sessionId who
    exact change.assignments.kept id a there

/- The checks of single operations give a verdict on every input. -/
@[simp] theorem returns_validateContract (contract : Contract) :
    Returns (validateContract codec contract) := by
  simp [validateContract, validateNativeToolCeiling]

@[simp] theorem returns_validateRequest (id : String) (promptRevision : Nat) :
    Returns (validateRequest snapshot id promptRevision) := by
  simp [validateRequest]

theorem stepLink_inside (id : String) (next : Option String)
    (found : stepLink steps id = some next) : id ∈ steps.map (fun step => step.id) := by
  simp only [stepLink, Option.map_eq_some_iff] at found
  obtain ⟨step, first, _⟩ := found
  have same := List.find?_some first
  rw [List.mem_map]
  exact ⟨step, List.mem_of_find?_eq_some first, of_decide_eq_true same⟩

/-- One more round than there are steps shows how every walk of a plan ends. -/
theorem returns_validateStep (steps : List LocalStep) (step : LocalStep) :
    Returns (validateStep steps step) := by
  have finishes : Chains.guardedWalk (stepLink steps) (steps.length + 1) [] (some step.id) ≠
      .exhausted :=
    Chains.guardedWalk_finishes stepLink_inside List.nodup_nil (List.nil_subset _) (by simp)
  simp only [validateStep, returns_bind, returns_rejectIf, true_and]
  intro _ _
  split
  · trivial
  · trivial
  · trivial
  · rename_i stopped
    exact absurd stopped finishes

@[simp] theorem returns_validatePlan (steps : List LocalStep) : Returns (validatePlan steps) := by
  have one : Returns (each steps (validateStep steps)) :=
    returns_each (fun step _ => returns_validateStep steps step)
  simp [validatePlan, one]

@[simp] theorem returns_validateWorkspace (workspace : ExecutionWorkspace) :
    Returns (validateWorkspace files workspace) := by
  have roots : ∀ root, Returns (each workspace.writeRoots (validateWriteRoot files root)) :=
    fun _ => returns_each (fun _ _ => by simp [validateWriteRoot])
  simp [validateWorkspace, roots]

@[simp] theorem returns_admitWorkspace (workspace : Option ExecutionWorkspace) :
    Returns (admitWorkspace files snapshot workspace) := by
  cases workspace <;> simp [admitWorkspace]

@[simp] theorem returns_dependencies (work : Ticket) : Returns (dependencies snapshot work) :=
  returns_mapM (fun _ _ => by simp [dependency])

@[simp] theorem returns_askingAssignment (authority : Authority) (work : Ticket) :
    Returns (askingAssignment snapshot authority work) := by
  unfold askingAssignment
  split <;> simp

@[simp] theorem returns_requireUserAcceptance (authority : Authority) (work : Ticket) :
    Returns (requireUserAcceptance authority work) := by
  unfold requireUserAcceptance
  split <;> simp

@[simp] theorem returns_requireReleased (active : Option String) :
    Returns (requireReleased snapshot active) := by
  cases active <;> simp [requireReleased]

@[simp] theorem returns_validateStartRoots (operation : Operation) :
    Returns (validateStartRoots files operation) := by
  unfold validateStartRoots
  split
  · exact returns_each (fun _ _ => by simp [validateStartRoot])
  · trivial

theorem returns_updateAssignment {id : String} (found : snapshot.assignments.lookup id = some a)
    (change : Assignment → Assignment) : Returns (updateAssignment snapshot id change) := by
  simp [updateAssignment, found]

theorem updateAssignment_tickets {id : String}
    (run : updateAssignment snapshot id change = .ok next) : next.tickets = snapshot.tickets := by
  simp only [updateAssignment, bind_eq_ok, pure_eq_ok] at run
  obtain ⟨_, _, same⟩ := run
  rw [← same]
  rfl

theorem returns_create :
    Returns (applyCreate codec snapshot authority uuid ids tempId kind parent contract
      dependsOn) := by
  simp only [applyCreate, returns_bind, returns_supervisor, returns_rejectIf,
    returns_validateContract, returns_allocate, returns_expect, returns_pure, true_and,
    expect_eq_ok, implies_true, and_true]
  intro _ _ _ _ _ _ after allocated
  cases allocate_ok allocated
  refine ⟨⟨uuid, lookup_insert_self _ _ _⟩, ?_⟩
  intro created same
  rw [lookup_insert_self] at same
  cases same
  exact ⟨_, lookup_insert_self _ _ _⟩

theorem returns_ready {id : String} : Returns (applyReady snapshot authority id) := by
  simp [applyReady]

theorem returns_setDependencies {id : String} :
    Returns (applySetDependencies snapshot authority id dependsOn) := by
  simp [applySetDependencies]

theorem returns_start :
    Returns (applyStart codec files snapshot authority uuid ids workId tempId workspace) := by
  simp only [applyStart, returns_bind, returns_supervisor, returns_ticket, returns_rejectIf,
    returns_validateContract, returns_admitWorkspace, Project.returns_contextForStart,
    returns_dependencies, returns_allocate, returns_expect, returns_pure, true_and,
    ticket_eq_ok, implies_true, and_true]
  intro _ _ work found _ _ _ _ _ _ _ _ _ _ _ _ _ _
  exact ⟨work, found⟩

theorem returns_admitted : Returns (applyAdmitted snapshot authority assignmentId receipt) := by
  simp only [applyAdmitted, returns_bind, returns_runtime, returns_assignment,
    returns_orElseErr, returns_rejectIf, true_and, assignment_eq_ok, orElseErr_eq_ok]
  intro _ _ a found intent dispatched _ _
  split
  · simp
  · simp only [returns_bind, returns_rejectIf, returns_ticket, true_and]
    intro _ _ _ _ _ _
    refine ⟨returns_each (fun _ _ => by simp [admitBeside]), fun _ _ => ?_⟩
    simp [recordAdmission, found, expect, dispatched]

theorem returns_running : Returns (applyRunning snapshot authority assignmentId) := by
  simp only [applyRunning, returns_bind, returns_runtime, returns_assignment, returns_rejectIf,
    returns_activePermit, true_and, assignment_eq_ok]
  intro _ _ a found _ _ _ _
  exact returns_updateAssignment found _

theorem returns_replacePlan :
    Returns (applyReplacePlan snapshot authority assignmentId revision steps) := by
  simp only [applyReplacePlan, returns_bind, returns_assignment, returns_worker,
    returns_activePermit, returns_rejectIf, returns_validatePlan, true_and, assignment_eq_ok]
  intro a found _ _ _ _ _ _ _ _
  exact returns_updateAssignment found _

theorem returns_ask :
    Returns (applyAsk codec snapshot authority uuid ids workId tempId prompt action) := by
  simp [applyAsk]

theorem returns_yieldForInput :
    Returns (applyYieldForInput snapshot authority assignmentId requestId packetHash) := by
  simp only [applyYieldForInput, returns_bind, returns_assignment, returns_worker,
    returns_activePermit, returns_validateRequest, returns_expect, returns_rejectIf, returns_pure,
    true_and, assignment_eq_ok, expect_eq_ok, implies_true, and_true]
  intro a found _ _ _ permit _ checked
  obtain ⟨r, _, opened⟩ := validateRequest_ok checked
  refine ⟨⟨r, opened.found⟩, fun q _ _ _ => ?_⟩
  have there : (snapshot.putRequest requestId { q with
      workerPacketHash := some packetHash }).assignments.lookup assignmentId = some a := found
  refine ⟨returns_updateAssignment there _, fun yielded update => ?_⟩
  obtain ⟨⟨work, current⟩, _⟩ := activePermit_ok.1 permit
  exact ⟨work, by rw [updateAssignment_tickets update]; exact current.found⟩

theorem returns_answer :
    Returns (applyAnswer snapshot authority requestId promptRevision answer) := by
  simp only [applyAnswer, returns_bind, returns_user, returns_validateRequest, returns_expect,
    returns_rejectIf, true_and, expect_eq_ok]
  intro _ _ _ checked
  obtain ⟨r, w, opened⟩ := validateRequest_ok checked
  refine ⟨⟨r, opened.found⟩, fun q again _ _ _ _ => ?_⟩
  rw [opened.found] at again
  cases again
  have there : (snapshot.putRequest requestId { r with
      answer := some answer, status := .answered, updatedSeq := snapshot.seq }).tickets.lookup
        r.workId = some w := opened.owner
  simp only [resumeAnswered, returns_bind, returns_expect, there, Option.some.injEq,
    exists_eq', true_and, expect_eq_ok]
  intro _ _ _ _
  split <;> trivial

theorem returns_decideApproval :
    Returns (applyDecideApproval snapshot authority requestId promptRevision fingerprint
      approve) := by
  simp only [applyDecideApproval, returns_bind, returns_user, returns_validateRequest,
    returns_expect, returns_rejectIf, returns_pure, true_and, implies_true, and_true]
  intro _ _ _ checked
  obtain ⟨r, _, opened⟩ := validateRequest_ok checked
  exact ⟨r, opened.found⟩

theorem returns_consumeApproval (here : Referenced authority snapshot) :
    Returns (applyConsumeApproval snapshot authority requestId fingerprint attemptId) := by
  simp only [applyConsumeApproval, returns_bind, returns_orElseErr, returns_assignment,
    returns_worker, returns_activePermit, returns_rejectIf, true_and, orElseErr_eq_ok]
  intro request requested bound _ a _ _ worker _ _ _ _
  split
  · simp
  · obtain ⟨receipt, _, who⟩ := worker_ok worker
    obtain ⟨holder, there⟩ := here.worker _ _ _ _ who
    simp [consume, requested, expect, there]

theorem returns_recordEffect :
    Returns (applyRecordEffect snapshot authority assignmentId attemptId effect) := by
  simp only [applyRecordEffect, returns_bind, returns_assignment, returns_worker,
    returns_activePermit, returns_orElseErr, returns_rejectIf, true_and, assignment_eq_ok]
  intro a found _ _ _ _ _ _ _ _ _ _ _ _
  exact returns_updateAssignment found _

theorem returns_submit :
    Returns (applySubmit snapshot authority uuid ids assignmentId tempId artifacts evidence) := by
  have checked : Returns (each artifacts validateArtifact) :=
    returns_each (fun _ _ => by simp [validateArtifact])
  simp only [applySubmit, returns_bind, returns_assignment, returns_worker, returns_rejectIf,
    checked, returns_ticket, returns_allocate, returns_expect, true_and, assignment_eq_ok,
    ticket_eq_ok]
  intro a found _ worker _ _ _ _ work owner _ _
  obtain ⟨receipt, ran, _⟩ := worker_ok worker
  refine ⟨⟨receipt, ran⟩, fun _ _ => ?_⟩
  split
  · trivial
  · simp [handOver, owner, expect, updateAssignment, found]

theorem returns_accept : Returns (applyAccept snapshot authority workId submissionId evidence) := by
  simp only [applyAccept, returns_bind, returns_supervisor, returns_ticket,
    returns_requireUserAcceptance, returns_orElseErr, returns_rejectIf, returns_dependencies,
    returns_expect, returns_pure, true_and, ticket_eq_ok, implies_true, and_true]
  intro _ _ work found _ _ _ _ _ _ _ _ _ _ _ _ _ _
  exact ⟨work, found⟩

theorem returns_acceptGoal : Returns (applyAcceptGoal snapshot authority goalId evidence) := by
  simp only [applyAcceptGoal, returns_bind, returns_supervisor, returns_ticket,
    returns_requireUserAcceptance, returns_rejectIf, returns_expect, returns_pure, true_and,
    ticket_eq_ok, implies_true, and_true]
  intro _ _ goal found _ _ _ _
  exact ⟨goal, found⟩

theorem returns_reject : Returns (applyReject snapshot authority workId submissionId reason) := by
  simp [applyReject]

theorem stopForPause_returns (recorded : ActiveRecorded snapshot) {id : String}
    (found : snapshot.tickets.lookup id = some w) :
    Returns (stopForPause snapshot w.activeAssignment) := by
  cases active : w.activeAssignment with
  | none => trivial
  | some assignmentId =>
    obtain ⟨a, there⟩ := recorded id w found assignmentId active
    simp [stopForPause, there]

section
variable (here : Referenced authority snapshot)
include here

theorem returns_pause : Returns (applyPause snapshot authority workId reason) := by
  simp only [applyPause, returns_bind, returns_supervisor, returns_ticket, returns_rejectIf,
    returns_expect, returns_pure, true_and, ticket_eq_ok, implies_true, and_true]
  intro _ _ w found _ _
  refine ⟨stopForPause_returns here.active found, ?_⟩
  intro stopped stopping
  have tickets := congrArg Snapshot.tickets (stopForPause_ok stopping).2
  exact ⟨w, by rw [tickets]; exact found⟩

theorem returns_confirmStopped :
    Returns (applyConfirmStopped snapshot authority assignmentId effectsReconciled) := by
  simp only [applyConfirmStopped, returns_bind, returns_runtime, returns_assignment,
    returns_rejectIf, returns_expect, true_and, assignment_eq_ok]
  intro _ _ a found _ _ _ _
  refine ⟨returns_updateAssignment found _, fun stopped update => ⟨?_, fun work _ => ?_⟩⟩
  · rw [updateAssignment_tickets update]
    exact here.works assignmentId a found
  · split <;> trivial

theorem returns_runtimeStopped :
    Returns (applyRuntimeStopped snapshot authority assignmentId receipt completed) := by
  simp only [applyRuntimeStopped, returns_bind, returns_runtime, returns_assignment,
    returns_rejectIf, returns_ticket, returns_expect, true_and, assignment_eq_ok]
  intro _ _ a found _ _ owner _
  refine ⟨returns_updateAssignment found _, fun stopped update => ⟨?_, fun work _ => ?_⟩⟩
  · rw [updateAssignment_tickets update]
    exact here.works assignmentId a found
  · split
    · split <;> trivial
    · trivial

end

theorem returns_reconcileCompleted :
    Returns (applyReconcileCompleted snapshot authority assignmentId receipt) := by
  simp only [applyReconcileCompleted, returns_bind, returns_runtime, returns_assignment,
    returns_ticket, returns_rejectIf, returns_dependencies, returns_expect, returns_pure,
    true_and, assignment_eq_ok, ticket_eq_ok, implies_true, and_true]
  intro _ _ a found w owner _ _ _ _ _ _
  refine ⟨returns_updateAssignment found _, fun reconciled update => ?_⟩
  rw [updateAssignment_tickets update]
  exact ⟨w, owner⟩

theorem returns_outcomeUnknown (here : Referenced authority snapshot) :
    Returns (applyOutcomeUnknown snapshot authority assignmentId reason) := by
  simp only [applyOutcomeUnknown, returns_bind, returns_runtime, returns_orElseErr,
    returns_expect, returns_pure, true_and, orElseErr_eq_ok, implies_true, and_true]
  intro _ _ a found
  exact here.works assignmentId a found

theorem returns_archive : Returns (applyArchive snapshot authority ticketId archived) := by
  simp [applyArchive]

theorem returns_resolveMessage :
    Returns (applyResolveMessage codec snapshot authority resolution) := by
  simp only [applyResolveMessage, returns_bind, returns_supervisor, returns_rejectIf, true_and]
  split <;> simp

theorem returns_import :
    Returns (applyImport codec snapshot authority uuid ids tempId contract source) := by
  simp only [applyImport, returns_bind, returns_supervisor, returns_validateContract,
    returns_rejectIf, true_and]
  split <;> simp

theorem returns_attachLegacy : Returns (applyAttachLegacy codec snapshot authority source) := by
  simp only [applyAttachLegacy, returns_bind, returns_user, returns_rejectIf, true_and]
  split <;> simp

/-- Does the operation pass its own checks and revoke what was built on the Ticket `id`? -/
def Revokes (codec : Codec) (snapshot : Snapshot) (authority : Authority) (ids : Ids) :
    Operation → String → Prop
  | .updateContract named contract, id => resolve named ids = id ∧
      authority.supervisor = .ok () ∧ validateContract codec contract = .ok () ∧
      ∃ w, snapshot.tickets.lookup id = some w ∧ w.contract ≠ contract ∧
        (w.kind = .work ∨ w.kind = .goal)
  | .cancel named, id => named = id ∧ authority.supervisor = .ok () ∧
      ∃ w, snapshot.tickets.lookup id = some w
  | .reopen named, id => named = id ∧ authority.supervisor = .ok () ∧
      ∃ w, snapshot.tickets.lookup id = some w ∧
        requireReleased snapshot w.activeAssignment = .ok ()
  | _, _ => False

section Revocations
variable {id : String}

theorem activeRecorded_edited (recorded : ActiveRecorded snapshot)
    (found : snapshot.tickets.lookup id = some w)
    (edited : middle.tickets = snapshot.tickets.insert id u)
    (active : u.activeAssignment = none ∨ u.activeAssignment = w.activeAssignment)
    (runs : RunsStopping snapshot middle) : ActiveRecorded middle := by
  intro key v present assignmentId holds
  have before : ∃ a, snapshot.assignments.lookup assignmentId = some a := by
    rw [edited, lookup_insert] at present
    split at present
    · cases present
      rcases active with none | same
      · rw [none] at holds
        cases holds
      · exact recorded id w found assignmentId (same.symm.trans holds)
    · exact recorded key v present assignmentId holds
  obtain ⟨a, there⟩ := before
  obtain ⟨b, kept, _⟩ := (runs assignmentId).2 a there
  exact ⟨b, kept⟩

theorem parentLink_edited (found : snapshot.tickets.lookup id = some w)
    (edited : middle.tickets = snapshot.tickets.insert id u) (parent : u.parent = w.parent) :
    parentLink middle = parentLink snapshot := by
  funext key
  simp only [parentLink, edited, lookup_insert]
  split
  · rename_i same
    subst same
    simp [found, parent]
  · rfl

theorem returns_revokeWork (recorded : ActiveRecorded snapshot)
    (found : snapshot.tickets.lookup id = some w)
    (edited : middle.tickets = snapshot.tickets.insert id u) (parent : u.parent = w.parent)
    (active : u.activeAssignment = none ∨ u.activeAssignment = w.activeAssignment)
    (runs : RunsStopping snapshot middle) :
    Returns (revokeWork middle id) ↔ Chains.Complete (parentLink snapshot) (some id) := by
  have here : ActiveRecorded (invalidateRequests middle id) :=
    activeRecorded_edited recorded found edited active runs
  obtain ⟨revoked, dependents⟩ := invalidateDependents_runs here id
  obtain ⟨affected, _, below⟩ := invalidateDependents_ok dependents
  have same : parentLink (invalidateRequests middle id) = parentLink snapshot :=
    parentLink_edited found edited parent
  have link : parentLink revoked = parentLink snapshot := (parentLink_revoked below).trans same
  have above : parentLink snapshot id = some w.parent := by simp [parentLink, found]
  have start : (revoked.tickets.lookup id).bind (fun work => work.parent) = w.parent := by
    rw [parent_of_link link, found]
    rfl
  unfold revokeWork
  rw [returns_bind, dependents, Chains.complete_step above, ← link, ← start,
    ← returns_invalidateParentGoals]
  constructor
  · rintro ⟨_, rest⟩
    exact rest revoked rfl
  · intro returned
    refine ⟨trivial, fun other same => ?_⟩
    cases same
    exact returned

theorem contractEdited_links (contract : Contract) (old work : Ticket) :
    (contractEdited contract old work).parent = work.parent ∧
      (contractEdited contract old work).activeAssignment = work.activeAssignment := by
  unfold contractEdited
  split <;> exact ⟨rfl, rfl⟩

theorem returns_stopForEdit (active : Option String) : Returns (stopForEdit snapshot active) := by
  cases active <;> simp [stopForEdit]

theorem stopForEdit_runs (recorded : ActiveRecorded snapshot)
    (found : snapshot.tickets.lookup id = some w) :
    ∃ stopped, stopForEdit snapshot w.activeAssignment = .ok stopped := by
  cases active : w.activeAssignment with
  | none => exact ⟨snapshot, rfl⟩
  | some assignmentId =>
    obtain ⟨a, there⟩ := recorded id w found assignmentId active
    exact ⟨_, by simp [stopForEdit, there]; rfl⟩

theorem stopForCancel_runs (recorded : ActiveRecorded snapshot)
    (found : snapshot.tickets.lookup id = some w) (u : Ticket) :
    ∃ stopped, stopForCancel (snapshot.putTicket id u) w.activeAssignment = .ok stopped := by
  cases active : w.activeAssignment with
  | none => exact ⟨_, rfl⟩
  | some assignmentId =>
    obtain ⟨a, there⟩ := recorded id w found assignmentId active
    exact ⟨_, by simp [stopForCancel, updateAssignment, there, expect]; rfl⟩

section
variable (here : Referenced authority snapshot)
include here

theorem returns_updateContract :
    Returns (applyUpdateContract codec snapshot authority (resolve named ids) contract) ↔
      ∀ id, Revokes codec snapshot authority ids (.updateContract named contract) id →
        Chains.Complete (parentLink snapshot) (some id) := by
  simp only [applyUpdateContract, returns_bind, returns_supervisor, returns_validateContract,
    returns_ticket, true_and, ticket_eq_ok]
  have walk : ∀ w, snapshot.tickets.lookup (resolve named ids) = some w → ∀ stopped,
      stopForEdit snapshot w.activeAssignment = .ok stopped →
      stopped.tickets = snapshot.tickets ∧
        (Returns (revokeWork (stopped.putTicket (resolve named ids)
          (touch (contractEdited contract w w) snapshot.seq)) (resolve named ids)) ↔
            Chains.Complete (parentLink snapshot) (some (resolve named ids))) := by
    intro w found stopped stopping
    obtain ⟨runs, frame⟩ := stopForEdit_ok stopping
    have tickets : stopped.tickets = snapshot.tickets := by rw [frame]
    have edited : (stopped.putTicket (resolve named ids)
        (touch (contractEdited contract w w) snapshot.seq)).tickets =
          snapshot.tickets.insert (resolve named ids)
            (touch (contractEdited contract w w) snapshot.seq) := by
      rw [← tickets]
      rfl
    obtain ⟨parent, active⟩ := contractEdited_links contract w w
    exact ⟨tickets, returns_revokeWork here.active found edited parent (.inr active) runs⟩
  constructor
  · rintro returned id ⟨target, supervisor, valid, w, found, changed, kinds⟩
    subst target
    obtain ⟨stopped, stopping⟩ := stopForEdit_runs here.active found
    obtain ⟨tickets, ends⟩ := walk w found stopped stopping
    have rest := returned () supervisor () valid w found
    have kept : ¬ (w.kind ≠ .work ∧ w.kind ≠ .goal) := by tauto
    simp only [if_neg changed, returns_bind, rejectIf_eq_ok] at rest
    have again : expect (stopped.tickets.lookup (resolve named ids)) "work" = .ok w := by
      rw [expect_eq_ok, tickets]
      exact found
    exact ends.1 ((((rest.2 () kept).2 stopped stopping).2) w again)
  · intro complete _ supervisor _ valid w found
    split
    · trivial
    · rename_i changed
      simp only [returns_bind, returns_rejectIf, returns_stopForEdit, returns_expect, true_and,
        rejectIf_eq_ok, expect_eq_ok]
      intro _ kinds stopped stopping
      obtain ⟨tickets, ends⟩ := walk w found stopped stopping
      refine ⟨⟨w, by rw [tickets]; exact found⟩, fun work again => ?_⟩
      rw [tickets, found] at again
      cases again
      have kept : w.kind = .work ∨ w.kind = .goal := by tauto
      exact ends.2 (complete _ ⟨rfl, supervisor, valid, w, found, changed, kept⟩)

theorem returns_cancel :
    Returns (applyCancel snapshot authority named) ↔
      ∀ id, Revokes codec snapshot authority ids (.cancel named) id →
        Chains.Complete (parentLink snapshot) (some id) := by
  simp only [applyCancel, returns_bind, returns_supervisor, returns_orElseErr, true_and,
    orElseErr_eq_ok]
  have walk : ∀ w, snapshot.tickets.lookup named = some w → ∀ stopped,
      stopForCancel (snapshot.putTicket named (touch { w with
        state := .cancelled
        paused := false
        blocked := none
        acceptedSubmission := none } snapshot.seq)) w.activeAssignment = .ok stopped →
      (Returns (revokeWork stopped named) ↔
        Chains.Complete (parentLink snapshot) (some named)) := by
    intro w found stopped stopping
    obtain ⟨runs, frame⟩ := stopForCancel_ok stopping
    refine returns_revokeWork (u := touch { w with
        state := .cancelled
        paused := false
        blocked := none
        acceptedSubmission := none } snapshot.seq) here.active found ?_ rfl (.inr rfl) runs
    rw [frame]
    rfl
  constructor
  · rintro returned id ⟨target, supervisor, w, found⟩
    subst target
    obtain ⟨stopped, stopping⟩ := stopForCancel_runs here.active found (touch { w with
        state := .cancelled
        paused := false
        blocked := none
        acceptedSubmission := none } snapshot.seq)
    have rest := (returned () supervisor w found).2 stopped stopping
    exact (walk w found stopped stopping).1 rest
  · intro complete _ supervisor w found
    obtain ⟨stopped, stopping⟩ := stopForCancel_runs here.active found (touch { w with
        state := .cancelled
        paused := false
        blocked := none
        acceptedSubmission := none } snapshot.seq)
    rw [stopping]
    refine ⟨trivial, fun other same => ?_⟩
    cases same
    exact (walk w found stopped stopping).2 (complete named ⟨rfl, supervisor, w, found⟩)

theorem returns_reopen :
    Returns (applyReopen snapshot authority named) ↔
      ∀ id, Revokes codec snapshot authority ids (.reopen named) id →
        Chains.Complete (parentLink snapshot) (some id) := by
  simp only [applyReopen, returns_bind, returns_supervisor, returns_ticket,
    returns_requireReleased, returns_orElseErr, true_and, ticket_eq_ok, orElseErr_eq_ok]
  have walk : ∀ w, snapshot.tickets.lookup named = some w →
      (Returns (revokeWork (snapshot.putTicket named (touch { w with
        activeAssignment := none
        paused := false
        state := .ready
        blocked := none
        acceptedSubmission := none
        currentSubmission := none } snapshot.seq)) named) ↔
        Chains.Complete (parentLink snapshot) (some named)) := by
    intro w found
    exact returns_revokeWork here.active found rfl rfl (.inl rfl) (runsStopping_refl snapshot)
  constructor
  · rintro returned id ⟨target, supervisor, w, found, released⟩
    subst target
    exact (walk w found).1 (returned () supervisor w found () released w found)
  · intro complete _ supervisor w found _ released work again
    rw [found] at again
    cases again
    exact (walk w found).2 (complete named ⟨rfl, supervisor, w, found, released⟩)

end

end Revocations

theorem returns_keepIds (run : Result Snapshot) : Returns (keepIds ids run) ↔ Returns run := by
  simp [keepIds]

theorem returns_apply (here : Referenced authority snapshot) (operation : Operation) :
    Returns (apply codec files snapshot authority uuid operation ids) ↔
      ∀ id, Revokes codec snapshot authority ids operation id →
        Chains.Complete (parentLink snapshot) (some id) := by
  have always : ∀ run : Result (Snapshot × Ids), Returns run →
      (∀ id, ¬ Revokes codec snapshot authority ids operation id) →
      (Returns run ↔ ∀ id, Revokes codec snapshot authority ids operation id →
        Chains.Complete (parentLink snapshot) (some id)) := by
    intro run returned none
    constructor
    · intro _ id revokes
      exact absurd revokes (none id)
    · intro _
      exact returned
  cases operation with
  | updateContract named contract =>
    exact (returns_keepIds _).trans (returns_updateContract here)
  | cancel named => exact (returns_keepIds _).trans (returns_cancel here)
  | reopen named => exact (returns_keepIds _).trans (returns_reopen here)
  | associateProject ticketId projectId =>
    exact always _ ((returns_keepIds _).2 (by simp)) (fun _ revokes => revokes)
  | setProjectContext workId context =>
    exact always _ ((returns_keepIds _).2 (by simp)) (fun _ revokes => revokes)
  | create _ _ _ _ _ => exact always _ returns_create (fun _ revokes => revokes)
  | setPlanningMetadata _ _ _ _ =>
    exact always _ ((returns_keepIds _).2 (Planning.returns_set _ _ _ _ _ _ _))
      (fun _ revokes => revokes)
  | ready _ => exact always _ ((returns_keepIds _).2 returns_ready) (fun _ revokes => revokes)
  | setDependencies _ _ =>
    exact always _ ((returns_keepIds _).2 returns_setDependencies) (fun _ revokes => revokes)
  | start _ _ _ => exact always _ returns_start (fun _ revokes => revokes)
  | admitted _ _ =>
    exact always _ ((returns_keepIds _).2 returns_admitted) (fun _ revokes => revokes)
  | running _ =>
    exact always _ ((returns_keepIds _).2 returns_running) (fun _ revokes => revokes)
  | replacePlan _ _ _ =>
    exact always _ ((returns_keepIds _).2 returns_replacePlan) (fun _ revokes => revokes)
  | ask _ _ _ _ => exact always _ returns_ask (fun _ revokes => revokes)
  | yieldForInput _ _ _ =>
    exact always _ ((returns_keepIds _).2 returns_yieldForInput) (fun _ revokes => revokes)
  | answer _ _ _ =>
    exact always _ ((returns_keepIds _).2 returns_answer) (fun _ revokes => revokes)
  | decideApproval _ _ _ _ =>
    exact always _ ((returns_keepIds _).2 returns_decideApproval) (fun _ revokes => revokes)
  | consumeApproval _ _ _ =>
    exact always _ ((returns_keepIds _).2 (returns_consumeApproval here))
      (fun _ revokes => revokes)
  | recordEffect _ _ _ =>
    exact always _ ((returns_keepIds _).2 returns_recordEffect) (fun _ revokes => revokes)
  | submit _ _ _ _ => exact always _ returns_submit (fun _ revokes => revokes)
  | accept _ _ _ =>
    exact always _ ((returns_keepIds _).2 returns_accept) (fun _ revokes => revokes)
  | acceptGoal _ _ =>
    exact always _ ((returns_keepIds _).2 returns_acceptGoal) (fun _ revokes => revokes)
  | reject _ _ _ =>
    exact always _ ((returns_keepIds _).2 returns_reject) (fun _ revokes => revokes)
  | pause _ _ =>
    exact always _ ((returns_keepIds _).2 (returns_pause here)) (fun _ revokes => revokes)
  | confirmStopped _ _ =>
    exact always _ ((returns_keepIds _).2 (returns_confirmStopped here))
      (fun _ revokes => revokes)
  | runtimeStopped _ _ _ =>
    exact always _ ((returns_keepIds _).2 (returns_runtimeStopped here))
      (fun _ revokes => revokes)
  | reconcileCompleted _ _ =>
    exact always _ ((returns_keepIds _).2 returns_reconcileCompleted) (fun _ revokes => revokes)
  | outcomeUnknown _ _ =>
    exact always _ ((returns_keepIds _).2 (returns_outcomeUnknown here))
      (fun _ revokes => revokes)
  | archive _ _ =>
    exact always _ ((returns_keepIds _).2 returns_archive) (fun _ revokes => revokes)
  | resolveMessage _ =>
    exact always _ ((returns_keepIds _).2 returns_resolveMessage) (fun _ revokes => revokes)
  | importLegacy _ _ _ => exact always _ returns_import (fun _ revokes => revokes)
  | attachLegacy _ =>
    exact always _ ((returns_keepIds _).2 returns_attachLegacy) (fun _ revokes => revokes)

section Batches
variable {codec : Codec} {files : Files} {authority : Authority}

/-- A batch on a copy of the published snapshot, and the check of what it made. -/
def appliedAndChecked (codec : Codec) (files : Files) (snapshot : Snapshot)
    (authority : Authority) (operations : List (Operation × String)) : Result Unit := do
  let applied ← applyOperations codec files { snapshot with seq := snapshot.seq + 1 } authority
    operations
  validateSnapshot codec applied.1

theorem referenced_batch {before : List (Operation × String)} (here : Referenced authority snapshot)
    (run : applyOperations codec files snapshot authority before = .ok (mid, ids)) :
    Referenced authority mid := by
  let Kept := fun (_ : List (Operation × String)) (state : Snapshot × Ids) =>
    Referenced authority state.1
  have begins : Kept before (snapshot, SortedMap.empty) := here
  have ends : Kept [] (mid, ids) := by
    refine foldlM_invariant begins ?_ run
    intro _ _ _ state next _ _ known moved
    exact referenced_applied known (applyOperation_ok moved)
  exact ends

theorem returns_applyOperation (here : Referenced authority mid) (operation : Operation)
    (uuid : String) :
    Returns (applyOperation codec files authority (mid, ids) (operation, uuid)) ↔
      ∀ id, Revokes codec mid authority ids operation id →
        Chains.Complete (parentLink mid) (some id) := by
  simp only [applyOperation, returns_bind, returns_validateStartRoots, true_and,
    returns_apply here]
  constructor
  · intro complete id revokes
    have roots : validateStartRoots files operation = .ok () := by
      cases operation <;> first | rfl | exact revokes.elim
    exact complete () roots id revokes
  · intro complete _ _
    exact complete

/-- A batch returns exactly when no operation of it that gets past its own checks revokes a
    Ticket whose parents end in a missing one or lead round in a circle. -/
theorem batch_returns_iff (valid : validateSnapshot codec snapshot = .ok ())
    (authorized : validateAuthority authority snapshot = .ok ()) :
    Returns (appliedAndChecked codec files snapshot authority operations) ↔
      ∀ before operation uuid rest mid ids id, operations = before ++ (operation, uuid) :: rest →
        applyOperations codec files { snapshot with seq := snapshot.seq + 1 } authority before =
          .ok (mid, ids) →
        Revokes codec mid authority ids operation id →
        Chains.Complete (parentLink mid) (some id) := by
  have here : Referenced authority { snapshot with seq := snapshot.seq + 1 } := by
    have published := valid_referenced valid authorized
    exact ⟨published.active, published.works, published.worker⟩
  have checks : ∀ applied : Snapshot × Ids, Returns (validateSnapshot codec applied.1) :=
    fun applied => returns_validateSnapshot codec applied.1
  simp only [appliedAndChecked, returns_bind, checks, implies_true, and_true, applyOperations,
    returns_foldlM_iff]
  constructor
  · intro every before operation uuid rest mid ids id whole sofar revokes
    have there := referenced_batch here sofar
    exact (returns_applyOperation there operation uuid).mp
      (every before (operation, uuid) rest (mid, ids) whole sofar) id revokes
  · intro every before item rest state whole sofar
    have there := referenced_batch here sofar
    exact (returns_applyOperation there item.1 item.2).mpr
      (fun id revokes => every before item.1 item.2 rest state.1 state.2 id whole sofar revokes)

end Batches

/-- A Ticket may be cancelled in the batch that creates it. -/
theorem batch_returns_iff_cancelled :
    Returns (appliedAndChecked Sample.codec Sample.files (Snapshot.empty Sample.binding)
      Sample.supervisor [(.create "x" .work none (Sample.contract "first") SortedSet.empty, "a0"),
        (.cancel "a0", "a1")]) := by
  refine (batch_returns_iff (by decide) (by decide)).mpr ?_
  intro before operation uuid rest mid ids id whole sofar revokes
  cases before with
  | nil =>
    cases whole
    exact revokes.elim
  | cons first before =>
    cases before with
    | nil =>
      cases whole
      have root : (applyOperations Sample.codec Sample.files
          { Snapshot.empty Sample.binding with seq := (Snapshot.empty Sample.binding).seq + 1 }
          Sample.supervisor
          [(.create "x" .work none (Sample.contract "first") SortedSet.empty,
            "a0")]).toOption.any (fun state => (state.1.tickets.lookup "a0").any
              (fun w => decide (w.parent = none))) = true := by decide
      simp only [sofar, Except.toOption, Option.any_some, Option.any_eq_true] at root
      obtain ⟨w, found, parent⟩ := root
      have target : id = "a0" := revokes.1.symm
      have above : parentLink mid id = some none := by
        rw [target, parentLink, found]
        exact congrArg some (of_decide_eq_true parent)
      exact (Chains.complete_step above).mpr Chains.complete_root
    | cons second before => simp at whole

/-- A contract edit in the batch that gives its Ticket a missing parent panics. -/
theorem edit_under_missing_parent_panics :
    validateSnapshot Sample.codec (Snapshot.empty Sample.binding) = .ok () ∧
      validateAuthority Sample.supervisor (Snapshot.empty Sample.binding) = .ok () ∧
      ¬ Returns (appliedAndChecked Sample.codec Sample.files (Snapshot.empty Sample.binding)
        Sample.supervisor
        [(.create "x" .work (some "missing") (Sample.contract "first") SortedSet.empty, "a0"),
          (.updateContract "x" (Sample.contract "second"), "a1")]) := by
  decide

/-- Under itself as its parent, the same edit never ends. -/
example : appliedAndChecked Sample.codec Sample.files (Snapshot.empty Sample.binding)
    Sample.supervisor
    [(.create "x" .work (some "x") (Sample.contract "first") SortedSet.empty, "a0"),
      (.updateContract "x" (Sample.contract "second"), "a1")] = .error .diverges := by
  decide

end Tickets
