import BambooAgent.Tickets.Runs

/- Every publication read backwards: a batch of operations is applied one by one, and
   whatever else publishes edits the records in a few ways of its own. -/
namespace Tickets
open SortedMaps Evolutions Batches SortedMap Option

/-- A batch that was applied to the published snapshot and found valid as a whole. -/
structure Operated (codec : Codec) (files : Files) (authority : Authority)
    (operations : List (Operation × String)) (snapshot next after : Snapshot) (ids : Ids) :
    Prop where
  fresh : Fresh snapshot (operations.map Prod.snd)
  applied : applyOperations codec files { snapshot with seq := snapshot.seq + 1 } authority
    operations = .ok (after, ids)
  valid : validateSnapshot codec after = .ok ()
  same : SameFacts after next
  seq : next.seq = after.seq

section HostEdits
variable (snapshot : Snapshot)

inductive HostAssignmentEdit : String → Assignment → Assignment → Prop where
  | isolated {id : String} :
      HostAssignmentEdit id a (isolate (snapshot.seq + 1) a)
  | begun {id : String} (permit : activePermit snapshot a = .ok ())
      (file : startsWith operationId "worker-file/" = true)
      (unused : a.effects.lookup operationId = none) :
      HostAssignmentEdit id a
        (bump { a with effects := a.effects.insert operationId effect } (snapshot.seq + 1))
  | installed {id : String}
      (alive : a.processStopped = false) (running : a.state = .admitted ∨ a.state = .running)
      (file : startsWith operationId "worker-file/" = true)
      (found : a.effects.lookup operationId = some effect)
      (pending : unsettled effect = true) :
      HostAssignmentEdit id a (bump { a with effects := a.effects.insert operationId { effect with
        state := .succeeded
        providerReceipt := some receipt } } (snapshot.seq + 1))
  | observed {id : String} (stopped : a.processStopped = true) (unknown : a.state = .outcomeUnknown)
      (file : startsWith effectId "worker-file/" = true)
      (found : a.effects.lookup effectId = some effect)
      (pending : unsettled effect = true) :
      HostAssignmentEdit id a
        (bump { a with effects := a.effects.insert effectId (observedEffect effect) }
          (snapshot.seq + 1))
  | released {id : String} (stopped : a.processStopped = true) (unknown : a.state = .outcomeUnknown)
      (file : startsWith effectId "worker-file/" = true)
      (found : a.effects.lookup effectId = some effect)
      (settled : hasUnsettled (a.effects.insert effectId (observedEffect effect)) = false)
      (owner : snapshot.tickets.lookup a.workId = some work)
      (pending : unsettled effect = true) :
      HostAssignmentEdit id a
        (bump { a with
          effects := a.effects.insert effectId (observedEffect effect)
          state := releasedState work } (snapshot.seq + 1))

inductive HostTicketEdit : String → Ticket → Ticket → Prop where
  | still {id : String} : HostTicketEdit id w w
  | awaiting {id : String} (active : w.state = .active) :
      HostTicketEdit id w (awaitReconciliation (snapshot.seq + 1) w)
  | retried {id : String} {a : Assignment} (owner : a.workId = id)
      (active : w.activeAssignment = some a.id) :
      HostTicketEdit id w (retriedWork (snapshot.seq + 1) w)

def HostAssignmentChange (id : String) (a b : Assignment) : Prop :=
  b = a ∨ HostAssignmentEdit snapshot id a b

def HostRequestChange (_ : String) (r q : PendingRequest) : Prop :=
  q = r ∨ q = expire (snapshot.seq + 1) r

/-- Nothing of an assignment changes but its effects, its state and its stamps. -/
theorem hostChange_kept {snapshot : Snapshot} {id : String}
    (change : HostAssignmentChange snapshot id a b) :
    b = { a with
      effects := b.effects, state := b.state, updatedSeq := b.updatedSeq,
      recordRevision := b.recordRevision } := by
  rcases change with same | edit
  · rw [same]
  · cases edit with
    | isolated =>
      unfold isolate
      split <;> rfl
    | begun _ _ _ => rfl
    | installed _ _ _ _ _ => rfl
    | observed _ _ _ _ _ => rfl
    | released _ _ _ _ _ _ _ => rfl

theorem hostAssignment_still (id : String) (a : Assignment) :
    HostAssignmentChange snapshot id a a := .inl rfl

theorem hostRequest_still (id : String) (r : PendingRequest) :
    HostRequestChange snapshot id r r := .inl rfl

end HostEdits

/-- What a publication other than a batch may do to the records. -/
structure HostChanges (snapshot next : Snapshot) : Prop where
  binding : next.binding = snapshot.binding
  seq : next.seq = snapshot.seq + 1
  authorityEpoch : snapshot.authorityEpoch ≤ next.authorityEpoch
  tickets : Evolves (HostTicketEdit snapshot) (fun _ _ => False) snapshot.tickets next.tickets
  assignments : Evolves (HostAssignmentChange snapshot) (fun _ _ => False) snapshot.assignments
    next.assignments
  requests : Evolves (HostRequestChange snapshot) (fun _ _ => False) snapshot.requests
    next.requests
  submissions : next.submissions = snapshot.submissions

theorem publish_same (snapshot : Snapshot) : SameFacts snapshot (publish snapshot) := by
  unfold publish
  split
  · exact ⟨rfl, rfl, rfl, rfl, rfl, rfl, rfl, rfl⟩
  · exact ⟨rfl, rfl, rfl, rfl, rfl, rfl, rfl, rfl⟩

@[simp] theorem publish_seq (snapshot : Snapshot) : (publish snapshot).seq = snapshot.seq := by
  unfold publish
  split <;> rfl

theorem sameFacts_trans (first : SameFacts snapshot middle) (second : SameFacts middle next) :
    SameFacts snapshot next :=
  ⟨second.binding.trans first.binding, second.authorityEpoch.trans first.authorityEpoch,
    second.tickets.trans first.tickets, second.assignments.trans first.assignments,
    second.requests.trans first.requests, second.submissions.trans first.submissions,
    second.intents.trans first.intents, second.project.trans first.project⟩

theorem sameFacts_published (facts : SameFacts snapshot middle) :
    SameFacts snapshot (publish middle) := sameFacts_trans facts (publish_same middle)

theorem operate_ok (run : operate codec files snapshot authority operations = .ok (after, ids)) :
    applyOperations codec files { snapshot with seq := snapshot.seq + 1 } authority operations =
      .ok (after, ids) ∧ validateSnapshot codec after = .ok () := by
  simp only [operate, bind_eq_ok, pure_eq_ok] at run
  obtain ⟨applied, accepted, _, valid, _, _, _, _, same⟩ := run
  subst same
  exact ⟨accepted, valid⟩

theorem execute_ok
    (run : execute codec files health snapshot authority uuids command = .ok (receipt, some next)) :
    validateAuthority authority snapshot = .ok () ∧
      snapshot.receipts.lookup command.operationId = none ∧
      command.expectedSeq = snapshot.seq ∧ command.expectedEpoch = snapshot.authorityEpoch ∧
      ∃ after ids, operate codec files snapshot authority (stamped uuids 0 command.operations) =
        .ok (after, ids) ∧
        next = publish { after with
          receipts := after.receipts.insert command.operationId receipt } := by
  simp only [execute, bind_eq_ok] at run
  obtain ⟨_, authorized, _, _, _, _, _, _, _, _, rest⟩ := run
  split at rest
  · simp only [bind_eq_ok, pure_eq_ok, Prod.mk.injEq] at rest
    obtain ⟨_, _, _, absurd⟩ := rest
    cases absurd
  · rename_i unseen
    simp only [bind_eq_ok, pure_eq_ok, Prod.mk.injEq, some.injEq, commit,
      rejectIf_eq_ok, not_or, not_not] at rest
    obtain ⟨committed, ⟨_, _, _, ⟨seq, epoch⟩, _, _, operated, run, same⟩, first, second⟩ := rest
    subst same
    refine ⟨authorized, unseen, seq, epoch, operated.1, operated.2, run, ?_⟩
    rw [← second, ← first]

/- A restart. -/

theorem isolateWork_lookup (seq : Nat) (tickets : SortedMap String Ticket) (a : Assignment)
    (id : String) : (isolateWork seq tickets a).lookup id = tickets.lookup id ∨
      ∃ w, tickets.lookup id = some w ∧ w.state = .active ∧
        (isolateWork seq tickets a).lookup id = some (awaitReconciliation seq w) := by
  unfold isolateWork
  split
  · split
    · exact .inl rfl
    · rename_i work found
      split
      · rename_i active
        by_cases same : id = a.workId
        · subst same
          exact .inr ⟨work, found, active.2, by simp⟩
        · exact .inl (by simp [same])
      · exact .inl rfl
  · exact .inl rfl

theorem isolateWorks_lookup (seq : Nat) (assignments : List Assignment)
    (tickets : SortedMap String Ticket) (id : String) :
    (assignments.foldl (isolateWork seq) tickets).lookup id = tickets.lookup id ∨
      ∃ w, tickets.lookup id = some w ∧ w.state = .active ∧
        (assignments.foldl (isolateWork seq) tickets).lookup id =
          some (awaitReconciliation seq w) := by
  induction assignments generalizing tickets with
  | nil => exact .inl rfl
  | cons a rest ih =>
    have first := isolateWork_lookup seq tickets a id
    have later := ih (isolateWork seq tickets a)
    rcases first with same | ⟨w, found, active, moved⟩
    · rw [same] at later
      exact later
    · rw [moved] at later
      rcases later with same | ⟨v, found', active', _⟩
      · exact .inr ⟨w, found, active, same⟩
      · cases found'
        cases active'

theorem fromStore_ok (run : fromStore codec snapshot = .ok next) :
    validateSnapshot codec snapshot = .ok () ∧
      next = publish (restarted snapshot (snapshot.authorityEpoch + 1)) := by
  simp only [fromStore, bind_eq_ok, orElseErr_eq_ok, pure_eq_ok] at run
  obtain ⟨_, valid, epoch, added, same⟩ := run
  unfold checkedAdd at added
  split at added
  · cases added
    exact ⟨valid, same.symm⟩
  · cases added

theorem restarted_changes (snapshot : Snapshot) (later : snapshot.authorityEpoch ≤ epoch) :
    HostChanges snapshot (restarted snapshot epoch) where
  binding := rfl
  seq := rfl
  authorityEpoch := later
  tickets := by
    constructor
    · intro id w found
      rcases isolateWorks_lookup (snapshot.seq + 1) snapshot.assignments.values
          snapshot.tickets id with same | ⟨v, _, _, moved⟩
      · exact ⟨w, same.trans found⟩
      · exact ⟨_, moved⟩
    · intro id v present
      left
      rcases isolateWorks_lookup (snapshot.seq + 1) snapshot.assignments.values
          snapshot.tickets id with same | ⟨w, found, active, moved⟩
      · exact ⟨v, same.symm.trans present, .still⟩
      · have both := moved.symm.trans present
        cases both
        exact ⟨w, found, .awaiting active⟩
  assignments := evolves_mapValues (fun _ _ _ => .inr .isolated)
  requests := evolves_mapValues (fun _ _ _ => .inr rfl)
  submissions := rfl

theorem hostChanges_same (change : HostChanges snapshot middle) (same : SameFacts middle next)
    (seq : next.seq = middle.seq) : HostChanges snapshot next where
  binding := same.binding.trans change.binding
  seq := seq.trans change.seq
  authorityEpoch := same.authorityEpoch.symm ▸ change.authorityEpoch
  tickets := same.tickets.symm ▸ change.tickets
  assignments := same.assignments.symm ▸ change.assignments
  requests := same.requests.symm ▸ change.requests
  submissions := same.submissions.trans change.submissions

theorem hostChanges_recorded (same : SameFacts snapshot next)
    (seq : next.seq = snapshot.seq + 1) : HostChanges snapshot next where
  binding := same.binding
  seq := seq
  authorityEpoch := le_of_eq same.authorityEpoch.symm
  tickets := same.tickets.symm ▸ evolves_same (fun _ _ => .still)
  assignments := same.assignments.symm ▸ evolves_same (hostAssignment_still snapshot)
  requests := same.requests.symm ▸ evolves_same (hostRequest_still snapshot)
  submissions := same.submissions

theorem hostChanges_edited {id : String} (found : snapshot.assignments.lookup id = some a)
    (edit : HostAssignmentEdit snapshot id a b)
    (same : SameFacts (snapshot.putAssignment id b) next) (seq : next.seq = snapshot.seq + 1) :
    HostChanges snapshot next where
  binding := same.binding
  seq := seq
  authorityEpoch := le_of_eq same.authorityEpoch.symm
  tickets := same.tickets.symm ▸ evolves_same (fun _ _ => .still)
  assignments := by
    have put : Evolves (HostAssignmentChange snapshot) (fun _ _ => False) snapshot.assignments
        (snapshot.assignments.insert id b) :=
      evolves_put (hostAssignment_still snapshot) found (.inr edit)
    rw [same.assignments]
    exact put
  requests := same.requests.symm ▸ evolves_same (hostRequest_still snapshot)
  submissions := same.submissions

theorem hostChanges_putTicket {id : String} (change : HostChanges snapshot middle)
    (same : middle.tickets = snapshot.tickets) (found : snapshot.tickets.lookup id = some w)
    (edit : HostTicketEdit snapshot id w v) : HostChanges snapshot (middle.putTicket id v) where
  binding := change.binding
  seq := change.seq
  authorityEpoch := change.authorityEpoch
  tickets := by
    rw [Snapshot.putTicket_tickets, same]
    exact evolves_put (fun _ _ => .still) found edit
  assignments := change.assignments
  requests := change.requests
  submissions := change.submissions

/- File writes. -/

theorem fileOperationId_prefix (codec : Codec) (authority : Authority) (callId : String) :
    startsWith (fileOperationId codec authority callId) "worker-file/" = true := by
  simp [startsWith, fileOperationId]

/-- The state an admitted file write leaves behind for its completion. -/
structure FileStarted (codec : Codec) (snapshot next : Snapshot) (authority : Authority)
    (write : FileWrite) (id : String) (a : Assignment) : Prop where
  worker : workerAssignment authority = .ok id
  found : snapshot.assignments.lookup id = some a
  permit : activePermit snapshot a = .ok ()
  unused : a.effects.lookup (fileOperationId codec authority write.callId) = none
  same : SameFacts ((snapshot.putAssignment id (bump { a with
    effects := a.effects.insert (fileOperationId codec authority write.callId)
      (startedEffect codec authority write) } (snapshot.seq + 1)))) next
  seq : next.seq = snapshot.seq + 1

theorem startFileWrite_ok
    (run : startFileWrite codec files health snapshot authority write = .ok (some next)) :
    ∃ id a, FileStarted codec snapshot next authority write id a := by
  simp only [startFileWrite, bind_eq_ok, expect_eq_ok] at run
  obtain ⟨_, _, id, worker, a, found, _, _, _, _, rest⟩ := run
  split at rest
  · simp only [bind_eq_ok, pure_eq_ok] at rest
    obtain ⟨_, _, _, _, absurd⟩ := rest
    cases absurd
  · simp only [bind_eq_ok, pure_eq_ok, some.injEq, admitFileWrite, rejectIf_eq_ok] at rest
    obtain ⟨_, _, _, ⟨_, permit, _, _, _, unused, _⟩, started, update, _, _, same⟩ := rest
    have begun := updateAssignment_ok update found
    refine ⟨id, a, worker, found, permit, ?_, ?_, ?_⟩
    · rw [Bool.not_eq_true, contains_false] at unused
      exact unused
    · have middle : SameFacts (snapshot.putAssignment id (bump { a with
          effects := a.effects.insert (fileOperationId codec authority write.callId)
            (startedEffect codec authority write) } (snapshot.seq + 1))) started := by
        subst begun
        exact ⟨rfl, rfl, rfl, rfl, rfl, rfl, rfl, rfl⟩
      rw [← same]
      exact sameFacts_published middle
    · rw [← same, publish_seq, begun]
      rfl

theorem startFileWrite_changes
    (run : startFileWrite codec files health snapshot authority write = .ok (some next)) :
    HostChanges snapshot next := by
  obtain ⟨id, a, started⟩ := startFileWrite_ok run
  have file := fileOperationId_prefix codec authority write.callId
  have edit : HostAssignmentEdit snapshot id a (bump { a with
      effects := a.effects.insert (fileOperationId codec authority write.callId)
        (startedEffect codec authority write) } (snapshot.seq + 1)) :=
    .begun started.permit file started.unused
  exact hostChanges_edited started.found edit started.same started.seq

theorem fileStarted_running {id : String}
    (started : FileStarted codec snapshot next authority write id a) :
    ∃ b, next.assignments.lookup id = some b ∧ b.processStopped = false ∧
      (b.state = .admitted ∨ b.state = .running) ∧
      b.effects.lookup (fileOperationId codec authority write.callId) =
        some (startedEffect codec authority write) := by
  obtain ⟨⟨work, current⟩, alive⟩ := activePermit_ok.1 started.permit
  rw [started.same.assignments]
  exact ⟨_, lookup_insert_self _ _ _, alive, current.admitted,
    lookup_insert_self _ _ _⟩

theorem finishFileWrite_changes
    (first : startFileWrite codec files health earlier authority write = .ok (some snapshot))
    (run : finishFileWrite codec snapshot authority write observedAtMs = .ok next) :
    HostChanges snapshot next := by
  obtain ⟨id, a, started⟩ := startFileWrite_ok first
  obtain ⟨b, found, alive, running, intent⟩ := fileStarted_running started
  have file := fileOperationId_prefix codec authority write.callId
  simp only [finishFileWrite, bind_eq_ok, expect_eq_ok, started.worker, Except.ok.injEq,
    pure_eq_ok] at run
  obtain ⟨_, same, c, present, effect, recorded, finished, update, _, _, published⟩ := run
  subst same
  rw [found] at present
  cases present
  have pending : unsettled effect = true := by
    rw [intent] at recorded
    cases recorded
    rfl
  have edit : HostAssignmentEdit snapshot id b (bump { b with
      effects := b.effects.insert (fileOperationId codec authority write.callId) { effect with
        state := .succeeded
        providerReceipt := some ("local-file:" ++
          (storedArtifact codec write.content).sha256) } } (snapshot.seq + 1)) :=
    .installed alive running file recorded pending
  have ended := updateAssignment_ok update found
  subst ended
  subst published
  refine hostChanges_edited found edit ?_ ?_
  · apply sameFacts_published
    exact ⟨rfl, rfl, rfl, rfl, rfl, rfl, rfl, rfl⟩
  · rw [publish_seq]
    rfl

/- Reconciliation and activation. -/

theorem confirmObserved_ok (run : confirmObserved codec files snapshot a request = .ok effect) :
    a.processStopped = true ∧ a.state = .outcomeUnknown ∧
      startsWith request.effectId "worker-file/" = true ∧
      a.effects.lookup request.effectId = some effect ∧ unsettled effect = true := by
  simp only [confirmObserved, bind_eq_ok, rejectIf_eq_ok, expect_eq_ok, not_or, not_not,
    Bool.not_eq_false] at run
  obtain ⟨_, _, _, ⟨stopped, unknown⟩, operation, intended, found, recorded, _, _, _,
    ⟨pending, _⟩, _, _, rest⟩ := run
  have file : startsWith request.effectId "worker-file/" = true := by
    simp only [writeIntent, bind_eq_ok] at intended
    obtain ⟨_, _, _, _, _, _, _, _, parsed, _, checked⟩ := intended
    cases parsed with
    | write _ _ _ =>
      simp only [bind_eq_ok, rejectIf_eq_ok, not_or, Bool.not_eq_false] at checked
      obtain ⟨_, ⟨file, _⟩, _⟩ := checked
      exact file
    | read _ => cases checked
    | readPage _ _ _ _ => cases checked
  cases operation with
  | write _ _ _ =>
    simp only [bind_eq_ok, pure_eq_ok] at rest
    obtain ⟨_, _, _, _, _, _, same⟩ := rest
    subst same
    exact ⟨stopped, unknown, file, recorded, pending⟩
  | read _ => cases rest
  | readPage _ _ _ _ => cases rest

theorem reconcileEffect_changes
    (run : reconcileEffect codec files snapshot authority request = .ok next) :
    HostChanges snapshot next := by
  simp only [reconcileEffect, bind_eq_ok, orElseErr_eq_ok, expect_eq_ok, pure_eq_ok] at run
  obtain ⟨a, found, effect, confirmed, intent, _, artifact, _, released, release, _, _, same⟩ := run
  obtain ⟨stopped, unknown, file, recorded, pending⟩ := confirmObserved_ok confirmed
  subst same
  unfold releaseReconciled at release
  split at release
  · cases release
    refine hostChanges_edited found (.observed stopped unknown file recorded pending) ?_ ?_
    · apply sameFacts_published
      exact ⟨rfl, rfl, rfl, rfl, rfl, rfl, rfl, rfl⟩
    · rw [publish_seq]
      rfl
  · rename_i settled
    rw [Bool.not_eq_true] at settled
    simp only [bind_eq_ok, expect_eq_ok] at release
    obtain ⟨work, owner, rest⟩ := release
    have edit : HostAssignmentEdit snapshot request.assignmentId a _ :=
      .released stopped unknown file recorded settled owner pending
    have moved : HostChanges snapshot ({ snapshot with seq := snapshot.seq + 1 }.putAssignment
        request.assignmentId { bump { a with
          effects := a.effects.insert request.effectId (observedEffect effect) }
            (snapshot.seq + 1) with state := releasedState work }) :=
      hostChanges_edited found edit ⟨rfl, rfl, rfl, rfl, rfl, rfl, rfl, rfl⟩ rfl
    split at rest
    · rename_i active
      cases rest
      have retried : HostTicketEdit snapshot a.workId work (retriedWork (snapshot.seq + 1) work) :=
        .retried rfl active
      exact hostChanges_same (hostChanges_putTicket moved rfl owner retried)
        (sameFacts_published ⟨rfl, rfl, rfl, rfl, rfl, rfl, rfl, rfl⟩) (publish_seq _)
    · cases rest
      exact hostChanges_same moved
        (sameFacts_published ⟨rfl, rfl, rfl, rfl, rfl, rfl, rfl, rfl⟩) (publish_seq _)

theorem reconcileFileEffect_ok {commit : String}
    (run : reconcileFileEffect codec files health offline commit snapshot authority request =
      .ok (some next)) : reconcileEffect codec files snapshot authority request = .ok next := by
  simp only [reconcileFileEffect, bind_eq_ok] at run
  obtain ⟨_, _, _, _, _, _, _, _, _, _, rest⟩ := run
  split at rest
  · simp only [bind_eq_ok, pure_eq_ok] at rest
    obtain ⟨_, _, absurd⟩ := rest
    cases absurd
  · simp only [bind_eq_ok, pure_eq_ok, some.injEq] at rest
    obtain ⟨_, _, _, _, made, reconciled, same⟩ := rest
    subst same
    exact reconciled

theorem activateMigratedCopy_changes
    (run : activateMigratedCopy codec snapshot authority request retiredCommit = .ok next) :
    HostChanges snapshot next := by
  simp only [activateMigratedCopy, bind_eq_ok, orElseErr_eq_ok, pure_eq_ok, checkedAdd,
    ite_none_right_eq_some, some.injEq] at run
  obtain ⟨_, _, _, _, copied, _, _, _, _, _, _, _, seq, ⟨_, first⟩, epoch, ⟨_, second⟩, _, _,
    same⟩ := run
  subst first
  subst second
  subst same
  have expired : Evolves (HostRequestChange snapshot) (fun _ _ => False) snapshot.requests
      (snapshot.requests.mapValues (expire (snapshot.seq + 1))) :=
    evolves_mapValues (fun _ _ _ => .inr rfl)
  have middle : HostChanges snapshot { snapshot with
      seq := snapshot.seq + 1
      authorityEpoch := snapshot.authorityEpoch + 1
      requests := snapshot.requests.mapValues (expire (snapshot.seq + 1)) } :=
    ⟨rfl, rfl, Nat.le_succ _, evolves_same (fun _ _ => .still),
      evolves_same (hostAssignment_still snapshot), expired, rfl⟩
  exact hostChanges_same middle (sameFacts_published ⟨rfl, rfl, rfl, rfl, rfl, rfl, rfl, rfl⟩)
    (publish_seq _)

theorem publishes_operated
    (step : Publishes codec (.operated files authority operations) snapshot next) :
    ∃ after ids, Operated codec files authority operations snapshot next after ids := by
  cases step with
  | executed fresh run =>
    obtain ⟨_, _, _, _, after, ids, operated, same⟩ := execute_ok run
    obtain ⟨applied, valid⟩ := operate_ok operated
    subst same
    exact ⟨after, ids, fresh, applied, valid,
      sameFacts_published ⟨rfl, rfl, rfl, rfl, rfl, rfl, rfl, rfl⟩, publish_seq _⟩
  | settled _ fresh run _ =>
    obtain ⟨applied, valid⟩ := operate_ok run
    exact ⟨_, _, fresh, applied, valid,
      sameFacts_published ⟨rfl, rfl, rfl, rfl, rfl, rfl, rfl, rfl⟩, publish_seq _⟩

theorem publishes_cases (step : Publishes codec p snapshot next) :
    (∃ files authority operations after ids, p = .operated files authority operations ∧
      Operated codec files authority operations snapshot next after ids) ∨
    HostChanges snapshot next := by
  cases step with
  | executed fresh run =>
    obtain ⟨after, ids, operated⟩ := publishes_operated (.executed fresh run)
    exact .inl ⟨_, _, _, after, ids, rfl, operated⟩
  | settled user fresh run valid =>
    obtain ⟨after, ids, operated⟩ := publishes_operated (.settled user fresh run valid)
    exact .inl ⟨_, _, _, after, ids, rfl, operated⟩
  | restarted run =>
    obtain ⟨_, same⟩ := fromStore_ok run
    subst same
    exact .inr (hostChanges_same (restarted_changes snapshot (Nat.le_succ _))
      (publish_same _) (publish_seq _))
  | fileStarted run => exact .inr (startFileWrite_changes run)
  | fileFinished started run => exact .inr (finishFileWrite_changes started run)
  | fileReconciled run => exact .inr (reconcileEffect_changes (reconcileFileEffect_ok run))
  | activated run => exact .inr (activateMigratedCopy_changes run)
  | recorded same seq _ => exact .inr (hostChanges_recorded same seq)

def HostPublication : Publication → Prop
  | .operated _ _ _ => False
  | _ => True

theorem publishes_hosted (host : HostPublication p) (step : Publishes codec p snapshot next) :
    HostChanges snapshot next := by
  rcases publishes_cases step with ⟨_, _, _, _, _, same, _⟩ | change
  · subst same
    exact host.elim
  · exact change

/- The rule of invariants. -/

/-- A property that every step of a run keeps in the snapshots where `base` holds. -/
structure Kept (codec : Codec) (base holds : Snapshot → Prop) : Prop where
  same : ∀ {snapshot next}, SameFacts snapshot next → holds snapshot → holds next
  applied : ∀ {files authority ids after uuid operation snapshot next}, base snapshot →
    holds snapshot → Fresh snapshot [uuid] →
    apply codec files snapshot authority uuid operation ids = .ok (next, after) → holds next
  hosted : ∀ {snapshot next}, base snapshot → holds snapshot → HostChanges snapshot next →
    holds next

/-- One operation of a batch, between the snapshot it found and the one it left. -/
structure Position (codec : Codec) (files : Files) (authority : Authority) (snapshot : Snapshot)
    (operations : List (Operation × String)) (operation : Operation) (uuid : String)
    (mid next : Snapshot) (ids after : Ids) : Prop where
  split : ∃ before rest, operations = before ++ (operation, uuid) :: rest ∧
    applyOperations codec files { snapshot with seq := snapshot.seq + 1 } authority before =
      .ok (mid, ids)
  run : applyOperation codec files authority (mid, ids) (operation, uuid) = .ok (next, after)

/-- The snapshots of the runs that go on from one, those inside accepted batches included. -/
inductive Seen (codec : Codec) (snapshot : Snapshot) : Snapshot → Prop where
  | published (run : Leads codec snapshot next) : Seen codec snapshot next
  | within (run : Leads codec snapshot middle)
      (step : Publishes codec (.operated files authority operations) middle next)
      (position : Position codec files authority middle operations operation uuid mid later ids
        after) : Seen codec snapshot mid

theorem applyOperation_ok
    (run : applyOperation codec files authority (mid, ids) (operation, uuid) = .ok (next, after)) :
    apply codec files mid authority uuid operation ids = .ok (next, after) := by
  simp only [applyOperation, bind_eq_ok] at run
  obtain ⟨_, _, applied⟩ := run
  exact applied

theorem absent_next {made : ν → Prop} (change : Evolves edit (fun id v => id = uuid ∧ made v) m m')
    {id : String} (absent : m.lookup id = none) (other : id ≠ uuid) : m'.lookup id = none := by
  cases present : m'.lookup id with
  | none => rfl
  | some v =>
    rcases change.origin id v present with ⟨u, before, _⟩ | ⟨same, _⟩
    · rw [absent] at before
      cases before
    · exact absurd same other

theorem forward_fresh {made : ν → Prop}
    (change : Evolves edit (fun id v => id = uuid ∧ made v) m m') (absent : m.lookup uuid = none)
    {id : String} (found : m.lookup id = some v) : ∃ v', m'.lookup id = some v' ∧ edit id v v' := by
  apply evolves_forward change found
  intro v' new
  rw [new.1, absent] at found
  cases found

theorem fresh_next (fresh : Fresh snapshot (uuid :: rest))
    (change : Changes codec files authority ids uuid operation snapshot next) :
    Fresh next rest := by
  have distinct := List.nodup_cons.1 fresh.distinct
  have other : ∀ id ∈ rest, id ≠ uuid := fun id member same => distinct.1 (same ▸ member)
  refine ⟨distinct.2, ?_, ?_, ?_, ?_⟩
  · intro id member
    exact absent_next change.tickets (fresh.tickets id (List.mem_cons_of_mem _ member))
      (other id member)
  · intro id member
    exact absent_next change.assignments (fresh.assignments id (List.mem_cons_of_mem _ member))
      (other id member)
  · intro id member
    exact absent_next change.requests (fresh.requests id (List.mem_cons_of_mem _ member))
      (other id member)
  · intro id member
    exact absent_next change.submissions (fresh.submissions id (List.mem_cons_of_mem _ member))
      (other id member)

theorem fresh_head (fresh : Fresh snapshot (uuid :: rest)) : Fresh snapshot [uuid] := by
  have first : ∀ {P : String → Prop}, (∀ id ∈ uuid :: rest, P id) → ∀ id ∈ [uuid], P id := by
    intro P all id member
    rw [List.mem_singleton] at member
    exact all id (by simp [member])
  exact ⟨List.nodup_singleton uuid, first fresh.tickets, first fresh.assignments,
    first fresh.requests, first fresh.submissions⟩

theorem applyOperations_kept {P : Snapshot → Prop}
    (one : ∀ {ids after uuid operation snapshot next}, (operation, uuid) ∈ operations →
      P snapshot → Fresh snapshot [uuid] →
      apply codec files snapshot authority uuid operation ids = .ok (next, after) → P next)
    (here : P snapshot) (fresh : Fresh snapshot ((operations ++ rest).map Prod.snd))
    (run : applyOperations codec files snapshot authority operations = .ok (next, ids)) :
    P next ∧ Fresh next (rest.map Prod.snd) := by
  let Kept := fun (remaining : List (Operation × String)) (state : Snapshot × Ids) =>
    P state.1 ∧ Fresh state.1 ((remaining ++ rest).map Prod.snd)
  have begins : Kept operations (snapshot, SortedMap.empty) := ⟨here, fresh⟩
  have ends : Kept [] (next, ids) := by
    refine foldlM_invariant begins ?_ run
    intro before entry remaining state after whole _ known moved
    obtain ⟨operation, uuid⟩ := entry
    have applied := applyOperation_ok moved
    have member : (operation, uuid) ∈ operations := by simp [whole]
    exact ⟨one member known.1 (fresh_head known.2) applied,
      fresh_next known.2 (apply_changes applied)⟩
  exact ends

theorem begun_same (snapshot : Snapshot) :
    SameFacts snapshot { snapshot with seq := snapshot.seq + 1 } :=
  ⟨rfl, rfl, rfl, rfl, rfl, rfl, rfl, rfl⟩

theorem fresh_begun (fresh : Fresh snapshot uuids) :
    Fresh { snapshot with seq := snapshot.seq + 1 } uuids :=
  ⟨fresh.distinct, fresh.tickets, fresh.assignments, fresh.requests, fresh.submissions⟩

theorem operated_applied {P : Snapshot → Prop}
    (operated : Operated codec files authority operations snapshot next after ids)
    (one : ∀ {ids after uuid operation snapshot next}, (operation, uuid) ∈ operations →
      P snapshot → Fresh snapshot [uuid] →
      apply codec files snapshot authority uuid operation ids = .ok (next, after) → P next)
    (here : P { snapshot with seq := snapshot.seq + 1 }) : P after := by
  have fresh : Fresh { snapshot with seq := snapshot.seq + 1 }
      ((operations ++ []).map Prod.snd) := by
    rw [List.append_nil]
    exact fresh_begun operated.fresh
  exact (applyOperations_kept one here fresh operated.applied).1

theorem kept_both (first : Kept codec (fun _ => True) base) (second : Kept codec base holds) :
    Kept codec (fun _ => True) (fun s => base s ∧ holds s) where
  same := fun facts here => ⟨first.same facts here.1, second.same facts here.2⟩
  applied := fun _ here fresh run =>
    ⟨first.applied trivial here.1 fresh run, second.applied here.1 here.2 fresh run⟩
  hosted := fun _ here change =>
    ⟨first.hosted trivial here.1 change, second.hosted here.1 here.2 change⟩

section Runs
variable (kept : Kept codec (fun _ => True) holds)
include kept

theorem operated_kept (here : holds snapshot)
    (operated : Operated codec files authority operations snapshot next after ids) :
    holds next := by
  have start := kept.same (begun_same snapshot) here
  have ended := operated_applied operated
    (fun _ known new run => kept.applied trivial known new run) start
  exact kept.same operated.same ended

theorem publishes_kept (here : holds snapshot) (step : Publishes codec p snapshot next) :
    holds next := by
  rcases publishes_cases step with ⟨_, _, _, _, _, _, operated⟩ | change
  · exact operated_kept kept here operated
  · exact kept.hosted trivial here change

theorem leads_kept (here : holds snapshot) (run : Leads codec snapshot next) : holds next := by
  induction run with
  | refl => exact here
  | tail _ step known =>
    obtain ⟨p, published⟩ := step
    exact publishes_kept kept known published

theorem reachable_kept (empty : ∀ binding, holds (Snapshot.empty binding))
    (reached : Reachable codec snapshot) : holds snapshot := by
  obtain ⟨binding, run⟩ := reached
  exact leads_kept kept (empty binding) run

theorem position_kept (here : holds snapshot)
    (fresh : Fresh snapshot (operations.map Prod.snd))
    (position : Position codec files authority snapshot operations operation uuid mid next ids
      after) : holds mid ∧ Fresh mid [uuid] := by
  obtain ⟨before, rest, whole, sofar⟩ := position.split
  have start := kept.same (begun_same snapshot) here
  rw [whole] at fresh
  have ended := applyOperations_kept (P := holds) (fun _ known new run =>
    kept.applied trivial known new run) start (fresh_begun fresh) sofar
  exact ⟨ended.1, fresh_head ended.2⟩

theorem seen_kept (here : holds snapshot) (seen : Seen codec snapshot next) : holds next := by
  cases seen with
  | published run => exact leads_kept kept here run
  | within run step position =>
    obtain ⟨_, _, operated⟩ := publishes_operated step
    exact (position_kept kept (leads_kept kept here run) operated.fresh position).1

end Runs

theorem operated_seq
    (operated : Operated codec files authority operations snapshot next after ids) :
    next.seq = snapshot.seq + 1 ∧ next.authorityEpoch = snapshot.authorityEpoch := by
  have ended := operated_applied
    (P := fun s => s.seq = snapshot.seq + 1 ∧ s.authorityEpoch = snapshot.authorityEpoch) operated
    (fun _ here _ run => ⟨(apply_changes run).seq.trans here.1,
      (apply_changes run).authorityEpoch.trans here.2⟩) ⟨rfl, rfl⟩
  exact ⟨operated.seq.trans ended.1, operated.same.authorityEpoch.trans ended.2⟩

theorem publishes_seq (step : Publishes codec p snapshot next) : next.seq = snapshot.seq + 1 := by
  rcases publishes_cases step with ⟨_, _, _, _, _, _, operated⟩ | change
  · exact (operated_seq operated).1
  · exact change.seq

theorem single_position
    (operated : Operated codec files authority [(operation, uuid)] snapshot next after ids) :
    Position codec files authority snapshot [(operation, uuid)] operation uuid
      { snapshot with seq := snapshot.seq + 1 } after SortedMap.empty ids where
  split := ⟨[], [], rfl, rfl⟩
  run := foldlM_single.1 operated.applied

end Tickets
