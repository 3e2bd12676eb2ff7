import BambooAgent.Tickets.Scripts

/- What a writer restart takes away for good: the permission of every assignment and every
   approval that existed before it. -/
namespace Tickets
open SortedMaps Evolutions

/-- No assignment is ahead of the scope. -/
def EpochBounded (snapshot : Snapshot) : Prop :=
  ∀ key a, snapshot.assignments.lookup key = some a → a.authorityEpoch ≤ snapshot.authorityEpoch

/-- Without a permission since `epoch`: of an older epoch, or known to have stopped. -/
def Fenced (epoch : Nat) (a : Assignment) : Prop :=
  a.authorityEpoch < epoch ∨ a.processStopped = true

/-- A request that can be neither decided nor consumed any more, and was not consumed. -/
def Closed (r : PendingRequest) : Prop :=
  r.status ≠ .opened ∧ r.status ≠ .approved ∧ r.status ≠ .consumed

section Edits
variable {id : String}

theorem edit_epoch (edit : AssignmentEdit snapshot authority operation id a b) :
    b.authorityEpoch = a.authorityEpoch ∨
      (b.authorityEpoch = snapshot.authorityEpoch ∧ b.processStopped = true) := by
  cases edit with
  | stopping _ change =>
    left
    rcases change with same | ⟨_, _, same⟩
    · rw [same]
    · rw [same]
  | reconciled _ stopped => exact .inr ⟨rfl, stopped⟩
  | admitted _ _ _ _ => exact .inl rfl
  | running _ _ _ => exact .inl rfl
  | planned _ _ => exact .inl rfl
  | yielded _ _ => exact .inl rfl
  | consumed _ _ => exact .inl rfl
  | recorded _ _ _ _ _ => exact .inl rfl
  | submitted _ _ => exact .inl rfl
  | confirmed _ _ => exact .inl rfl
  | stopped _ => exact .inl rfl
  | unknown _ => exact .inl rfl

theorem edit_stopped (edit : AssignmentEdit snapshot authority operation id a b)
    (before : a.processStopped = true) : b.processStopped = true := by
  cases edit with
  | stopping _ change =>
    rcases change with same | ⟨_, _, same⟩
    · rw [same]
      exact before
    · rw [same]
      exact before
  | confirmed _ _ => rfl
  | stopped _ => rfl
  | admitted _ _ _ _ => exact before
  | running _ _ _ => exact before
  | planned _ _ => exact before
  | yielded _ _ => exact before
  | consumed _ _ => exact before
  | recorded _ _ _ _ _ => exact before
  | submitted _ _ => exact before
  | reconciled _ _ => exact before
  | unknown _ => exact before

theorem change_fenced (fenced : Fenced epoch a)
    (change : AssignmentChange snapshot authority operation id a b) : Fenced epoch b := by
  rcases change with same | edit
  · exact same ▸ fenced
  · rcases fenced with old | stopped
    · rcases edit_epoch edit with same | ⟨_, stopped⟩
      · exact .inl (by omega)
      · exact .inr stopped
    · exact .inr (edit_stopped edit stopped)

theorem hostChange_fenced {epoch : Nat} (fenced : Fenced epoch a)
    (change : HostAssignmentChange snapshot id a b) : Fenced epoch b := by
  have kept := hostChange_kept change
  rcases fenced with old | stopped
  · exact .inl (lt_of_eq_of_lt (congrArg Assignment.authorityEpoch kept) old)
  · exact .inr ((congrArg Assignment.processStopped kept).trans stopped)

theorem superseded_closed (closed : Closed r) : superseded seq r = r := by
  unfold superseded
  split
  · rename_i live
    rcases live with opened | approved
    · exact absurd opened closed.1
    · exact absurd approved closed.2.1
  · rfl

theorem expire_closed (closed : Closed r) : expire seq r = r := by
  unfold expire
  split
  · rfl
  · split
    · rename_i live
      rcases live with opened | approved
      · exact absurd opened closed.1
      · exact absurd approved closed.2.1
    · rfl

theorem change_closed (closed : Closed r)
    (change : RequestChange snapshot authority operation id r q) : Closed q := by
  rcases change with same | edit
  · exact same ▸ closed
  · cases edit with
    | superseded _ =>
      rw [superseded_closed closed]
      exact closed
    | answered _ opened _ => exact absurd opened closed.1
    | noted opened => exact absurd opened closed.1
    | decided _ opened _ => exact absurd opened closed.1
    | consumed used => exact absurd used.approved closed.2.1

theorem hostChange_closed (closed : Closed r) (change : HostRequestChange snapshot id r q) :
    Closed q := by
  rcases change with same | same
  · exact same ▸ closed
  · rw [same, expire_closed closed]
    exact closed

theorem expire_approval (kind : r.kind = .approval action fingerprint)
    (unused : r.status ≠ .consumed) : Closed (expire seq r) := by
  unfold expire
  rw [kind]
  simp only
  split
  · exact ⟨by simp, by simp, by simp⟩
  · rename_i overrun
    rw [not_or] at overrun
    exact ⟨overrun.1, overrun.2, unused⟩

end Edits

/-- The records of before a restart, as they are afterwards. -/
structure FencedOff (epoch : Nat) (runs approvals : String → Prop) (snapshot : Snapshot) :
    Prop where
  since : epoch ≤ snapshot.authorityEpoch
  fenced : ∀ id, runs id → ∃ a, snapshot.assignments.lookup id = some a ∧ Fenced epoch a
  closed : ∀ id, approvals id → ∃ r, snapshot.requests.lookup id = some r ∧ Closed r

theorem bounded_empty (binding : ScopeBinding) : EpochBounded (Snapshot.empty binding) := by
  intro key a found
  cases found

theorem bounded_kept : Kept codec (fun _ => True) EpochBounded where
  same := by
    intro snapshot next facts bounded key a found
    rw [facts.assignments] at found
    rw [facts.authorityEpoch]
    exact bounded key a found
  applied := by
    intro files authority ids after uuid operation snapshot next _ bounded _ run
    have change := apply_changes run
    refine evolves_forall change.assignments bounded ?_ ?_
    · intro key a b _ known edit
      rw [change.authorityEpoch]
      rcases edit with same | edit
      · exact same ▸ known
      · rcases edit_epoch edit with same | ⟨same, _⟩ <;> omega
    · intro key b new
      rw [change.authorityEpoch]
      cases new.2 with
      | started _ _ => exact le_refl _
  hosted := by
    intro snapshot next _ bounded change
    refine evolves_forall change.assignments bounded ?_ (fun _ _ impossible => impossible.elim)
    intro key a b _ known edit
    have later := change.authorityEpoch
    have same := congrArg Assignment.authorityEpoch (hostChange_kept edit)
    dsimp only at same
    omega

theorem fencedOff_kept (epoch : Nat) (runs approvals : String → Prop) :
    Kept codec (fun _ => True) (FencedOff epoch runs approvals) where
  same := by
    intro snapshot next facts off
    refine ⟨?_, ?_, ?_⟩
    · rw [facts.authorityEpoch]
      exact off.since
    · rw [facts.assignments]
      exact off.fenced
    · rw [facts.requests]
      exact off.closed
  applied := by
    intro files authority ids after uuid operation snapshot next _ off fresh run
    have change := apply_changes run
    refine ⟨?_, ?_, ?_⟩
    · rw [change.authorityEpoch]
      exact off.since
    · intro id old
      obtain ⟨a, found, fenced⟩ := off.fenced id old
      obtain ⟨b, present, edit⟩ := forward_fresh change.assignments
        (fresh.assignments uuid (by simp)) found
      exact ⟨b, present, change_fenced fenced edit⟩
    · intro id old
      obtain ⟨r, found, closed⟩ := off.closed id old
      obtain ⟨q, present, edit⟩ := forward_fresh change.requests
        (fresh.requests uuid (by simp)) found
      exact ⟨q, present, change_closed closed edit⟩
  hosted := by
    intro snapshot next _ off change
    refine ⟨le_trans off.since change.authorityEpoch, ?_, ?_⟩
    · intro id old
      obtain ⟨a, found, fenced⟩ := off.fenced id old
      obtain ⟨b, present, edit⟩ := evolves_forward change.assignments found (fun _ none => none)
      exact ⟨b, present, hostChange_fenced fenced edit⟩
    · intro id old
      obtain ⟨r, found, closed⟩ := off.closed id old
      obtain ⟨q, present, edit⟩ := evolves_forward change.requests found (fun _ none => none)
      exact ⟨q, present, hostChange_closed closed edit⟩

/-- An approval that a restart finds unconsumed. -/
def UnusedApproval (snapshot : Snapshot) (id : String) : Prop :=
  ∃ r action fingerprint, snapshot.requests.lookup id = some r ∧
    r.kind = .approval action fingerprint ∧ r.status ≠ .consumed

theorem restarted_fencedOff (reached : Reachable codec snapshot)
    (restart : Publishes codec .restarted snapshot next) :
    FencedOff next.authorityEpoch (fun id => ∃ a, snapshot.assignments.lookup id = some a)
      (UnusedApproval snapshot) next := by
  have bounded := reachable_kept bounded_kept bounded_empty reached
  cases restart with
  | restarted run =>
    obtain ⟨_, same⟩ := fromStore_ok run
    have facts : SameFacts (restarted snapshot (snapshot.authorityEpoch + 1)) next := by
      rw [same]
      exact publish_same _
    refine ⟨le_refl _, ?_, ?_⟩
    · intro id ⟨a, found⟩
      have present : next.assignments.lookup id = some (isolate (snapshot.seq + 1) a) := by
        rw [facts.assignments]
        simp [restarted, found]
      have old := bounded id a found
      have epoch : next.authorityEpoch = snapshot.authorityEpoch + 1 := facts.authorityEpoch
      have kept : (isolate (snapshot.seq + 1) a).authorityEpoch = a.authorityEpoch := by
        unfold isolate
        split <;> rfl
      exact ⟨_, present, .inl (by omega)⟩
    · intro id ⟨r, action, fingerprint, found, kind, unused⟩
      have present : next.requests.lookup id = some (expire (snapshot.seq + 1) r) := by
        rw [facts.requests]
        simp [restarted, found]
      exact ⟨_, present, expire_approval kind unused⟩

theorem fenced_no_permit (fenced : Fenced epoch a) (later : epoch ≤ snapshot.authorityEpoch) :
    activePermit snapshot a ≠ .ok () := by
  intro permit
  obtain ⟨⟨work, current⟩, running⟩ := activePermit_ok.1 permit
  rcases fenced with old | stopped
  · have same := current.epoch
    omega
  · rw [stopped] at running
    cases running

/-- In every snapshot seen after a restart, the assignments of before it have no permit and
    the approvals of before it are not consumed. -/
theorem restart_fences {later : Snapshot} (reached : Reachable codec snapshot)
    (restart : Publishes codec .restarted snapshot next) (seen : Seen codec next later) :
    (∀ id a, snapshot.assignments.lookup id = some a →
      ∃ b, later.assignments.lookup id = some b ∧ activePermit later b ≠ .ok ()) ∧
    (∀ id, UnusedApproval snapshot id →
      ∃ q, later.requests.lookup id = some q ∧ q.status ≠ .consumed) := by
  have off := seen_kept (fencedOff_kept _ _ _) (restarted_fencedOff reached restart) seen
  constructor
  · intro id a found
    obtain ⟨b, present, fenced⟩ := off.fenced id ⟨a, found⟩
    exact ⟨b, present, fenced_no_permit fenced off.since⟩
  · intro id unused
    obtain ⟨q, present, closed⟩ := off.closed id unused
    exact ⟨q, present, closed.2.2⟩

theorem restart_fences_approvedRun :
    ∃ next a b q, (Sample.reached Sample.approvedRun).assignments.lookup "a2" = some a ∧
      activePermit (Sample.reached Sample.approvedRun) a = .ok () ∧
      Publishes Sample.codec .restarted (Sample.reached Sample.approvedRun) next ∧
      next.assignments.lookup "a2" = some b ∧ activePermit next b ≠ .ok () ∧
      next.requests.lookup "c0" = some q ∧ q.status ≠ .consumed := by
  have permitted : ((Sample.reached Sample.approvedRun).assignments.lookup "a2").any
      (fun a => activePermit (Sample.reached Sample.approvedRun) a = .ok ()) = true := by decide
  have approved : ((Sample.reached Sample.approvedRun).requests.lookup "c0").any
      (fun r => r.status = .approved && r.kind ≠ .question) = true := by decide
  have restarts : (play Sample.codec Sample.files (Sample.reached Sample.approvedRun)
      .restart).isSome = true := by decide
  rw [Option.any_eq_true] at permitted approved
  obtain ⟨a, found, permit⟩ := permitted
  obtain ⟨r, asked, status⟩ := approved
  obtain ⟨next, played⟩ := Option.isSome_iff_exists.mp restarts
  have fences := restart_fences (Sample.reached_reachable _) (play_restart played)
    (.published .refl)
  obtain ⟨b, present, fenced⟩ := fences.1 "a2" a found
  have unused : UnusedApproval (Sample.reached Sample.approvedRun) "c0" := by
    cases kind : r.kind with
    | question => simp [kind] at status
    | approval action fingerprint =>
      refine ⟨r, action, fingerprint, asked, kind, ?_⟩
      simp only [kind, Bool.and_eq_true, decide_eq_true_eq] at status
      simp [status.1]
  obtain ⟨q, there, unconsumed⟩ := fences.2 "c0" unused
  exact ⟨next, a, b, q, found, of_decide_eq_true permit, play_restart played, present, fenced,
    there, unconsumed⟩

end Tickets
