import BambooAgent.Tickets.Scripts

/- How long a cancellation lasts. Every operation but Reopen leaves a Cancelled Ticket
   Cancelled, and so does every restart and file report, except for an edit of its contract. -/
namespace Tickets
open SortedMaps Evolutions

/-- A Cancelled Ticket is not paused as well. -/
def CancelledRuns (snapshot : Snapshot) : Prop :=
  ∀ id w, snapshot.tickets.lookup id = some w → w.state = .cancelled → w.paused = false

/-- Does the operation give the Ticket `id` another contract? -/
def EditsContract (ids : Ids) (operation : Operation) (id : String) (w : Ticket) : Prop :=
  ∃ named contract, operation = .updateContract named contract ∧ resolve named ids = id ∧
    w.contract ≠ contract

section Edits
variable {id : String}

theorem stoppedWork_cancelled (state : w.state = .cancelled)
    (outcome : stoppedWork effectsUnknown true waiting unanswered completed a w = some after) :
    after.state = .cancelled ∧ after.paused = w.paused := by
  unfold stoppedWork at outcome
  split at outcome
  · rename_i waits
    cases waits.2.2.1
  · split at outcome
    · cases outcome
      exact ⟨state, rfl⟩
    · split at outcome
      · cases outcome
        exact ⟨state, rfl⟩
      · cases outcome

theorem edit_cancelled (runs : CancelledRuns snapshot)
    (found : snapshot.tickets.lookup id = some w) (state : w.state = .cancelled)
    (edit : TicketEdit snapshot authority ids uuid operation id w v)
    (closed : operation ≠ .reopen id) (same : ¬ EditsContract ids operation id w) :
    v.state = .cancelled ∧ v.paused = false := by
  have unpaused := runs id w found state
  cases edit with
  | described _ => exact ⟨state, unpaused⟩
  | readied allowed =>
    rcases allowed with draft | ⟨paused, _⟩
    · simp [state] at draft
    · simp [unpaused] at paused
  | edited changed _ => exact absurd ⟨_, _, rfl, rfl, changed⟩ same
  | rewired _ early => simp [state] at early
  | started admitted => simp [admitted.ready] at state
  | resumed blocked _ _ => simp [state] at blocked
  | yielded report permit =>
    have current := (activePermit_ok.1 permit).1
    have active := permit_active (currentAttempt_ok.2 current) report.owner found
    simp [state] at active
  | submitted report current _ =>
    have active := permit_active current report.owner found
    simp [state] at active
  | accepted _ exact' => simp [exact'.submitted] at state
  | goalAccepted _ _ alive _ => exact absurd state alive
  | rejected submitted => simp [submitted] at state
  | cancelled => exact ⟨rfl, rfl⟩
  | paused _ unfinished => simp [state] at unfinished
  | released _ _ =>
    unfold releasedWork
    split
    · rename_i blocked
      simp [state] at blocked
    · exact ⟨state, unpaused⟩
  | stopped _ _ outcome =>
    rw [decide_eq_true state] at outcome
    obtain ⟨cancelled, paused⟩ := stoppedWork_cancelled state outcome
    exact ⟨cancelled, paused.trans unpaused⟩
  | reconciled _ _ _ _ _ alive => exact absurd state alive
  | unknown _ alive => exact absurd state alive
  | reopened _ => exact absurd rfl closed

theorem revised_cancelled (state : w.state = .cancelled) (revised : Revised seq w v) : v = w := by
  have revokes : revoked seq w = w := by
    unfold revoked
    rw [if_pos state]
  have reviews : reviewed seq w = w := by
    unfold reviewed
    rw [if_neg (by simp [state])]
  rcases revised with same | same | same | same
  · exact same
  · rw [same, revokes]
  · rw [same, reviews]
  · rw [same, revokes, reviews]

theorem stoppedWork_uncancelled (state : w.state ≠ .cancelled)
    (outcome : stoppedWork effectsUnknown false waiting unanswered completed a w = some after) :
    after.state ≠ .cancelled := by
  unfold stoppedWork at outcome
  split at outcome
  · split at outcome
    · cases outcome
      simp
    · cases outcome
      exact state
  · split at outcome
    · cases outcome
      exact state
    · split at outcome
      · cases outcome
        simp [stoppedWithout]
      · cases outcome

theorem edit_runs (before : w.state = .cancelled → w.paused = false)
    (edit : TicketEdit snapshot authority ids uuid operation id w v)
    (after : v.state = .cancelled) : v.paused = false := by
  cases edit with
  | described _ => exact before after
  | edited _ _ =>
    unfold contractEdited touch at after
    split at after <;> cases after
  | rewired _ _ => exact before after
  | accepted _ _ => cases after
  | cancelled => rfl
  | released _ _ =>
    unfold releasedWork touch at after
    unfold releasedWork touch
    split at after
    · cases after
    · rename_i stays
      rw [if_neg stays]
      exact before after
  | stopped _ _ outcome =>
    by_cases state : w.state = .cancelled
    · rw [decide_eq_true state] at outcome
      obtain ⟨_, paused⟩ := stoppedWork_cancelled state outcome
      exact paused.trans (before state)
    · rw [decide_eq_false state] at outcome
      have alive := stoppedWork_uncancelled state outcome
      exact absurd after alive
  | readied _ => cases after
  | started _ => cases after
  | resumed _ _ _ => cases after
  | yielded _ _ => cases after
  | submitted _ _ _ => cases after
  | goalAccepted _ _ _ _ => cases after
  | rejected _ => cases after
  | paused _ _ => cases after
  | reconciled _ _ _ _ _ _ => cases after
  | unknown _ _ => cases after
  | reopened _ => cases after

theorem revised_alive (alive : w.state ≠ .cancelled) (revised : Revised seq w v) :
    v.state ≠ .cancelled := by
  have revokes : (revoked seq w).state ≠ .cancelled := by
    unfold revoked touch
    rw [if_neg alive]
    simp
  have reviews : ∀ u : Ticket, u.state ≠ .cancelled → (reviewed seq u).state ≠ .cancelled := by
    intro u live
    unfold reviewed touch
    split
    · simp
    · exact live
  rcases revised with same | same | same | same
  · exact same ▸ alive
  · exact same ▸ revokes
  · exact same ▸ reviews w alive
  · exact same ▸ reviews _ revokes

theorem revised_runs (before : w.state = .cancelled → w.paused = false) (revised : Revised seq w v)
    (after : v.state = .cancelled) : v.paused = false := by
  by_cases state : w.state = .cancelled
  · rw [revised_cancelled state revised]
    exact before state
  · exact absurd after (revised_alive state revised)

theorem hostEdit_cancelled (state : w.state = .cancelled) (edit : HostTicketEdit snapshot id w v) :
    v.state = .cancelled ∧ v.paused = w.paused := by
  cases edit with
  | still => exact ⟨state, rfl⟩
  | awaiting active => simp [state] at active
  | retried _ _ =>
    unfold retriedWork
    rw [if_pos state]
    exact ⟨state, rfl⟩

theorem hostEdit_runs (before : w.state = .cancelled → w.paused = false)
    (edit : HostTicketEdit snapshot id w v) (after : v.state = .cancelled) : v.paused = false := by
  by_cases state : w.state = .cancelled
  · exact (hostEdit_cancelled state edit).2.trans (before state)
  · cases edit with
    | still => exact before after
    | awaiting _ => cases after
    | retried _ _ =>
      unfold retriedWork touch at after
      rw [if_neg state] at after
      cases after

end Edits

section Steps
variable {id : String}

theorem runs_empty (binding : ScopeBinding) : CancelledRuns (Snapshot.empty binding) := by
  intro id w found
  cases found

theorem runs_kept : Kept codec (fun _ => True) CancelledRuns where
  same := by
    intro snapshot next facts runs
    unfold CancelledRuns
    rw [facts.tickets]
    exact runs
  applied := by
    intro files authority ids after uuid operation snapshot next _ runs _ run
    refine evolves_forall (apply_changes run).tickets runs ?_ ?_
    · intro id w v _ known ⟨u, edit, last⟩
      have middle : u.state = .cancelled → u.paused = false := by
        rcases edit with same | edit
        · exact same ▸ known
        · exact edit_runs known edit
      rcases last with same | ⟨_, revised⟩
      · exact same ▸ middle
      · exact revised_runs middle revised
    · intro id v new state
      cases new.2 with
      | created _ _ => cases state
      | imported _ => cases state
  hosted := by
    intro snapshot next _ runs change
    exact evolves_forall change.tickets runs (fun _ _ _ _ known edit => hostEdit_runs known edit)
      (fun _ _ impossible => impossible.elim)

theorem apply_cancelled (runs : CancelledRuns snapshot) (fresh : Fresh snapshot [uuid])
    (found : snapshot.tickets.lookup id = some w) (state : w.state = .cancelled)
    (closed : operation ≠ .reopen id) (same : ¬ EditsContract ids operation id w)
    (run : apply codec files snapshot authority uuid operation ids = .ok (next, after)) :
    ∃ v, next.tickets.lookup id = some v ∧ v.state = .cancelled := by
  obtain ⟨v, present, u, edit, last⟩ := forward_fresh (apply_changes run).tickets
    (fresh.tickets uuid (by simp)) found
  have middle : u.state = .cancelled := by
    rcases edit with still | edit
    · exact still ▸ state
    · exact (edit_cancelled runs found state edit closed same).1
  refine ⟨v, present, ?_⟩
  rcases last with still | ⟨_, revised⟩
  · exact still ▸ middle
  · rw [revised_cancelled middle revised]
    exact middle

theorem contractEdited_alive (contract : Contract) (old work : Ticket) :
    (contractEdited contract old work).state = .blocked ∨
      (contractEdited contract old work).state = .ready := by
  unfold contractEdited
  split
  · exact .inl rfl
  · exact .inr rfl

theorem apply_editsContract (found : snapshot.tickets.lookup id = some w)
    (edits : EditsContract ids operation id w)
    (run : apply codec files snapshot authority uuid operation ids = .ok (next, after)) :
    ∃ v, next.tickets.lookup id = some v ∧ v.state ≠ .cancelled := by
  obtain ⟨named, contract, same, target, changed⟩ := edits
  subst same
  simp only [apply, keepIds_ok, target] at run
  obtain ⟨again, present, unchanged | ⟨_, _, stopped, _, frame, revoke⟩⟩ := updateContract_ok run.1
  · rw [found] at present
    cases present
    exact absurd unchanged.1 changed
  · rw [found] at present
    cases present
    obtain ⟨affected, passed, change⟩ := revokeWork_ok revoke
    have last := change.tickets id
    simp only [Snapshot.putTicket_tickets, SortedMap.lookup_insert, if_true,
      Option.map_some] at last
    refine ⟨_, last, ?_⟩
    have alive : (touch (contractEdited contract w w) snapshot.seq).state ≠ .cancelled := by
      rcases contractEdited_alive contract w w with state | state
      · simp [touch, state]
      · simp [touch, state]
    exact revised_alive alive (revisedBy_revised stopped.seq affected passed id _)

/-- In every accepted batch an operation other than Reopen keeps a Cancelled Ticket Cancelled
    exactly when it does not edit its contract; every other publication keeps it. -/
theorem cancelled_stays_iff (reached : Reachable codec snapshot) :
    (∀ files authority operations published operation uuid mid next ids after id w,
      Publishes codec (.operated files authority operations) snapshot published →
      Position codec files authority snapshot operations operation uuid mid next ids after →
      mid.tickets.lookup id = some w → w.state = .cancelled → operation ≠ .reopen id →
      ((∃ v, next.tickets.lookup id = some v ∧ v.state = .cancelled) ↔
        ¬ EditsContract ids operation id w)) ∧
    (∀ p published id w, HostPublication p → Publishes codec p snapshot published →
      snapshot.tickets.lookup id = some w → w.state = .cancelled →
      ∃ v, published.tickets.lookup id = some v ∧ v.state = .cancelled) := by
  have runs := reachable_kept runs_kept runs_empty reached
  constructor
  · intro files authority operations published operation uuid mid next ids after id w step
      position found state closed
    obtain ⟨_, _, operated⟩ := publishes_operated step
    obtain ⟨here, fresh⟩ := position_kept runs_kept runs operated.fresh position
    have run := applyOperation_ok position.run
    constructor
    · intro ⟨v, present, cancelled⟩ edits
      obtain ⟨u, there, alive⟩ := apply_editsContract found edits run
      rw [present] at there
      cases there
      exact alive cancelled
    · intro same
      exact apply_cancelled here fresh found state closed same run
  · intro p published id w host step found state
    obtain ⟨v, present, edit⟩ :=
      evolves_forward (publishes_hosted host step).tickets found (fun _ none => none)
    exact ⟨v, present, (hostEdit_cancelled state edit).1⟩

end Steps

def Sample.cancelledWork : List Event :=
  [.command "a" Sample.supervisor [
      .create "x" .work none (Sample.contract "first") SortedSet.empty, .ready "x",
      .start "x" "run" none],
    .command "b" Sample.supervisor [.cancel "a0"]]

theorem cancelled_stays_iff_restart :
    ∃ published v, Publishes Sample.codec .restarted (Sample.reached Sample.cancelledWork) published ∧
      published.tickets.lookup "a0" = some v ∧ v.state = .cancelled := by
  have restarts : (play Sample.codec Sample.files (Sample.reached Sample.cancelledWork)
      .restart).isSome = true := by decide
  have before : ((Sample.reached Sample.cancelledWork).tickets.lookup "a0").any
      (fun w => w.state = .cancelled) = true := by decide
  obtain ⟨published, played⟩ := Option.isSome_iff_exists.mp restarts
  rw [Option.any_eq_true] at before
  obtain ⟨w, found, state⟩ := before
  have both := cancelled_stays_iff (Sample.reached_reachable Sample.cancelledWork)
  obtain ⟨v, present, cancelled⟩ := both.2 .restarted published "a0" w trivial
    (play_restart played) found (of_decide_eq_true state)
  exact ⟨published, v, play_restart played, present, cancelled⟩

/-- A new contract takes the cancelled Work back into Blocked, with its run still active. -/
theorem contract_edit_revives_cancelled :
    ∃ next w v, Reachable Sample.codec (Sample.reached Sample.cancelledWork) ∧
      Publishes Sample.codec (.operated Sample.files Sample.supervisor
        [(.updateContract "a0" (Sample.contract "second"), "c0")])
        (Sample.reached Sample.cancelledWork) next ∧
      (Sample.reached Sample.cancelledWork).tickets.lookup "a0" = some w ∧
      w.state = .cancelled ∧ next.tickets.lookup "a0" = some v ∧ v.state ≠ .cancelled := by
  have before : ((Sample.reached Sample.cancelledWork).tickets.lookup "a0").any
      (fun w => w.state = .cancelled) = true := by decide
  have after : (play Sample.codec Sample.files (Sample.reached Sample.cancelledWork)
      (.command "c" Sample.supervisor [.updateContract "a0" (Sample.contract "second")])).any
      (fun next => (next.tickets.lookup "a0").any (fun v => v.state ≠ .cancelled)) = true := by
    decide
  rw [Option.any_eq_true] at before after
  obtain ⟨w, found, state⟩ := before
  obtain ⟨next, played, edited⟩ := after
  rw [Option.any_eq_true] at edited
  obtain ⟨v, present, revived⟩ := edited
  exact ⟨next, w, v, Sample.reached_reachable _, play_publishes played, found,
    of_decide_eq_true state, present, of_decide_eq_true revived⟩

end Tickets
