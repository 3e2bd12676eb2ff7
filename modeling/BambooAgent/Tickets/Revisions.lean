import BambooAgent.Tickets.Scripts

/- Record revisions. Whatever an accepted operation writes into a Ticket or an assignment
   moves the revision of the record and stamps it; only the use of an approval adds an
   effect to its assignment and leaves both as they were. -/
namespace Tickets
open SortedMaps Evolutions

/-- The Ticket is the same record, or a later revision stamped by this publication. -/
abbrev TicketAdvances (now : Nat) : Ticket → Ticket → Prop :=
  Advances Ticket.recordRevision Ticket.updatedSeq (fun w v => v = w) now

/-- Equal but for the effects, which may differ where `free` allows it. -/
def SameBut (free : Prop) (a b : Assignment) : Prop :=
  b = a ∨ (free ∧ b = { a with effects := b.effects })

abbrev AssignmentAdvances (free : Prop) (now : Nat) : Assignment → Assignment → Prop :=
  Advances Assignment.recordRevision Assignment.updatedSeq (SameBut free) now

def ConsumesApproval : Operation → Prop
  | .consumeApproval _ _ _ => True
  | _ => False

/-- The same Ticket but for its revision and its stamp. -/
def SameContent (w v : Ticket) : Prop :=
  v = { w with recordRevision := v.recordRevision, updatedSeq := v.updatedSeq }

/-- The same assignment but for its revision and its stamp. -/
def SameRun (a b : Assignment) : Prop :=
  b = { a with recordRevision := b.recordRevision, updatedSeq := b.updatedSeq }

instance (w v : Ticket) : Decidable (SameContent w v) :=
  inferInstanceAs (Decidable (v = { w with
    recordRevision := v.recordRevision, updatedSeq := v.updatedSeq }))

/-- Operations that write a record without asking whether anything about it changes. -/
def Rewrites : Operation → Prop
  | .associateProject _ _ => True
  | .setProjectContext _ _ => True
  | .setPlanningMetadata _ _ _ _ => True
  | .updateContract _ _ => True
  | .recordEffect _ _ _ => True
  | .acceptGoal _ _ => True
  | .cancel _ => True
  | .pause _ _ => True
  | .confirmStopped _ _ => True
  | .runtimeStopped _ _ _ => True
  | .reconcileCompleted _ _ => True
  | .outcomeUnknown _ _ => True
  | .reopen _ => True
  | .archive _ _ => True
  | _ => False

/-- No record of the same content has another revision or stamp. -/
structure Unmoved (snapshot next : Snapshot) : Prop where
  tickets : ∀ id w v, snapshot.tickets.lookup id = some w → next.tickets.lookup id = some v →
    SameContent w v → v = w
  assignments : ∀ id a b, snapshot.assignments.lookup id = some a →
    next.assignments.lookup id = some b → SameRun a b → b = a

theorem ticketAdvances_trans (first : TicketAdvances now u v) (second : TicketAdvances now v w) :
    TicketAdvances now u w := by
  apply advances_trans _ _ first second
  · intro v w same
    exact same ▸ ⟨rfl, rfl⟩
  · intro u v w first second
    exact second.trans first

theorem sameBut_stamps (same : SameBut free a b) :
    b.recordRevision = a.recordRevision ∧ b.updatedSeq = a.updatedSeq := by
  rcases same with same | ⟨_, same⟩
  · exact same ▸ ⟨rfl, rfl⟩
  · rw [same]
    exact ⟨rfl, rfl⟩

theorem sameBut_trans (first : SameBut free a b) (second : SameBut free b c) :
    SameBut free a c := by
  rcases second with same | ⟨allowed, after⟩
  · exact same ▸ first
  · rcases first with same | ⟨_, before⟩
    · exact same ▸ .inr ⟨allowed, after⟩
    · right
      refine ⟨allowed, ?_⟩
      rw [after, before]

theorem assignmentAdvances_trans (first : AssignmentAdvances free now a b)
    (second : AssignmentAdvances free now b c) : AssignmentAdvances free now a c :=
  advances_trans (fun _ _ same => sameBut_stamps same) (fun _ _ _ => sameBut_trans) first second

theorem assignmentAdvances_mono (wider : free → more) (change : AssignmentAdvances free now a b) :
    AssignmentAdvances more now a b := by
  rcases change with (same | ⟨allowed, same⟩) | later
  · exact .inl (.inl same)
  · exact .inl (.inr ⟨wider allowed, same⟩)
  · exact .inr later

theorem touch_advances (written : v = touch u seq) (kept : u.recordRevision = w.recordRevision) :
    TicketAdvances seq w v := by
  right
  have less : w.recordRevision < u.recordRevision + 1 := by omega
  exact written ▸ ⟨less, rfl⟩

theorem bump_advances (written : c = bump b seq) (kept : b.recordRevision = a.recordRevision) :
    AssignmentAdvances free seq a c := by
  right
  have less : a.recordRevision < b.recordRevision + 1 := by omega
  exact written ▸ ⟨less, rfl⟩

section Edits
variable {id : String}

theorem contractEdited_revision (contract : Contract) (old work : Ticket) :
    (contractEdited contract old work).recordRevision = work.recordRevision := by
  unfold contractEdited
  split <;> rfl

theorem releasedWork_revision (work : Ticket) :
    (releasedWork work).recordRevision = work.recordRevision := by
  unfold releasedWork
  split <;> rfl

theorem retriedWork_revision (seq : Nat) (work : Ticket) :
    TicketAdvances seq work (retriedWork seq work) := by
  unfold retriedWork
  split
  · exact touch_advances rfl rfl
  · exact touch_advances rfl rfl

theorem stoppedWork_revision
    (outcome : stoppedWork effectsUnknown cancelled waiting unanswered completed a w = some after) :
    after.recordRevision = w.recordRevision := by
  unfold stoppedWork at outcome
  split at outcome
  · split at outcome
    · cases outcome
      rfl
    · cases outcome
      rfl
  · split at outcome
    · cases outcome
      rfl
    · split at outcome
      · cases outcome
        rfl
      · cases outcome

theorem edit_advances (edit : TicketEdit snapshot authority ids uuid operation id w v) :
    TicketAdvances snapshot.seq w v := by
  cases edit with
  | edited _ _ => exact touch_advances rfl (contractEdited_revision _ _ _)
  | released _ _ => exact touch_advances rfl (releasedWork_revision _)
  | stopped _ _ outcome => exact touch_advances rfl (stoppedWork_revision outcome)
  | described _ => exact touch_advances rfl rfl
  | readied _ => exact touch_advances rfl rfl
  | rewired _ _ => exact touch_advances rfl rfl
  | started _ => exact touch_advances rfl rfl
  | resumed _ _ _ => exact touch_advances rfl rfl
  | yielded _ _ => exact touch_advances rfl rfl
  | submitted _ _ _ => exact touch_advances rfl rfl
  | accepted _ _ => exact touch_advances rfl rfl
  | goalAccepted _ _ _ _ => exact touch_advances rfl rfl
  | rejected _ => exact touch_advances rfl rfl
  | cancelled => exact touch_advances rfl rfl
  | paused _ _ => exact touch_advances rfl rfl
  | reconciled _ _ _ _ _ _ => exact touch_advances rfl rfl
  | unknown _ _ => exact touch_advances rfl rfl
  | reopened _ => exact touch_advances rfl rfl

theorem revised_advances (revised : Revised seq w v) : TicketAdvances seq w v := by
  have revokes : ∀ u : Ticket, TicketAdvances seq u (revoked seq u) := by
    intro u
    unfold revoked
    split
    · exact .inl rfl
    · exact touch_advances rfl rfl
  have reviews : ∀ u : Ticket, TicketAdvances seq u (reviewed seq u) := by
    intro u
    unfold reviewed
    split
    · exact touch_advances rfl rfl
    · exact .inl rfl
  rcases revised with same | same | same | same
  · exact .inl same
  · exact same ▸ revokes w
  · exact same ▸ reviews w
  · exact same ▸ ticketAdvances_trans (revokes w) (reviews _)

theorem change_advances (change : TicketChange snapshot authority ids uuid operation id w v) :
    TicketAdvances snapshot.seq w v := by
  obtain ⟨u, edit, last⟩ := change
  have first : TicketAdvances snapshot.seq w u := by
    rcases edit with same | edit
    · exact .inl same
    · exact edit_advances edit
  rcases last with same | ⟨_, revised⟩
  · exact same ▸ first
  · exact ticketAdvances_trans first (revised_advances revised)

theorem assignmentChange_advances (change : AssignmentChange snapshot authority operation id a b) :
    AssignmentAdvances (ConsumesApproval operation) snapshot.seq a b := by
  rcases change with same | edit
  · exact .inl (.inl same)
  · cases edit with
    | stopping _ change =>
      rcases change with same | ⟨revision, less, same⟩
      · exact .inl (.inl same)
      · exact same ▸ .inr ⟨less, rfl⟩
    | consumed _ _ => exact .inl (.inr ⟨trivial, rfl⟩)
    | admitted _ _ _ _ => exact bump_advances rfl rfl
    | running _ _ _ => exact bump_advances rfl rfl
    | planned _ _ => exact bump_advances rfl rfl
    | yielded _ _ => exact bump_advances rfl rfl
    | recorded _ _ _ _ _ => exact bump_advances rfl rfl
    | submitted _ _ => exact bump_advances rfl rfl
    | confirmed _ _ => exact bump_advances rfl rfl
    | stopped _ => exact bump_advances rfl rfl
    | reconciled _ _ => exact bump_advances rfl rfl
    | unknown _ => exact bump_advances rfl rfl

theorem hostEdit_advances (edit : HostTicketEdit snapshot id w v) :
    TicketAdvances (snapshot.seq + 1) w v := by
  cases edit with
  | still => exact .inl rfl
  | awaiting _ => exact touch_advances rfl rfl
  | retried _ _ => exact retriedWork_revision _ _

theorem hostChange_advances (change : HostAssignmentChange snapshot id a b) :
    AssignmentAdvances False (snapshot.seq + 1) a b := by
  rcases change with same | edit
  · exact .inl (.inl same)
  · cases edit with
    | isolated =>
      unfold isolate
      split
      · right
        have less : a.recordRevision < a.recordRevision + 1 := by omega
        exact ⟨less, rfl⟩
      · exact .inl (.inl rfl)
    | begun _ _ _ => exact bump_advances rfl rfl
    | installed _ _ _ _ _ => exact bump_advances rfl rfl
    | observed _ _ _ _ _ => exact bump_advances rfl rfl
    | released _ _ _ _ _ _ _ => exact bump_advances rfl rfl

theorem describing_rewrites (describes : Describing operation) : Rewrites operation := by
  cases operation <;> trivial

theorem revoking_rewrites (revoking : Revoking operation) : Rewrites operation := by
  cases operation <;> trivial

theorem stopsRuns_rewrites (stops : StopsRuns operation) : Rewrites operation := by
  cases operation <;> trivial

theorem edit_differs (asks : ¬ Rewrites operation) (found : snapshot.tickets.lookup id = some w)
    (edit : TicketEdit snapshot authority ids uuid operation id w v) : ¬ SameContent w v := by
  intro same
  have state : v.state = w.state := by rw [same]
  cases edit with
  | described describes => exact asks (describing_rewrites describes)
  | readied allowed =>
    rcases allowed with draft | ⟨paused, _⟩
    · rw [draft] at state
      cases state
    · have pause : false = w.paused := congrArg Ticket.paused same
      rw [paused] at pause
      cases pause
  | rewired _ _ =>
    have revision : w.contractRevision + 1 = w.contractRevision :=
      congrArg Ticket.contractRevision same
    omega
  | started _ =>
    have generation : w.generation + 1 = w.generation := congrArg Ticket.generation same
    omega
  | resumed blocked _ _ =>
    rw [blocked] at state
    cases state
  | yielded report permit =>
    have current := (activePermit_ok.1 permit).1
    have active := permit_active (currentAttempt_ok.2 current) report.owner found
    rw [active] at state
    cases state
  | submitted report current _ =>
    have active := permit_active current report.owner found
    rw [active] at state
    cases state
  | accepted _ exact' =>
    rw [exact'.submitted] at state
    cases state
  | rejected submitted =>
    rw [submitted] at state
    cases state
  | edited _ _ => exact asks trivial
  | goalAccepted _ _ _ _ => exact asks trivial
  | cancelled => exact asks trivial
  | paused _ _ => exact asks trivial
  | released _ _ => exact asks trivial
  | stopped _ _ _ => exact asks trivial
  | reconciled _ _ _ _ _ _ => exact asks trivial
  | unknown _ _ => exact asks trivial
  | reopened _ => exact asks trivial

theorem permit_admitted (permit : activePermit snapshot a = .ok ()) :
    a.state = .admitted ∨ a.state = .running := by
  obtain ⟨⟨_, current⟩, _⟩ := activePermit_ok.1 permit
  exact current.admitted

theorem run_differs (asks : ¬ Rewrites operation)
    (edit : AssignmentEdit snapshot authority operation id a b) (same : SameRun a b) : b = a := by
  have state : b.state = a.state := by rw [same]
  cases edit with
  | stopping stops _ => exact absurd (stopsRuns_rewrites stops) asks
  | admitted _ _ first _ =>
    have runtime := congrArg Assignment.runtime same
    simp [bump, first] at runtime
  | running _ admitted _ =>
    rw [admitted] at state
    cases state
  | planned _ _ =>
    have revision : a.plan.planRevision + 1 = a.plan.planRevision :=
      congrArg (fun b : Assignment => b.plan.planRevision) same
    omega
  | yielded _ permit =>
    rcases permit_admitted permit with admitted | running
    · rw [admitted] at state
      cases state
    · rw [running] at state
      cases state
  | submitted _ current =>
    obtain ⟨_, attempt⟩ := currentAttempt_ok.1 current
    rcases attempt.admitted with admitted | running
    · rw [admitted] at state
      cases state
    · rw [running] at state
      cases state
  -- The used approval keeps both fields whatever it writes.
  | consumed _ _ => exact same
  | recorded _ _ _ _ _ => exact absurd trivial asks
  | confirmed _ _ => exact absurd trivial asks
  | stopped _ => exact absurd trivial asks
  | reconciled _ _ => exact absurd trivial asks
  | unknown _ => exact absurd trivial asks

theorem hostEdit_differs (edit : HostTicketEdit snapshot id w v) (same : SameContent w v) :
    v = w := by
  cases edit with
  | still => rfl
  | awaiting active =>
    have state : WorkState.blocked = w.state := congrArg Ticket.state same
    rw [active] at state
    cases state
  | retried _ active =>
    have idle := congrArg Ticket.activeAssignment same
    unfold retriedWork touch at idle
    split at idle
    · rw [active] at idle
      cases idle
    · rw [active] at idle
      cases idle

theorem settled_differs {effects : SortedMap String Effect}
    (found : effects.lookup effectId = some effect) (pending : unsettled effect = true)
    (done : settled.state = .succeeded) : effects.insert effectId settled ≠ effects := by
  intro same
  have here : (effects.insert effectId settled).lookup effectId = some effect := by
    rw [same]
    exact found
  rw [SortedMap.lookup_insert_self, Option.some.injEq] at here
  rw [← here] at pending
  simp [unsettled, done] at pending

theorem hostRun_differs (edit : HostAssignmentEdit snapshot id a b) (same : SameRun a b) :
    b = a := by
  cases edit with
  | isolated =>
    unfold isolate at same ⊢
    split at same
    · rename_i open'
      have state : AssignmentState.outcomeUnknown = a.state := congrArg Assignment.state same
      rw [uncertain, ← state] at open'
      simp at open'
    · rename_i certain
      rw [if_neg certain]
  | begun _ _ unused =>
    rename_i operationId effect _ _
    have effects : a.effects.insert operationId effect = a.effects :=
      congrArg Assignment.effects same
    have here := SortedMap.lookup_insert_self a.effects operationId effect
    rw [effects, unused] at here
    cases here
  | installed _ _ _ found pending =>
    exact absurd (congrArg Assignment.effects same) (settled_differs found pending rfl)
  | observed _ _ _ found pending =>
    exact absurd (congrArg Assignment.effects same) (settled_differs found pending rfl)
  | released _ _ _ found _ _ pending =>
    exact absurd (congrArg Assignment.effects same) (settled_differs found pending rfl)

theorem newTicket_stamped (new : NewTicket snapshot authority ids uuid operation v) :
    v.updatedSeq = snapshot.seq := by
  cases new with
  | created _ _ => rfl
  | imported _ => rfl

theorem newAssignment_stamped
    (new : NewAssignment snapshot authority files ids uuid operation b) :
    b.updatedSeq = snapshot.seq := by
  cases new with
  | started _ _ => rfl

end Edits

/-- How the records stand to those of an earlier snapshot: the same or later revisions,
    and stamped ones among the new. -/
structure Follows (free : Prop) (now : Nat) (snapshot next : Snapshot) : Prop where
  tickets : Evolves (fun _ => TicketAdvances now)
    (fun id v => snapshot.tickets.lookup id = none ∧ v.updatedSeq = now)
    snapshot.tickets next.tickets
  assignments : Evolves (fun _ => AssignmentAdvances free now)
    (fun id b => snapshot.assignments.lookup id = none ∧ b.updatedSeq = now)
    snapshot.assignments next.assignments

theorem absent_before [LinearOrder κ] {edit : κ → ν → ν → Prop}
    {made : κ → ν → Prop} {m m' : SortedMap κ ν} (change : Evolves edit made m m') {key : κ}
    (absent : m'.lookup key = none) : m.lookup key = none := by
  cases found : m.lookup key with
  | none => rfl
  | some v =>
    obtain ⟨v', present⟩ := change.kept key v found
    rw [absent] at present
    cases present

theorem follows_applied (allowed : ConsumesApproval operation → free) (seq : mid.seq = now)
    (sofar : Follows free now snapshot mid) (fresh : Fresh mid [uuid])
    (run : apply codec files mid authority uuid operation ids = .ok (next, after)) :
    Follows free now snapshot next := by
  have change := apply_changes run
  have noTicket := absent_before sofar.tickets (fresh.tickets uuid (by simp))
  have noAssignment := absent_before sofar.assignments (fresh.assignments uuid (by simp))
  refine ⟨evolves_trans sofar.tickets change.tickets ?_ ?_ ?_,
    evolves_trans sofar.assignments change.assignments ?_ ?_ ?_⟩
  · intro id u v w _ first second
    exact ticketAdvances_trans first (seq ▸ change_advances second)
  · intro id v w made second
    rcases seq ▸ change_advances second with same | later
    · exact same ▸ made
    · exact ⟨made.1, later.2⟩
  · intro id w new
    exact ⟨new.1 ▸ noTicket, (newTicket_stamped new.2).trans seq⟩
  · intro id u v w _ first second
    have advanced := assignmentAdvances_mono allowed (assignmentChange_advances second)
    exact assignmentAdvances_trans first (seq ▸ advanced)
  · intro id v w made second
    rcases seq ▸ assignmentChange_advances second with same | later
    · exact ⟨made.1, (sameBut_stamps same).2.trans made.2⟩
    · exact ⟨made.1, later.2⟩
  · intro id w new
    exact ⟨new.1 ▸ noAssignment, (newAssignment_stamped new.2).trans seq⟩

theorem follows_same (free : Prop) (now : Nat) (same : SameFacts snapshot next) :
    Follows free now snapshot next where
  tickets := same.tickets.symm ▸ evolves_same (fun _ _ => .inl rfl)
  assignments := same.assignments.symm ▸ evolves_same (fun _ _ => .inl (.inl rfl))

theorem follows_hosted (change : HostChanges snapshot next) :
    Follows False (snapshot.seq + 1) snapshot next where
  tickets := evolves_weaken change.tickets (fun _ _ _ _ edit => hostEdit_advances edit)
    (fun _ _ impossible => impossible.elim)
  assignments := evolves_weaken change.assignments (fun _ _ _ _ edit => hostChange_advances edit)
    (fun _ _ impossible => impossible.elim)

def UsesAnApproval : Publication → Prop
  | .operated _ _ operations => ∃ entry ∈ operations, ConsumesApproval entry.1
  | _ => False

theorem publishes_follows (step : Publishes codec p snapshot next) :
    Follows (UsesAnApproval p) next.seq snapshot next := by
  rw [publishes_seq step]
  rcases publishes_cases step with ⟨files, authority, operations, after, ids, same, operated⟩ | change
  · subst same
    have ended := operated_applied
      (P := fun s => s.seq = snapshot.seq + 1 ∧
        Follows (UsesAnApproval (.operated files authority operations)) (snapshot.seq + 1)
          snapshot s) operated
      (fun member here fresh run => ⟨(apply_changes run).seq.trans here.1,
        follows_applied (fun uses => ⟨_, member, uses⟩) here.1 here.2 fresh run⟩)
      ⟨rfl, follows_same _ _ (begun_same snapshot)⟩
    refine ⟨?_, ?_⟩
    · rw [operated.same.tickets]
      exact ended.2.tickets
    · rw [operated.same.assignments]
      exact ended.2.assignments
  · have follows := follows_hosted change
    exact ⟨follows.tickets, evolves_weaken follows.assignments
      (fun _ _ _ _ edit => assignmentAdvances_mono False.elim edit) (fun _ _ new => new)⟩

/-- Record by record: the same one or a later revision with the new number, and the new number
    on every new record. Where `free` allows it, an assignment may differ in its effects. -/
structure RecordsFollow (free : Prop) (snapshot next : Snapshot) : Prop where
  tickets : ∀ id w, snapshot.tickets.lookup id = some w → ∃ v, next.tickets.lookup id = some v ∧
    (v = w ∨ (w.recordRevision < v.recordRevision ∧ v.updatedSeq = next.seq))
  newTickets : ∀ id v, snapshot.tickets.lookup id = none → next.tickets.lookup id = some v →
    v.updatedSeq = next.seq
  assignments : ∀ id a, snapshot.assignments.lookup id = some a →
    ∃ b, next.assignments.lookup id = some b ∧
      (b = a ∨ (a.recordRevision < b.recordRevision ∧ b.updatedSeq = next.seq) ∨
        (free ∧ b = { a with effects := b.effects }))
  newAssignments : ∀ id b, snapshot.assignments.lookup id = none →
    next.assignments.lookup id = some b → b.updatedSeq = next.seq

theorem follows_records (follows : Follows free next.seq snapshot next) :
    RecordsFollow free snapshot next where
  tickets := by
    intro id w found
    obtain ⟨v, present⟩ := follows.tickets.kept id w found
    rcases follows.tickets.origin id v present with ⟨u, there, change⟩ | ⟨absent, _⟩
    · rw [found] at there
      cases there
      exact ⟨v, present, change⟩
    · rw [found] at absent
      cases absent
  newTickets := by
    intro id v absent present
    rcases follows.tickets.origin id v present with ⟨w, found, _⟩ | ⟨_, stamped⟩
    · rw [absent] at found
      cases found
    · exact stamped
  assignments := by
    intro id a found
    obtain ⟨b, present⟩ := follows.assignments.kept id a found
    rcases follows.assignments.origin id b present with ⟨u, there, change⟩ | ⟨absent, _⟩
    · rw [found] at there
      cases there
      refine ⟨b, present, ?_⟩
      rcases change with (same | effects) | later
      · exact .inl same
      · exact .inr (.inr effects)
      · exact .inr (.inl later)
    · rw [found] at absent
      cases absent
  newAssignments := by
    intro id b absent present
    rcases follows.assignments.origin id b present with ⟨a, found, _⟩ | ⟨_, stamped⟩
    · rw [absent] at found
      cases found
    · exact stamped

theorem unmoved_hosted (change : HostChanges snapshot next) : Unmoved snapshot next where
  tickets := by
    intro id w v found present same
    rcases change.tickets.origin id v present with ⟨u, there, edit⟩ | impossible
    · rw [found] at there
      cases there
      exact hostEdit_differs edit same
    · exact impossible.elim
  assignments := by
    intro id a b found present same
    rcases change.assignments.origin id b present with ⟨u, there, still | edit⟩ | impossible
    · rw [found] at there
      cases there
      exact still
    · rw [found] at there
      cases there
      exact hostRun_differs edit same
    · exact impossible.elim

theorem unmoved_applied (asks : ¬ Rewrites operation) (fresh : Fresh snapshot [uuid])
    (run : apply codec files snapshot authority uuid operation ids = .ok (next, after)) :
    Unmoved snapshot next where
  tickets := by
    intro id w v found present same
    rcases (apply_changes run).tickets.origin id v present with ⟨u, there, x, edit, last⟩ | new
    · rw [found] at there
      cases there
      have middle : v = x := by
        rcases last with still | ⟨revoking, _⟩
        · exact still
        · exact absurd (revoking_rewrites revoking) asks
      subst middle
      rcases edit with still | edit
      · exact still
      · exact absurd same (edit_differs asks found edit)
    · rw [new.1, fresh.tickets uuid (by simp)] at found
      cases found
  assignments := by
    intro id a b found present same
    rcases (apply_changes run).assignments.origin id b present with ⟨u, there, still | edit⟩ | new
    · rw [found] at there
      cases there
      exact still
    · rw [found] at there
      cases there
      exact run_differs asks edit same
    · rw [new.1, fresh.assignments uuid (by simp)] at found
      cases found

/-- In every publication the records move to later revisions or stay; outside of batches, and
    at every operation of a batch that asks for a change, only changed records move. -/
theorem revisions_follow_changes (step : Publishes codec p snapshot next) :
    RecordsFollow (UsesAnApproval p) snapshot next ∧
    (HostPublication p → Unmoved snapshot next) ∧
    (∀ files authority operations operation uuid mid after ids ids',
      p = .operated files authority operations →
      Position codec files authority snapshot operations operation uuid mid after ids ids' →
      ¬ Rewrites operation → Unmoved mid after) := by
  refine ⟨follows_records (publishes_follows step), ?_, ?_⟩
  · intro host
    exact unmoved_hosted (publishes_hosted host step)
  · intro files authority operations operation uuid mid after ids ids' same position asks
    subst same
    obtain ⟨_, _, operated⟩ := publishes_operated step
    have anything : Kept codec (fun _ => True) (fun _ => True) :=
      ⟨fun _ _ => trivial, fun _ _ _ _ => trivial, fun _ _ _ => trivial⟩
    have fresh := (position_kept anything trivial operated.fresh position).2
    exact unmoved_applied asks fresh (applyOperation_ok position.run)

/-- A restart of a scope with a run in it moves the record of the run. -/
theorem revisions_follow_changes_restart :
    ∃ published a b, Publishes Sample.codec .restarted (Sample.reached Sample.approvedRun)
        published ∧
      (Sample.reached Sample.approvedRun).assignments.lookup "a2" = some a ∧
      published.assignments.lookup "a2" = some b ∧ a.recordRevision < b.recordRevision ∧
      b.updatedSeq = published.seq := by
  have before : ((Sample.reached Sample.approvedRun).assignments.lookup "a2").any
      (fun a => a.state = .admitted) = true := by decide
  have after : (play Sample.codec Sample.files (Sample.reached Sample.approvedRun)
      .restart).any (fun next => (next.assignments.lookup "a2").any
        (fun b => b.state = .outcomeUnknown)) = true := by decide
  rw [Option.any_eq_true] at before after
  obtain ⟨a, found, admitted⟩ := before
  obtain ⟨published, played, isolated⟩ := after
  rw [Option.any_eq_true] at isolated
  obtain ⟨b, present, unknown⟩ := isolated
  have records := (revisions_follow_changes (play_restart played)).1
  obtain ⟨c, there, same | ⟨later, stamped⟩ | ⟨uses, _⟩⟩ := records.assignments "a2" a found
  · rw [present] at there
    cases there
    have first := of_decide_eq_true admitted
    rw [← same, of_decide_eq_true unknown] at first
    cases first
  · rw [present] at there
    cases there
    exact ⟨published, a, b, play_restart played, found, present, later, stamped⟩
  · exact uses.elim

def Sample.oneTicket : List Event :=
  [.command "a" Sample.supervisor [
    .create "x" .work none (Sample.contract "first") SortedSet.empty]]

/-- An accepted command that finds the Ticket as it wants it moves the revision all the same. -/
theorem archive_moves_unchanged :
    ∃ published w v, Reachable Sample.codec (Sample.reached Sample.oneTicket) ∧
      Publishes Sample.codec (.operated Sample.files Sample.supervisor
        [(.archive "a0" false, "b0")]) (Sample.reached Sample.oneTicket) published ∧
      (Sample.reached Sample.oneTicket).tickets.lookup "a0" = some w ∧
      published.tickets.lookup "a0" = some v ∧ SameContent w v ∧
      w.recordRevision < v.recordRevision := by
  have moved : (play Sample.codec Sample.files (Sample.reached Sample.oneTicket) (.command "b"
      Sample.supervisor [.archive "a0" false])).any (fun next =>
        ((Sample.reached Sample.oneTicket).tickets.lookup "a0").any (fun w =>
          (next.tickets.lookup "a0").any (fun v =>
            decide (SameContent w v) && decide (w.recordRevision < v.recordRevision)))) = true := by
    decide
  rw [Option.any_eq_true] at moved
  obtain ⟨published, played, rest⟩ := moved
  rw [Option.any_eq_true] at rest
  obtain ⟨w, found, rest⟩ := rest
  rw [Option.any_eq_true] at rest
  obtain ⟨v, present, both⟩ := rest
  rw [Bool.and_eq_true] at both
  exact ⟨published, w, v, Sample.reached_reachable _, play_publishes played, found, present,
    of_decide_eq_true both.1, of_decide_eq_true both.2⟩

end Tickets
