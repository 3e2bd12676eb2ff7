import BambooAgent.Tickets.Ownership

/- Every effect of a worker rests on one approval that a User gave, and every used approval
   on one effect. -/
namespace Tickets
open SortedMaps Evolutions Batches SortedMap

def hostEffect (effectId : String) : Bool := startsWith effectId "worker-file/"

def fingerprintAt (a : Assignment) (effectId : String) : Option String :=
  (a.effects.lookup effectId).map (fun effect => effect.actionFingerprint)

/-- The approval `r` was used for this effect of the assignment `a` under `key`. -/
structure Authorizes (key : String) (a : Assignment) (effectId fingerprint : String)
    (r : PendingRequest) : Prop where
  consumed : r.status = .consumed
  attempt : r.consumedAttempt = some effectId
  fingerprint : hasFingerprint r fingerprint = true
  assignment : r.assignmentId = some key
  generation : r.generation = a.generation
  contractRevision : r.contractRevision = a.contractRevision

/-- Effects and used approvals, one for one. -/
structure Matched (snapshot : Snapshot) : Prop where
  approved : ∀ key a effectId fingerprint, snapshot.assignments.lookup key = some a →
    fingerprintAt a effectId = some fingerprint → hostEffect effectId = false →
    ∃ id r, snapshot.requests.lookup id = some r ∧ Authorizes key a effectId fingerprint r
  once : ∀ id r other q, snapshot.requests.lookup id = some r →
    snapshot.requests.lookup other = some q → r.status = .consumed → q.status = .consumed →
    r.assignmentId = q.assignmentId → r.consumedAttempt = q.consumedAttempt → id = other
  used : ∀ id r, snapshot.requests.lookup id = some r → r.status = .consumed →
    ∃ key a effectId fingerprint, snapshot.assignments.lookup key = some a ∧
      fingerprintAt a effectId = some fingerprint ∧ hostEffect effectId = false ∧
      Authorizes key a effectId fingerprint r

/-- What an approval was given for does not move under it. -/
structure SameGrounds (a b : Assignment) : Prop where
  generation : b.generation = a.generation
  contractRevision : b.contractRevision = a.contractRevision
  effects : ∀ effectId, hostEffect effectId = false →
    fingerprintAt b effectId = fingerprintAt a effectId

theorem sameGrounds_refl (a : Assignment) : SameGrounds a a := ⟨rfl, rfl, fun _ _ => rfl⟩

theorem authorizes_moved (grounds : SameGrounds a b)
    (before : Authorizes key a effectId fingerprint r) : Authorizes key b effectId fingerprint r :=
  ⟨before.consumed, before.attempt, before.fingerprint, before.assignment,
    before.generation.trans grounds.generation.symm,
    before.contractRevision.trans grounds.contractRevision.symm⟩

/-- A step that uses no approval: effects keep their grounds, used approvals stay as they
    are, and no other approval becomes used. -/
theorem matched_preserved (matched : Matched snapshot)
    (origin : ∀ key b, next.assignments.lookup key = some b →
      (∃ a, snapshot.assignments.lookup key = some a ∧ SameGrounds a b) ∨
        ∀ effectId, fingerprintAt b effectId = none)
    (kept : ∀ key a, snapshot.assignments.lookup key = some a →
      ∃ b, next.assignments.lookup key = some b ∧ SameGrounds a b)
    (unused : ∀ id q, next.requests.lookup id = some q → q.status = .consumed →
      snapshot.requests.lookup id = some q)
    (stays : ∀ id r, snapshot.requests.lookup id = some r → r.status = .consumed →
      next.requests.lookup id = some r) : Matched next where
  approved := by
    intro key b effectId fingerprint present recorded worker
    rcases origin key b present with ⟨a, found, grounds⟩ | bare
    · rw [grounds.effects effectId worker] at recorded
      obtain ⟨id, r, asked, before⟩ :=
        matched.approved key a effectId fingerprint found recorded worker
      exact ⟨id, r, stays id r asked before.consumed, authorizes_moved grounds before⟩
    · rw [bare effectId] at recorded
      cases recorded
  once := by
    intro id r other q first second usedR usedQ
    exact matched.once id r other q (unused id r first usedR) (unused other q second usedQ)
      usedR usedQ
  used := by
    intro id q present consumed
    obtain ⟨key, a, effectId, fingerprint, found, recorded, worker, before⟩ :=
      matched.used id q (unused id q present consumed) consumed
    obtain ⟨b, there, grounds⟩ := kept key a found
    refine ⟨key, b, effectId, fingerprint, there, ?_, worker, authorizes_moved grounds before⟩
    rw [grounds.effects effectId worker]
    exact recorded

def usedFor (attemptId : String) (seq : Nat) (request : PendingRequest) : PendingRequest :=
  { request with status := .consumed, consumedAttempt := some attemptId, updatedSeq := seq }

def UsesApproval : Operation → Prop
  | .consumeApproval _ _ _ => True
  | _ => False

section Edits
variable {id : String}

theorem fingerprintAt_insert (a : Assignment) (id effectId : String) (effect : Effect) :
    fingerprintAt { a with effects := a.effects.insert id effect } effectId =
      if effectId = id then some effect.actionFingerprint else fingerprintAt a effectId := by
  unfold fingerprintAt
  rw [lookup_insert]
  split <;> rfl

theorem sameGrounds_insert
    (harmless : hostEffect attemptId = true ∨
      fingerprintAt a attemptId = some effect.actionFingerprint) :
    SameGrounds a (bump { a with effects := a.effects.insert attemptId effect } seq) := by
  refine ⟨rfl, rfl, ?_⟩
  intro effectId worker
  have inserted := fingerprintAt_insert a attemptId effectId effect
  by_cases same : effectId = attemptId
  · subst same
    rcases harmless with host | recorded
    · rw [host] at worker
      cases worker
    · rw [recorded]
      simp only [if_true] at inserted
      exact inserted
  · simp only [same, if_false] at inserted
    exact inserted

theorem edit_grounds (keeps : ¬ UsesApproval operation)
    (edit : AssignmentEdit snapshot authority operation id a b) : SameGrounds a b := by
  cases edit with
  | stopping _ change =>
    rcases change with same | ⟨_, _, same⟩
    · exact same ▸ sameGrounds_refl a
    · exact same ▸ ⟨rfl, rfl, fun _ _ => rfl⟩
  | consumed _ _ => exact absurd trivial keeps
  | recorded _ _ found _ same =>
    apply sameGrounds_insert
    right
    unfold fingerprintAt
    rw [found, Option.map_some, same]
  | admitted _ _ _ _ => exact ⟨rfl, rfl, fun _ _ => rfl⟩
  | running _ _ _ => exact ⟨rfl, rfl, fun _ _ => rfl⟩
  | planned _ _ => exact ⟨rfl, rfl, fun _ _ => rfl⟩
  | yielded _ _ => exact ⟨rfl, rfl, fun _ _ => rfl⟩
  | submitted _ _ => exact ⟨rfl, rfl, fun _ _ => rfl⟩
  | confirmed _ _ => exact ⟨rfl, rfl, fun _ _ => rfl⟩
  | stopped _ => exact ⟨rfl, rfl, fun _ _ => rfl⟩
  | reconciled _ _ => exact ⟨rfl, rfl, fun _ _ => rfl⟩
  | unknown _ => exact ⟨rfl, rfl, fun _ _ => rfl⟩

theorem change_grounds (keeps : ¬ UsesApproval operation)
    (change : AssignmentChange snapshot authority operation id a b) : SameGrounds a b := by
  rcases change with same | edit
  · exact same ▸ sameGrounds_refl a
  · exact edit_grounds keeps edit

theorem hostChange_grounds (change : HostAssignmentChange snapshot id a b) : SameGrounds a b := by
  rcases change with same | edit
  · exact same ▸ sameGrounds_refl a
  · cases edit with
    | isolated =>
      unfold isolate
      split
      · exact ⟨rfl, rfl, fun _ _ => rfl⟩
      · exact sameGrounds_refl a
    | begun _ file _ => exact sameGrounds_insert (.inl file)
    | installed _ _ file _ _ => exact sameGrounds_insert (.inl file)
    | observed _ _ file _ _ => exact sameGrounds_insert (.inl file)
    | released _ _ file _ _ _ _ =>
      rename_i effectId effect work _ _ _ _ _ _
      have grounds : SameGrounds a (bump { a with
          effects := a.effects.insert effectId (observedEffect effect) } (snapshot.seq + 1)) :=
        sameGrounds_insert (.inl file)
      exact ⟨rfl, rfl, grounds.effects⟩

theorem superseded_settled (used : r.status = .consumed ∨ (superseded seq r).status = .consumed) :
    superseded seq r = r := by
  unfold superseded at used ⊢
  split
  · rename_i live
    rcases live with same | same <;> simp [same] at used
  · rfl

theorem edit_consumed (keeps : ¬ UsesApproval operation)
    (edit : RequestEdit snapshot authority operation id r q)
    (used : r.status = .consumed ∨ q.status = .consumed) : q = r := by
  cases edit with
  | superseded _ => exact superseded_settled used
  | answered _ opened _ => simp [opened] at used
  | noted opened => simp [opened] at used
  | decided _ opened _ =>
    rcases used with before | after
    · rw [opened] at before
      cases before
    · split at after <;> cases after
  | consumed _ => exact absurd trivial keeps

theorem change_consumed (keeps : ¬ UsesApproval operation)
    (change : RequestChange snapshot authority operation id r q)
    (used : r.status = .consumed ∨ q.status = .consumed) : q = r :=
  change.elim (fun same => same) (fun edit => edit_consumed keeps edit used)

theorem hostChange_consumed (change : HostRequestChange snapshot id r q)
    (used : r.status = .consumed ∨ q.status = .consumed) : q = r := by
  rcases change with same | same
  · exact same
  · rw [same] at used ⊢
    unfold expire at used ⊢
    cases kind : r.kind with
    | question => rfl
    | approval action fingerprint =>
      simp only [kind] at used ⊢
      split
      · rename_i live
        rcases live with same | same <;> simp [same] at used
      · rfl

end Edits

theorem matched_changes (matched : Matched snapshot) (fresh : Fresh snapshot [uuid])
    (keeps : ¬ UsesApproval operation)
    (change : Changes codec files authority ids uuid operation snapshot next) : Matched next := by
  apply matched_preserved matched
  · intro key b present
    rcases change.assignments.origin key b present with ⟨a, found, edit⟩ | ⟨_, new⟩
    · exact .inl ⟨a, found, change_grounds keeps edit⟩
    · cases new with
      | started _ _ => exact .inr (fun _ => rfl)
  · intro key a found
    obtain ⟨b, present, edit⟩ := forward_fresh change.assignments
      (fresh.assignments uuid (by simp)) found
    exact ⟨b, present, change_grounds keeps edit⟩
  · intro id q present consumed
    rcases change.requests.origin id q present with ⟨r, found, edit⟩ | ⟨_, new⟩
    · rw [change_consumed keeps edit (.inr consumed)]
      exact found
    · cases new with
      | asked _ _ => cases consumed
  · intro id r found consumed
    obtain ⟨q, present, edit⟩ := forward_fresh change.requests (fresh.requests uuid (by simp)) found
    rw [← change_consumed keeps edit (.inl consumed)]
    exact present

theorem matched_hosted (matched : Matched snapshot) (change : HostChanges snapshot next) :
    Matched next := by
  apply matched_preserved matched
  · intro key b present
    rcases change.assignments.origin key b present with ⟨a, found, edit⟩ | impossible
    · exact .inl ⟨a, found, hostChange_grounds edit⟩
    · exact impossible.elim
  · intro key a found
    obtain ⟨b, present, edit⟩ := evolves_forward change.assignments found (fun _ none => none)
    exact ⟨b, present, hostChange_grounds edit⟩
  · intro id q present consumed
    rcases change.requests.origin id q present with ⟨r, found, edit⟩ | impossible
    · rw [hostChange_consumed edit (.inr consumed)]
      exact found
    · exact impossible.elim
  · intro id r found consumed
    obtain ⟨q, present, edit⟩ := evolves_forward change.requests found (fun _ none => none)
    rw [← hostChange_consumed edit (.inl consumed)]
    exact present

section Consuming
variable (used : Consumption snapshot authority requestId fingerprint attemptId request bound a)
include used

theorem consumption_unused {id : String} (found : snapshot.requests.lookup id = some r)
    (consumed : r.status = .consumed) : id ≠ requestId := by
  intro same
  rw [same, used.requested] at found
  cases found
  rw [used.approved] at consumed
  cases consumed

theorem consumption_first (matched : Matched snapshot) {id : String}
    (found : snapshot.requests.lookup id = some r) (consumed : r.status = .consumed)
    (assignment : r.assignmentId = some bound) : r.consumedAttempt ≠ some attemptId := by
  intro attempt
  obtain ⟨key, b, effectId, recorded, there, known, _, authorized⟩ := matched.used id r found consumed
  have sameKey := authorized.assignment.symm.trans assignment
  have sameAttempt := authorized.attempt.symm.trans attempt
  cases sameKey
  cases sameAttempt
  rw [used.found] at there
  cases there
  simp [fingerprintAt, used.unused] at known

theorem matched_consumed (matched : Matched snapshot) :
    Matched ((snapshot.putRequest requestId (usedFor attemptId snapshot.seq request)).putAssignment
      bound { a with effects := a.effects.insert attemptId (plannedEffect fingerprint) }) := by
  have requests : ∀ id r, snapshot.requests.lookup id = some r → r.status = .consumed →
      (snapshot.requests.insert requestId (usedFor attemptId snapshot.seq request)).lookup id =
        some r := by
    intro id r found consumed
    rw [lookup_insert_other _ _ (consumption_unused used found consumed)]
    exact found
  have origin : ∀ id r, (snapshot.requests.insert requestId
      (usedFor attemptId snapshot.seq request)).lookup id = some r → id ≠ requestId →
        snapshot.requests.lookup id = some r := by
    intro id r present other
    rw [lookup_insert_other _ _ other] at present
    exact present
  constructor
  · intro key b effectId recorded present known worker
    simp only [Snapshot.putAssignment_assignments, Snapshot.putRequest_assignments,
      lookup_insert] at present
    split at present
    · rename_i same
      subst same
      cases present
      rw [fingerprintAt_insert] at known
      split at known
      · rename_i here
        subst here
        cases known
        exact ⟨requestId, _, lookup_insert_self _ _ _, rfl, rfl, used.fingerprint,
          used.binding, used.generation, used.contractRevision⟩
      · obtain ⟨id, r, asked, authorized⟩ :=
          matched.approved key a effectId recorded used.found known worker
        exact ⟨id, r, requests id r asked authorized.consumed, authorized.consumed,
          authorized.attempt, authorized.fingerprint, authorized.assignment,
          authorized.generation, authorized.contractRevision⟩
    · obtain ⟨id, r, asked, authorized⟩ :=
        matched.approved key b effectId recorded present known worker
      exact ⟨id, r, requests id r asked authorized.consumed, authorized⟩
  · intro id r other q first second usedR usedQ sameAssignment sameAttempt
    simp only [Snapshot.putAssignment_requests, Snapshot.putRequest_requests] at first second
    by_cases here : id = requestId
    · subst here
      rw [lookup_insert_self] at first
      cases first
      by_contra different
      have before := origin other q second (fun same => different same.symm)
      exact consumption_first used matched before usedQ (sameAssignment.symm.trans used.binding)
        sameAttempt.symm
    · have beforeR := origin id r first here
      by_cases there : other = requestId
      · subst there
        rw [lookup_insert_self] at second
        cases second
        exact absurd sameAttempt
          (consumption_first used matched beforeR usedR (sameAssignment.trans used.binding))
      · exact matched.once id r other q beforeR (origin other q second there) usedR usedQ
          sameAssignment sameAttempt
  · intro id r present consumed
    simp only [Snapshot.putAssignment_requests, Snapshot.putRequest_requests] at present
    simp only [Snapshot.putAssignment_assignments, Snapshot.putRequest_assignments]
    by_cases here : id = requestId
    · subst here
      rw [lookup_insert_self] at present
      cases present
      refine ⟨bound, _, attemptId, fingerprint, lookup_insert_self _ _ _, ?_,
        used.outside, rfl, rfl, used.fingerprint, used.binding, used.generation,
        used.contractRevision⟩
      rw [fingerprintAt_insert]
      exact if_pos rfl
    · obtain ⟨key, b, effectId, recorded, found, known, worker, authorized⟩ :=
        matched.used id r (origin id r present here) consumed
      by_cases same : key = bound
      · subst same
        rw [used.found] at found
        cases found
        have other : effectId ≠ attemptId := by
          intro same
          exact consumption_first used matched (origin id r present here) consumed
            authorized.assignment (same ▸ authorized.attempt)
        refine ⟨key, _, effectId, recorded, lookup_insert_self _ _ _, ?_, worker,
          authorized.consumed, authorized.attempt, authorized.fingerprint, authorized.assignment,
          authorized.generation, authorized.contractRevision⟩
        rw [fingerprintAt_insert, if_neg other]
        exact known
      · refine ⟨key, b, effectId, recorded, ?_, known, worker, authorized⟩
        rw [lookup_insert_other _ _ same]
        exact found

end Consuming

theorem matched_applied (all : AllAccounted snapshot) (matched : Matched snapshot)
    (fresh : Fresh snapshot [uuid])
    (run : apply codec files snapshot authority uuid operation ids = .ok (next, after)) :
    Matched next := by
  by_cases uses : UsesApproval operation
  · cases operation with
    | consumeApproval requestId fingerprint attemptId =>
      simp only [apply, keepIds_ok] at run
      rcases consumeApproval_ok run.1 with same | ⟨request, bound, holder, a, used, present, same⟩
      · exact same ▸ matched
      · -- The assignment is looked up again by its id, which is its own key.
        have named := consumption_holder all used
        subst named
        rw [used.found] at present
        cases present
        rw [same]
        exact matched_consumed used matched
    | _ => exact uses.elim
  · exact matched_changes matched fresh uses (apply_changes run)

theorem matched_empty (binding : ScopeBinding) : Matched (Snapshot.empty binding) := by
  constructor
  · intro key a effectId fingerprint found
    cases found
  · intro id r other q found
    cases found
  · intro id r found
    cases found

theorem matched_kept : Kept codec AllAccounted Matched where
  same := by
    intro snapshot next facts matched
    constructor
    · rw [facts.assignments, facts.requests]
      exact matched.approved
    · rw [facts.requests]
      exact matched.once
    · rw [facts.assignments, facts.requests]
      exact matched.used
  applied := fun all matched fresh run => matched_applied all matched fresh run
  hosted := fun _ matched change => matched_hosted matched change

theorem reachable_matched (reached : Reachable codec snapshot) : Matched snapshot :=
  (reachable_kept (kept_both accounted_kept matched_kept)
    (fun binding => ⟨accounted_empty binding, matched_empty binding⟩) reached).2

/- Where approvals come from. -/

/-- One operation of a batch by which a User approved the open request `id`. -/
structure DecidedHere (codec : Codec) (files : Files) (authority : Authority)
    (snapshot : Snapshot) (operations : List (Operation × String)) (id fingerprint : String)
    (mid later : Snapshot) : Prop where
  user : authority.user = .ok ()
  decided : ∃ revision uuid ids after, Position codec files authority snapshot operations
    (.decideApproval id revision fingerprint true) uuid mid later ids after
  asked : ∃ r, mid.requests.lookup id = some r ∧ r.status = .opened
  approved : ∃ r, later.requests.lookup id = some r ∧ r.status = .approved ∧
    hasFingerprint r fingerprint = true

/-- A published batch on the way to `snapshot` in which a User approved the request. -/
def ApprovedByUser (codec : Codec) (snapshot : Snapshot) (id fingerprint : String) : Prop :=
  ∃ before after files authority operations mid later, Reachable codec before ∧
    Publishes codec (.operated files authority operations) before after ∧
    Leads codec after snapshot ∧
    DecidedHere codec files authority before operations id fingerprint mid later

/-- Granted: approved, and perhaps used since. -/
def Granted (r : PendingRequest) : Prop := r.status = .approved ∨ r.status = .consumed

section Decisions
variable {authority : Authority} {id : String}

theorem superseded_granted (granted : Granted (superseded seq r)) : superseded seq r = r := by
  unfold superseded Granted at *
  split
  · rename_i live
    simp [live] at granted
  · rfl

theorem expire_granted (granted : Granted (expire seq r)) : expire seq r = r := by
  cases kind : r.kind with
  | question => simp [expire, kind]
  | approval action fingerprint =>
    unfold expire Granted at *
    simp only [kind] at granted ⊢
    split
    · rename_i live
      simp [live] at granted
    · rfl

theorem hostChange_granted (granted : Granted q) (change : HostRequestChange snapshot id r q) :
    q = r := by
  rcases change with same | same
  · exact same
  · rw [same] at granted ⊢
    exact expire_granted granted

theorem worker_not_user (worker : authority.worker a = .ok ()) : authority.user ≠ .ok () := by
  intro user
  obtain ⟨receipt, _, who⟩ := worker_ok worker
  obtain ⟨userId, same⟩ := user_ok.1 user
  rw [who] at same
  cases same

theorem fingerprint_unique (one : hasFingerprint r first = true)
    (two : hasFingerprint r second = true) : first = second := by
  unfold hasFingerprint at one two
  cases kind : r.kind with
  | question => simp [kind] at one
  | approval action actual =>
    simp only [kind, decide_eq_true_eq] at one two
    exact one.symm.trans two

/-- Grants of before the batch, and those made in it, which are not used in it. -/
def GrantedBy (codec : Codec) (files : Files) (authority : Authority) (snapshot : Snapshot)
    (operations : List (Operation × String)) (middle : Snapshot) : Prop :=
  ∀ id q fingerprint, middle.requests.lookup id = some q → Granted q →
    hasFingerprint q fingerprint = true →
    (∃ r, snapshot.requests.lookup id = some r ∧ Granted r ∧ hasFingerprint r fingerprint = true) ∨
    (q.status = .approved ∧ ∃ mid later, DecidedHere codec files authority snapshot operations id
      fingerprint mid later)

theorem grantedBy_step (known : GrantedBy codec files authority snapshot operations mid)
    (position : Position codec files authority snapshot operations operation uuid mid later ids
      after) : GrantedBy codec files authority snapshot operations later := by
  have change := apply_changes (applyOperation_ok position.run)
  intro id q fingerprint present granted fingerprinted
  rcases change.requests.origin id q present with ⟨r, found, edit⟩ | ⟨_, new⟩
  · rcases edit with same | edit
    · subst same
      exact known id q fingerprint found granted fingerprinted
    · cases edit with
      | superseded _ =>
        have same := superseded_granted granted
        rw [same] at granted fingerprinted ⊢
        exact known id r fingerprint found granted fingerprinted
      | answered _ _ _ => simp [Granted] at granted
      | noted opened => simp [Granted, opened] at granted
      | decided user opened same =>
        rename_i named revision approve
        have agrees := fingerprint_unique (r := r) same fingerprinted
        subst agrees
        cases approve with
        | false => simp [Granted] at granted
        | true =>
          exact .inr ⟨rfl, mid, later, user, ⟨revision, uuid, ids, after, position⟩,
            ⟨r, found, opened⟩, ⟨_, present, rfl, same⟩⟩
      | consumed used =>
        have before : Granted r := .inl used.approved
        rcases known id r fingerprint found before fingerprinted with earlier | ⟨_, _, _, here⟩
        · exact .inl earlier
        · exact absurd here.user (worker_not_user used.worker)
  · cases new with
    | asked _ _ => simp [Granted, newRequest] at granted

theorem grantedBy_operated
    (operated : Operated codec files authority operations snapshot next after ids) :
    GrantedBy codec files authority snapshot operations after := by
  let Holds := fun (_ : List (Operation × String)) (state : Snapshot × Ids) =>
    GrantedBy codec files authority snapshot operations state.1
  have begins : Holds operations ({ snapshot with seq := snapshot.seq + 1 }, SortedMap.empty) := by
    intro id q fingerprint present granted fingerprinted
    exact .inl ⟨q, present, granted, fingerprinted⟩
  have ends : Holds [] (after, ids) := by
    refine foldlM_invariant begins ?_ operated.applied
    intro before entry rest state later whole sofar known moved
    exact grantedBy_step known ⟨⟨before, rest, whole, sofar⟩, moved⟩
  exact ends

theorem granted_decided (run : Leads codec (Snapshot.empty binding) snapshot) :
    ∀ id r fingerprint, snapshot.requests.lookup id = some r → Granted r →
      hasFingerprint r fingerprint = true → ApprovedByUser codec snapshot id fingerprint := by
  have onward : ∀ {p : Publication} {s t : Snapshot} {id fingerprint : String},
      Publishes codec p s t → ApprovedByUser codec s id fingerprint →
        ApprovedByUser codec t id fingerprint := by
    intro p s t id fingerprint step ⟨before, after, files, authority, operations, mid, later,
      reached, published, run, here⟩
    exact ⟨before, after, files, authority, operations, mid, later, reached, published,
      run.tail ⟨p, step⟩, here⟩
  induction run with
  | refl =>
    intro id r fingerprint found
    cases found
  | tail run step known =>
    rename_i middle next
    obtain ⟨p, step⟩ := step
    intro id q fingerprint present granted fingerprinted
    rcases publishes_cases step with ⟨files, authority, operations, after, ids, same, operated⟩ | change
    · subst same
      rw [operated.same.requests] at present
      rcases grantedBy_operated operated id q fingerprint present granted fingerprinted with
        ⟨r, found, before, same⟩ | ⟨_, mid, later, here⟩
      · exact onward step (known id r fingerprint found before same)
      · exact ⟨middle, next, files, authority, operations, mid, later, ⟨_, run⟩, step, .refl, here⟩
    · rcases change.requests.origin id q present with ⟨r, found, edit⟩ | impossible
      · have same := hostChange_granted granted edit
        subst same
        exact onward step (known id q fingerprint found granted fingerprinted)
      · exact impossible.elim

/-- Effects of workers and used approvals match one for one, and each of the approvals was
    given by a User for exactly the recorded fingerprint. -/
theorem one_approval_one_effect (reached : Reachable codec snapshot) :
    (∀ key a effectId effect, snapshot.assignments.lookup key = some a →
      a.effects.lookup effectId = some effect → hostEffect effectId = false →
      ∃! id, ∃ r, snapshot.requests.lookup id = some r ∧
        Authorizes key a effectId effect.actionFingerprint r) ∧
    (∀ id r, snapshot.requests.lookup id = some r → r.status = .consumed →
      (∃! target : String × String, ∃ a effect, snapshot.assignments.lookup target.1 = some a ∧
        a.effects.lookup target.2 = some effect ∧ hostEffect target.2 = false ∧
        Authorizes target.1 a target.2 effect.actionFingerprint r) ∧
      ∃ fingerprint, hasFingerprint r fingerprint = true ∧
        ApprovedByUser codec snapshot id fingerprint) := by
  have matched := reachable_matched reached
  obtain ⟨binding, run⟩ := reached
  constructor
  · intro key a effectId effect found recorded worker
    have known : fingerprintAt a effectId = some effect.actionFingerprint := by
      unfold fingerprintAt
      rw [recorded]
      rfl
    obtain ⟨id, r, asked, authorized⟩ :=
      matched.approved key a effectId effect.actionFingerprint found known worker
    refine ⟨id, ⟨r, asked, authorized⟩, ?_⟩
    intro other ⟨q, there, also⟩
    exact matched.once other q id r there asked also.consumed authorized.consumed
      (also.assignment.trans authorized.assignment.symm)
      (also.attempt.trans authorized.attempt.symm)
  · intro id r asked consumed
    obtain ⟨key, a, effectId, fingerprint, found, known, worker, authorized⟩ :=
      matched.used id r asked consumed
    constructor
    · unfold fingerprintAt at known
      rw [Option.map_eq_some_iff] at known
      obtain ⟨effect, recorded, same⟩ := known
      refine ⟨(key, effectId), ⟨a, effect, found, recorded, worker, same ▸ authorized⟩, ?_⟩
      intro other ⟨b, _, _, _, _, also⟩
      have sameKey := also.assignment.symm.trans authorized.assignment
      have sameEffect := also.attempt.symm.trans authorized.attempt
      exact Prod.ext (Option.some.inj sameKey) (Option.some.inj sameEffect)
    · exact ⟨fingerprint, authorized.fingerprint,
        granted_decided run id r fingerprint asked (Or.inr consumed) authorized.fingerprint⟩

end Decisions

/-- The approved run uses its approval. -/
def Sample.pushed : Snapshot :=
  Sample.reached (Sample.approvedRun ++
    [.command "e" Sample.worker [.consumeApproval "c0" Sample.hash "push"]])

theorem one_approval_one_effect_pushed :
    ∃ a effect r, Sample.pushed.assignments.lookup "a2" = some a ∧
      a.effects.lookup "push" = some effect ∧ Sample.pushed.requests.lookup "c0" = some r ∧
      r.status = .consumed ∧
      (∃! id, ∃ q, Sample.pushed.requests.lookup id = some q ∧
        Authorizes "a2" a "push" effect.actionFingerprint q) ∧
      ∃ fingerprint, hasFingerprint r fingerprint = true ∧
        ApprovedByUser Sample.codec Sample.pushed "c0" fingerprint := by
  have recorded : (Sample.pushed.assignments.lookup "a2").any
      (fun a => a.effects.contains "push") = true := by decide
  have consumed : (Sample.pushed.requests.lookup "c0").any (fun r => r.status = .consumed) =
      true := by decide
  rw [Option.any_eq_true] at recorded consumed
  obtain ⟨a, found, present⟩ := recorded
  obtain ⟨effect, there⟩ := Option.isSome_iff_exists.mp present
  obtain ⟨r, asked, status⟩ := consumed
  have both := one_approval_one_effect (Sample.reached_reachable
    (Sample.approvedRun ++ [.command "e" Sample.worker [.consumeApproval "c0" Sample.hash "push"]]))
  have used := of_decide_eq_true status
  exact ⟨a, effect, r, found, there, asked, used, both.1 "a2" a "push" effect found there (by decide),
    (both.2 "c0" r asked used).2⟩

end Tickets
