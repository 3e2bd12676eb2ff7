import BambooAgent.Library.Grants
import BambooAgent.Tickets.TokenLedger

/- The right to submit a provider request, over the whole life of a token ledger: calls,
   retries, publications that fail on the way to the disk, and writer restarts. -/
namespace Tickets
open SortedMaps SortedMap Option

namespace ExecutionBudget

/-- A store and the writer that serves it, if there is one. -/
structure Host where
  server : Option (Snapshot × Health)
  durable : Snapshot

/-- How a publication ends: on the disk, short of it, or with HEAD already renamed. -/
inductive Disk where
  | committed
  | refused
  | uncertain (error : String)

def needsReconciliation (error : String) : Health :=
  .readOnly ("HEAD publication needs reconciliation: " ++ error)

def Host.publish (host : Host) (snapshot next : Snapshot) : Disk → Host
  | .committed => ⟨some (next, .writable), next⟩
  | .refused => host
  | .uncertain error => ⟨some (snapshot, needsReconciliation error), next⟩

def newSubmission (request : WorkTokenRequest) (answer : WorkTokenSubmission) :
    List WorkTokenRequest :=
  match answer with
  | .new _ => [request]
  | _ => []

/-- One event in the life of a store, and the requests it grants a new submission for. -/
inductive Moves (codec : Codec) : Host → List WorkTokenRequest → Host → Prop where
  /-- A reservation is answered, and what it publishes is on the disk. -/
  | answered {host : Host} {snapshot : Snapshot} {health : Health} {authority : Authority}
      {request : WorkTokenRequest} {nowMs : Nat} {answer : WorkTokenSubmission}
      {published : Option Snapshot} (served : host.server = some (snapshot, health))
      (run : reserveWorkTokenSubmission codec health snapshot authority request nowMs =
        .ok (answer, published)) :
      Moves codec host (newSubmission request answer)
        (match published with
          | none => host
          | some next => host.publish snapshot next .committed)
  /-- A call whose answer grants nothing: not a reservation, or its publication failed. -/
  | accounted {host : Host} {snapshot next : Snapshot} {health : Health} {authority : Authority}
      {call : LedgerCall} {disk : Disk} (served : host.server = some (snapshot, health))
      (run : call.publishes codec health snapshot authority = .ok (some next))
      (silent : (∃ request nowMs, call = .reserve request nowMs) → disk ≠ .committed) :
      Moves codec host [] (host.publish snapshot next disk)
  /-- A call that is refused or publishes nothing. -/
  | unchanged {host : Host} : Moves codec host [] host
  /-- Another transaction of the scope, which leaves the ledger as it is. -/
  | other {host : Host} {snapshot next : Snapshot} {disk : Disk}
      (served : host.server = some (snapshot, .writable))
      (same : next.executionBudget = snapshot.executionBudget)
      (valid : validate codec next = .ok ()) :
      Moves codec host [] (host.publish snapshot next disk)
  | stopped {host : Host} : Moves codec host [] ⟨none, host.durable⟩
  | restarted {host : Host} {next : Snapshot} (down : host.server = none)
      (run : fromStore codec host.durable = .ok next) :
      Moves codec host [] ⟨some (next, .writable), next⟩
  /-- The writer goes away again with its first publication on the disk. -/
  | interrupted {host : Host} {next : Snapshot} (down : host.server = none)
      (run : fromStore codec host.durable = .ok next) : Moves codec host [] ⟨none, next⟩
  | openedReadOnly {host : Host} {reason : String} (down : host.server = none) :
      Moves codec host [] ⟨some (host.durable, .readOnly reason), host.durable⟩

abbrev History (codec : Codec) : Host → List WorkTokenRequest → Host → Prop :=
  Grants.Runs (Moves codec)

/- What every publication keeps of the records before it. -/

def reservation (snapshot : Snapshot) (id : String) : Option WorkTokenReservation :=
  snapshot.executionBudget.bind (fun budget => budget.reservations.lookup id)

/-- No reservation is lost, rewritten for another request or freed of its report. -/
def Extends (snapshot next : Snapshot) : Prop :=
  ∀ id record, reservation snapshot id = some record → ∃ later, reservation next id = some later ∧
    later.request = record.request ∧
    (record.overCapUsage.isSome = true → later.overCapUsage.isSome = true)

theorem extends_refl (snapshot : Snapshot) : Extends snapshot snapshot :=
  fun _ record found => ⟨record, found, rfl, id⟩

theorem extends_same (same : next.executionBudget = snapshot.executionBudget) :
    Extends snapshot next := by
  intro id record found
  refine ⟨record, ?_, rfl, fun overrun => overrun⟩
  rw [reservation, same]
  exact found

theorem recordBudget_budget (run : recordBudget codec snapshot budget = .ok next) :
    next.executionBudget = some budget := by
  obtain ⟨checked, _, same, published⟩ := recordBudget_ok run
  rw [publishAccounting_ok published, same]

theorem extends_put {id : String}
    (opened : snapshot.executionBudget = some budget) (made : next.executionBudget = some changed)
    (put : changed.reservations = budget.reservations.insert id record)
    (replaced : ∀ old, budget.reservations.lookup id = some old →
      record.request = old.request ∧
        (old.overCapUsage.isSome = true → record.overCapUsage.isSome = true)) :
    Extends snapshot next := by
  intro other old found
  rw [reservation, opened] at found
  rw [reservation, made, bind_some, put]
  by_cases same : other = id
  · subst same
    exact ⟨record, lookup_insert_self _ _ _, replaced old found⟩
  · exact ⟨old, by rw [lookup_insert_other _ _ same]; exact found, rfl,
      fun overrun => overrun⟩

theorem chargeReservation_reservations (run : chargeReservation budget record nowMs = .ok charged) :
    charged.reservations = budget.reservations.insert record.request.operationId record := by
  simp only [chargeReservation, bind_eq_ok, pure_eq_ok] at run
  obtain ⟨_, _, _, _, _, _, same⟩ := run
  rw [← same]

theorem refundReservation_reservations
    (run : refundReservation budget operationId old record = .ok refunded) :
    refunded.reservations = budget.reservations.insert operationId record := by
  simp only [refundReservation, bind_eq_ok, pure_eq_ok] at run
  obtain ⟨_, _, _, _, _, _, _, _, _, _, _, _, _, _, same⟩ := run
  rw [← same]

theorem configure_extends
    (run : configureWorkTokenBudgetInner codec health snapshot authority authorityEpoch
      expectedRevision limits = .ok (configuration, some next)) : Extends snapshot next := by
  obtain ⟨_, checked, _, published, same⟩ := configure_publishes run
  intro id record found
  obtain ⟨budget, opened, known⟩ := bind_eq_some_iff.1 found
  refine ⟨record, ?_, rfl, fun overrun => overrun⟩
  rw [publishAccounting_ok published, same, opened]
  exact known

theorem reserve_extends (admitted : Admitted snapshot request nowMs budget)
    (charges : chargeReservation budget (newReservation codec snapshot request nowMs) nowMs =
      .ok charged) (recorded : recordBudget codec snapshot charged = .ok next) :
    Extends snapshot next ∧
      reservation next request.operationId = some (newReservation codec snapshot request nowMs) := by
  have put := chargeReservation_reservations charges
  have made := recordBudget_budget recorded
  constructor
  · apply extends_put admitted.configured made put
    intro old found
    cases admitted.fresh.symm.trans found
  · rw [reservation, made, bind_some, put]
    exact lookup_insert_self _ _ _

theorem reported_extends (opened : snapshot.executionBudget = some budget)
    (replaces : Replaces budget operationId old record)
    (overrun : record.overCapUsage.isSome = true)
    (recorded : recordBudget codec snapshot (reported budget operationId record) = .ok next) :
    Extends snapshot next := by
  apply extends_put opened (recordBudget_budget recorded) rfl
  intro other found
  cases replaces.found.symm.trans found
  exact ⟨replaces.request, fun _ => overrun⟩

theorem call_extends {call : LedgerCall}
    (run : call.publishes codec health snapshot authority = .ok (some next)) :
    health = .writable ∧ Extends snapshot next := by
  cases call with
  | configure authorityEpoch expectedRevision limits =>
    obtain ⟨⟨_, _⟩, run, same⟩ := map_eq_ok.1 run
    cases same
    exact ⟨(configure_publishes run).1, configure_extends run⟩
  | reserve request nowMs =>
    obtain ⟨⟨_, _⟩, run, same⟩ := map_eq_ok.1 run
    cases same
    rcases reserve_ok run with ⟨none, _⟩ | ⟨budget, _, decided, same, _, charged, charges, recorded⟩
    · cases none
    · cases same
      obtain ⟨healthy, _, admitted⟩ := reserveDecision_admit decided
      exact ⟨healthy, (reserve_extends admitted charges recorded).1⟩
  | settle operationId requestHash receipt usage =>
    obtain ⟨⟨_, _⟩, run, same⟩ := map_eq_ok.1 run
    cases same
    rcases settle_publishes run with ⟨budget, record, decided, recorded⟩ |
      ⟨budget, old, record, decided, refunded, refunds, recorded⟩
    · obtain ⟨opened, _, _, overrun, replaces⟩ := settleDecision_overCap decided
      exact ⟨(settleDecision_ok decided).1, reported_extends opened replaces overrun recorded⟩
    · obtain ⟨opened, running, replaces⟩ := settleDecision_settle decided
      refine ⟨(settleDecision_ok decided).1, ?_⟩
      apply extends_put opened (recordBudget_budget recorded)
        (refundReservation_reservations refunds)
      intro other found
      cases replaces.found.symm.trans found
      rw [running]
      exact ⟨replaces.request, fun overrun => nomatch overrun⟩
  | report operationId requestHash receipt usage =>
    obtain ⟨⟨_, _⟩, run, same⟩ := map_eq_ok.1 run
    cases same
    obtain ⟨budget, decided, recorded⟩ := report_publishes run
    obtain ⟨healthy, opened, _, _, overrun, replaces⟩ := reportDecision_report decided
    exact ⟨healthy, reported_extends opened replaces overrun recorded⟩

/- Answers to a reservation that is already on record. -/

theorem reserveDecision_recorded (found : reservation snapshot request.operationId = some record)
    (run : reserveDecision codec health snapshot authority request nowMs = .ok decision) :
    record.request = request ∧ decision = .existing record := by
  obtain ⟨budget, opened, known⟩ := bind_eq_some_iff.1 found
  simp only [reserveDecision, bind_eq_ok, orElseErr_eq_ok] at run
  obtain ⟨_, _, _, _, _, _, _, _, _, _, other, same, run⟩ := run
  cases opened.symm.trans same
  simp only [known, bind_eq_ok, rejectIf_eq_ok, not_ne_iff, pure_eq_ok] at run
  obtain ⟨_, equal, answer⟩ := run
  exact ⟨equal, answer.symm⟩

theorem reserve_recorded (found : reservation snapshot request.operationId = some record)
    (run : reserveWorkTokenSubmission codec health snapshot authority request nowMs =
      .ok (answer, published)) :
    record.request = request ∧ answer = .existing record ∧ published = none := by
  simp only [reserveWorkTokenSubmission, bind_eq_ok] at run
  obtain ⟨decision, decided, run⟩ := run
  obtain ⟨equal, same⟩ := reserveDecision_recorded found decided
  subst same
  cases run
  exact ⟨equal, rfl, rfl⟩

theorem reserve_retried (valid : LedgerValid codec snapshot)
    (found : reservation snapshot request.operationId = some record)
    (equal : record.request = request) (bound : validateAuthority authority snapshot = .ok ())
    (trusted : authority.principal = .runtime) :
    reserveWorkTokenSubmission codec .writable snapshot authority request nowMs =
      .ok (.existing record, none) := by
  obtain ⟨budget, opened, known⟩ := bind_eq_some_iff.1 found
  have listed := (valid.budget budget opened).records _ record known
  rw [← equal] at known ⊢
  have decided : reserveDecision codec .writable snapshot authority record.request nowMs =
      .ok (.existing record) := by
    simp only [reserveDecision, bind_eq_ok, orElseErr_eq_ok, rejectIf_eq_ok, runtime_eq_ok,
      writable_eq_ok, not_or, not_ne_iff]
    refine ⟨(), bound, (), trusted, (), listed.request, (), trivial, (),
      ⟨listed.work, listed.link⟩, budget, opened, ?_⟩
    simp [known]
  simp only [reserveWorkTokenSubmission, bind_eq_ok]
  exact ⟨_, decided, rfl⟩

theorem reserve_halted {id : String} (found : reservation snapshot id = some record)
    (overrun : record.overCapUsage.isSome = true) (budget : WorkTokenBudget) :
    reserveDecision codec health snapshot authority request nowMs ≠ .ok (.admitted budget) := by
  intro run
  obtain ⟨_, _, admitted⟩ := reserveDecision_admit run
  rw [reservation, admitted.configured] at found
  rw [admitted.running id record found] at overrun
  cases overrun

/- The life of a store. -/

/-- A writer that may publish serves what is on the disk, and that ledger is valid. -/
def Sound (codec : Codec) (host : Host) : Prop :=
  ∀ snapshot health, host.server = some (snapshot, health) → Extends snapshot host.durable ∧
    (health = .writable → snapshot = host.durable ∧ LedgerValid codec snapshot)

def OnRecord (host : Host) (request : WorkTokenRequest) : Prop :=
  ∃ record, reservation host.durable request.operationId = some record ∧ record.request = request

def Apart (a b : WorkTokenRequest) : Prop := a.operationId ≠ b.operationId

def OverCapped (snapshot : Snapshot) : Prop :=
  ∃ id record, reservation snapshot id = some record ∧ record.overCapUsage.isSome = true

section Life
variable {codec : Codec} {host : Host}

theorem overCapped_extends (kept : Extends snapshot next)
    (overrun : OverCapped snapshot) : OverCapped next := by
  obtain ⟨id, record, found, reported⟩ := overrun
  obtain ⟨later, present, _, still⟩ := kept id record found
  exact ⟨id, later, present, still reported⟩

theorem sound_publish (sound : Sound codec host)
    (kept : Extends snapshot next) (valid : LedgerValid codec next) (disk : Disk) :
    Sound codec (host.publish snapshot next disk) := by
  cases disk with
  | committed =>
    intro served health same
    cases same
    exact ⟨extends_refl _, fun _ => ⟨rfl, valid⟩⟩
  | refused => exact sound
  | uncertain error =>
    intro served health same
    cases same
    exact ⟨kept, fun open' => nomatch open'⟩

theorem durable_publish (kept : Extends snapshot next)
    (current : snapshot = host.durable) (disk : Disk) :
    Extends host.durable (host.publish snapshot next disk).durable := by
  subst current
  cases disk with
  | committed => exact kept
  | refused => exact extends_refl _
  | uncertain _ => exact kept

theorem fromStore_ledger (run : fromStore codec snapshot = .ok next) :
    LedgerValid codec next ∧ Extends snapshot next := by
  obtain ⟨valid, same⟩ := fromStore_ok run
  have ledger := validateSnapshot_ledger valid
  have facts := publish_same (restarted snapshot (snapshot.authorityEpoch + 1))
  have budget : next.executionBudget = snapshot.executionBudget := by
    rw [same]
    unfold publish
    split <;> rfl
  have schema : next.schema = snapshot.schema := by
    rw [same]
    unfold publish
    split <;> rfl
  have seq : next.seq = snapshot.seq + 1 := by
    rw [same, publish_seq]
    rfl
  have scope : SameScope snapshot next := by
    rw [← same] at facts
    refine ⟨facts.binding, ?_, by rw [facts.project]; rfl, by omega, by omega⟩
    intro id
    rw [kindOf, kindOf, facts.tickets]
    rcases isolateWorks_lookup (snapshot.seq + 1) snapshot.assignments.values
        snapshot.tickets id with still | ⟨work, found, _, moved⟩
    · exact congrArg _ still
    · have kind : (some (awaitReconciliation (snapshot.seq + 1) work)).map (fun w => w.kind) =
          (some work).map (fun w => w.kind) := rfl
      rw [found, ← kind]
      exact congrArg _ moved
  refine ⟨⟨?_, ?_, ?_⟩, extends_same budget⟩
  · intro number numbered
    rw [same, publish] at numbered
    split at numbered
    · rename_i open'
      cases numbered
      rw [schema, seq]
      refine ⟨?_, le_rfl⟩
      rcases open' with opened | counted
      · obtain ⟨budget, known⟩ := isSome_iff_exists.1 opened
        exact (ledger.budget budget known).schema
      · obtain ⟨number, known⟩ := isSome_iff_exists.1 counted
        exact (ledger.facts number known).1
    · rename_i closed
      exact absurd (.inr (by rw [numbered]; rfl)) closed
  · rw [budget, schema]
    exact ledger.closed
  · intro other opened
    rw [budget] at opened
    exact budgetValid_same (ledger.budget other opened) scope

theorem validate_ledger (valid : validate codec next = .ok ()) :
    LedgerValid codec next := validate_iff.1 valid

theorem reserve_new
    (run : reserveWorkTokenSubmission codec health snapshot authority request nowMs =
      .ok (answer, some next)) :
    Accounts codec snapshot next ∧ health = .writable ∧ Extends snapshot next ∧
      newSubmission request answer = [request] ∧ ¬ OverCapped snapshot ∧
      reservation snapshot request.operationId = none ∧
      reservation next request.operationId =
        some (newReservation codec snapshot request nowMs) := by
  have call : (LedgerCall.reserve request nowMs).publishes codec health snapshot authority =
      .ok (some next) := map_eq_ok.2 ⟨_, run, rfl⟩
  rcases reserve_ok run with ⟨none, _⟩ | ⟨budget, _, decided, same, fresh, charged, charges, recorded⟩
  · cases none
  · cases same
    obtain ⟨healthy, _, admitted⟩ := reserveDecision_admit decided
    obtain ⟨kept, present⟩ := reserve_extends admitted charges recorded
    refine ⟨⟨health, authority, _, call⟩, healthy, kept, by rw [fresh]; rfl, ?_, ?_, present⟩
    · intro ⟨id, record, found, overrun⟩
      exact reserve_halted found overrun budget decided
    · rw [reservation, admitted.configured]
      exact admitted.fresh

/-- What one event does: it keeps the host sound and the durable records, and it grants a
    submission only for a request that had no record and now has one. -/
structure Moved (codec : Codec) (host : Host) (granted : List WorkTokenRequest) (after : Host) :
    Prop where
  sound : Sound codec after
  kept : Extends host.durable after.durable
  grant : granted = [] ∨ ∃ request, granted = [request] ∧ ¬ OverCapped host.durable ∧
    reservation host.durable request.operationId = none ∧ OnRecord after request

theorem moves_ok (sound : Sound codec host) (move : Moves codec host granted after) :
    Moved codec host granted after := by
  cases move with
  | @answered snapshot health authority request nowMs answer published served run =>
    cases published with
    | none =>
      rcases reserve_ok run with ⟨_, old⟩ | ⟨_, _, _, some, _⟩
      · refine ⟨sound, extends_refl _, .inl ?_⟩
        cases answer with
        | new record => exact absurd rfl (old record)
        | existing record => rfl
        | blocked block => rfl
      · cases some
    | some next =>
      obtain ⟨step, healthy, kept, grant, running, free, present⟩ := reserve_new run
      obtain ⟨current, valid⟩ := (sound snapshot health served).2 healthy
      refine ⟨sound_publish sound kept (accounts_ledger valid step) .committed,
        durable_publish kept current .committed, .inr ⟨request, grant, ?_, ?_, ?_⟩⟩
      · rw [← current]
        exact running
      · rw [← current]
        exact free
      · exact ⟨_, present, rfl⟩
  | @accounted snapshot next health authority call disk served run silent =>
    obtain ⟨healthy, kept⟩ := call_extends run
    obtain ⟨current, valid⟩ := (sound snapshot health served).2 healthy
    have step : Accounts codec snapshot next := ⟨health, authority, call, run⟩
    exact ⟨sound_publish sound kept (accounts_ledger valid step) disk,
      durable_publish kept current disk, .inl rfl⟩
  | unchanged => exact ⟨sound, extends_refl _, .inl rfl⟩
  | @other snapshot next disk served same valid =>
    obtain ⟨current, _⟩ := (sound snapshot .writable served).2 rfl
    have kept := extends_same same
    exact ⟨sound_publish sound kept (validate_ledger valid) disk,
      durable_publish kept current disk, .inl rfl⟩
  | stopped =>
    exact ⟨fun _ _ served => (nomatch served), extends_refl _, .inl rfl⟩
  | restarted down run =>
    obtain ⟨valid, kept⟩ := fromStore_ledger run
    refine ⟨?_, kept, .inl rfl⟩
    intro snapshot health served
    cases served
    exact ⟨extends_refl _, fun _ => ⟨rfl, valid⟩⟩
  | interrupted down run =>
    exact ⟨fun _ _ served => (nomatch served), (fromStore_ledger run).2, .inl rfl⟩
  | openedReadOnly down =>
    refine ⟨?_, extends_refl _, .inl rfl⟩
    intro snapshot health served
    cases served
    exact ⟨extends_refl _, fun writable => nomatch writable⟩

theorem moves_recorded : Grants.Recorded (Moves codec) (Sound codec) OnRecord Apart where
  stays := fun sound move => (moves_ok sound move).sound
  kept := by
    intro s t granted request sound move before
    obtain ⟨record, found, same⟩ := before
    obtain ⟨later, present, still, _⟩ := (moves_ok sound move).kept _ record found
    exact ⟨later, present, still.trans same⟩
  single := by
    intro s t granted move
    cases move with
    | @answered snapshot health authority request nowMs answer published served run =>
      cases answer with
      | new record => exact .inr ⟨request, rfl⟩
      | existing record => exact .inl rfl
      | blocked block => exact .inl rfl
    | _ => exact .inl rfl
  fresh := by
    intro s t request sound move
    rcases (moves_ok sound move).grant with none | ⟨_, same, _, free, present⟩
    · cases none
    · cases same
      refine ⟨present, ?_⟩
      intro old ⟨record, found, _⟩ clash
      rw [clash, free] at found
      cases found

theorem halted_history (sound : Sound codec host) (overrun : OverCapped host.durable)
    (run : History codec host granted after) : granted = [] ∧ OverCapped after.durable := by
  induction run with
  | refl => exact ⟨rfl, overrun⟩
  | tail first last ih =>
    obtain ⟨none, still⟩ := ih
    have moved := moves_ok (Grants.runs_sound moves_recorded sound first) last
    refine ⟨?_, overCapped_extends moved.kept still⟩
    rw [none]
    rcases moved.grant with nothing | ⟨_, _, running, _⟩
    · exact nothing
    · exact absurd still running

/-- The right to submit is given once, stays on record, and ends with an over-cap report. -/
structure OneRight (codec : Codec) (host : Host) (granted : List WorkTokenRequest) : Prop where
  once : (granted.map (fun request => request.operationId)).Nodup
  recorded : ∀ request ∈ granted, OnRecord host request
  current : ∀ snapshot, host.server = some (snapshot, .writable) → snapshot = host.durable
  retries : ∀ snapshot authority request nowMs record,
    host.server = some (snapshot, .writable) → validateAuthority authority snapshot = .ok () →
    authority.principal = .runtime → reservation snapshot request.operationId = some record →
    record.request = request →
    reserveWorkTokenSubmission codec .writable snapshot authority request nowMs =
      .ok (.existing record, none)
  replays : ∀ snapshot health authority request nowMs record answer published,
    host.server = some (snapshot, health) →
    reservation snapshot request.operationId = some record →
    reserveWorkTokenSubmission codec health snapshot authority request nowMs =
      .ok (answer, published) → answer = .existing record ∧ published = none
  conflicts : ∀ snapshot health authority request nowMs record,
    host.server = some (snapshot, health) →
    reservation snapshot request.operationId = some record → record.request ≠ request →
    ∃ failure, reserveWorkTokenSubmission codec health snapshot authority request nowMs =
      .error failure
  halted : ∀ snapshot, (snapshot = host.durable ∨
      ∃ health, host.server = some (snapshot, health)) → OverCapped snapshot →
    ∀ granted' after, History codec host granted' after → granted' = []

/-- Over every life of a store, one operation id gets at most one new submission. -/
theorem one_submission_right {start : Snapshot} (run : History codec ⟨none, start⟩ granted host) :
    OneRight codec host granted := by
  have opening : Sound codec ⟨none, start⟩ := fun _ _ served => nomatch served
  have sound := Grants.runs_sound moves_recorded opening run
  have apart := Grants.granted_apart moves_recorded opening run
  refine ⟨List.pairwise_map.mpr apart, Grants.granted_recorded moves_recorded opening run, ?_, ?_,
    ?_, ?_, ?_⟩
  · intro snapshot served
    exact ((sound snapshot .writable served).2 rfl).1
  · intro snapshot authority request nowMs record served bound trusted found equal
    have valid := ((sound snapshot .writable served).2 rfl).2
    exact reserve_retried valid found equal bound trusted
  · intro snapshot health authority request nowMs record answer published _ found answered
    exact (reserve_recorded found answered).2
  · intro snapshot health authority request nowMs record _ found different
    cases outcome : reserveWorkTokenSubmission codec health snapshot authority request nowMs with
    | error failure => exact ⟨failure, rfl⟩
    | ok result => exact absurd (reserve_recorded found outcome).1 different
  · intro snapshot seen overrun granted' later onwards
    have durable : OverCapped host.durable := by
      rcases seen with same | ⟨health, served⟩
      · exact same ▸ overrun
      · exact overCapped_extends (sound snapshot health served).1 overrun
    exact (halted_history sound durable onwards).1

end Life

end ExecutionBudget

namespace Sample
open ExecutionBudget

def opened : Snapshot := (fromStore codec staffed).toOption.getD staffed

def budgeted : Snapshot :=
  callAll codec opened [(user, .configure none 0
    (some ⟨SortedMap.empty.insert "a0" 1000, 400, 2000⟩))]

def asked : WorkTokenRequest := tokenRequest "first" 3

def submitted : Snapshot := callAll codec budgeted [(runtime, .reserve asked 5)]

def reopened : Snapshot := (fromStore codec submitted).toOption.getD submitted

theorem restartedLedger :
    History codec ⟨none, staffed⟩ [asked] ⟨some (reopened, .writable), reopened⟩ := by
  have opens : fromStore codec staffed = .ok opened := toOption_ok (by decide +kernel)
  have configures : (LedgerCall.configure none 0
      (some ⟨SortedMap.empty.insert "a0" 1000, 400, 2000⟩)).publishes codec .writable opened user =
      .ok (some budgeted) := toOption_ok (by decide +kernel)
  have reserves : reserveWorkTokenSubmission codec .writable budgeted runtime asked 5 =
      .ok (.new (newReservation codec budgeted asked 5), some submitted) :=
    toOption_ok (by decide +kernel)
  have reopens : fromStore codec submitted = .ok reopened := toOption_ok (by decide +kernel)
  have served : History codec ⟨none, staffed⟩ [] ⟨some (opened, .writable), opened⟩ :=
    (Grants.Runs.refl _).tail (.restarted rfl opens)
  have noted : Moves codec ⟨some (opened, .writable), opened⟩ []
      (Host.publish ⟨some (opened, .writable), opened⟩ opened budgeted .committed) :=
    .accounted rfl configures (fun ⟨_, _, same⟩ => nomatch same)
  have configured : History codec ⟨none, staffed⟩ [] ⟨some (budgeted, .writable), budgeted⟩ :=
    served.tail noted
  have granted : History codec ⟨none, staffed⟩ [asked] ⟨some (submitted, .writable), submitted⟩ :=
    configured.tail (.answered rfl reserves)
  exact (granted.tail .stopped).tail (.restarted rfl reopens)

end Sample

theorem ExecutionBudget.one_submission_right_restarted :
    OneRight Sample.codec ⟨some (Sample.reopened, .writable), Sample.reopened⟩ [Sample.asked] :=
  one_submission_right Sample.restartedLedger

end Tickets
