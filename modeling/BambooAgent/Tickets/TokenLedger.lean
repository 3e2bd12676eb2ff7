import BambooAgent.Tickets.TokenValidation
import BambooAgent.Tickets.Scripts

/- The running counters of the token ledger, kept up by differences, never part from the
   sums its check recomputes from the records. -/
namespace Tickets
open SortedMaps Tallies SortedMap Option

namespace ExecutionBudget

def kindOf (snapshot : Snapshot) (id : String) : Option TicketKind :=
  (snapshot.tickets.lookup id).map (fun work => work.kind)

/-- Two snapshots that are the same to the ledger, but for its own records. -/
structure SameScope (snapshot next : Snapshot) : Prop where
  binding : next.binding = snapshot.binding
  kinds : ∀ id, kindOf next id = kindOf snapshot id
  links : next.project.links = snapshot.project.links
  seq : snapshot.seq ≤ next.seq
  schema : snapshot.schema ≤ next.schema

/-- Reservations, settlements and reports leave the User's decisions alone. -/
structure SameTerms (budget changed : WorkTokenBudget) : Prop where
  revision : changed.revision = budget.revision
  limits : changed.limits = budget.limits
  configurations : changed.configurations = budget.configurations

section
variable (same : SameScope snapshot next)
include same

theorem limitsValid_transfer
    (valid : limitsValid limits snapshot = .ok ()) : limitsValid limits next = .ok () := by
  cases limits with
  | none => rfl
  | some limits =>
    simp only [limitsValid, bind_eq_ok, each_eq_ok, rejectIf_eq_ok] at valid ⊢
    obtain ⟨_, bounded, works⟩ := valid
    refine ⟨(), bounded, ?_⟩
    intro entry member
    have known := works entry member
    rw [← kindOf] at ⊢
    rw [same.kinds]
    exact known

theorem validateConfiguration_transfer (audit : changed.configurations = budget.configurations)
    (valid : validateConfiguration budget snapshot revision = .ok ()) :
    validateConfiguration changed next revision = .ok () := by
  simp only [validateConfiguration, bind_eq_ok, orElseErr_eq_ok, rejectIf_eq_ok, not_or,
    not_lt] at valid ⊢
  obtain ⟨configuration, found, _, ⟨revision, user, short, committed⟩, limits⟩ := valid
  exact ⟨configuration, audit ▸ found, (),
    ⟨revision, user, short, le_trans committed same.seq⟩, limitsValid_transfer same limits⟩

theorem recordValid_transfer
    (onwards : ∀ today, day = some today → ∃ now, later = some now ∧ today ≤ now) {id : String}
    (valid : RecordValid codec snapshot day id record) :
    RecordValid codec next later id record := by
  obtain ⟨today, current, late⟩ := valid.day
  obtain ⟨now, after, order⟩ := onwards today current
  refine ⟨valid.request, ?_, ?_, valid.overCap, valid.identity, ?_,
    ⟨now, after, le_trans late order⟩, valid.measured⟩
  · exact (same.kinds _).trans valid.work
  · rw [same.links]
    exact valid.link
  · rw [same.binding]
    exact valid.receipt

end

theorem budgetValid_transfer (valid : BudgetValid codec snapshot budget)
    (same : SameScope snapshot next)
    (kept : SameTerms budget changed)
    (capacity : changed.reservations.size ≤ maxRecords)
    (records : ∀ id record, changed.reservations.lookup id = some record →
      RecordValid codec next changed.currentUtcDay id record)
    (exact : Exact changed)
    (within : ∀ limits, budget.limits = some limits → WithinLimits changed limits)
    (clock : changed.lastReservationMs.map (fun ms => ms / dayMs) = changed.currentUtcDay) :
    BudgetValid codec next changed := by
  obtain ⟨revision, limits, audit⟩ := kept
  refine ⟨le_trans valid.schema same.schema, ?_, capacity, ?_, ?_, ?_, ?_, records, exact,
    ?_, clock⟩
  · rw [revision]
    exact valid.revision
  · rw [limits]
    exact limitsValid_transfer same valid.limits
  · rw [audit, revision]
    exact valid.audited
  · rw [revision]
    intro earlier before
    exact validateConfiguration_transfer same audit (valid.configurations earlier before)
  · rw [audit, revision, limits]
    exact valid.decided
  · rw [limits]
    exact within

theorem budgetValid_same (valid : BudgetValid codec snapshot budget)
    (same : SameScope snapshot next) : BudgetValid codec next budget := by
  apply budgetValid_transfer valid same ⟨rfl, rfl, rfl⟩ valid.capacity _ valid.exact valid.within
    valid.clock
  intro id record found
  exact recordValid_transfer same (fun today current => ⟨today, current, le_rfl⟩)
    (valid.records id record found)

/- A new reservation. -/

/-- What a reservation that passed every check is known to meet. -/
structure Admitted (snapshot : Snapshot) (request : WorkTokenRequest) (nowMs : Nat)
    (budget : WorkTokenBudget) : Prop where
  bounded : validRequest request = .ok ()
  work : (snapshot.tickets.lookup request.workId).map (fun work => work.kind) = some .work
  link : snapshot.project.links.lookup request.workId = some request.projectId
  configured : snapshot.executionBudget = some budget
  fresh : budget.reservations.lookup request.operationId = none
  clock : ∀ last, budget.lastReservationMs = some last → last ≤ nowMs
  running : ∀ id record, budget.reservations.lookup id = some record → record.overCapUsage = none
  capacity : budget.reservations.size < maxRecords
  limits : ∀ limits, budget.limits = some limits →
    limitsBlock budget request (nowMs / dayMs) limits = none

theorem writable_eq_ok :
    writable health = .ok u ↔ health = .writable := by
  simp [writable]

theorem runtime_eq_ok :
    runtime authority = .ok u ↔ authority.principal = .runtime := by
  unfold runtime
  split <;> simp_all

theorem reservationBlock_none (free : reservationBlock budget request nowMs = none) :
    (∀ id record, budget.reservations.lookup id = some record → record.overCapUsage = none) ∧
      budget.reservations.size < maxRecords ∧
      ∀ limits, budget.limits = some limits →
        limitsBlock budget request (nowMs / dayMs) limits = none := by
  unfold reservationBlock at free
  split at free
  · cases free
  · rename_i running
    split at free
    · cases free
    · rename_i room
      refine ⟨?_, Nat.lt_of_not_le room, ?_⟩
      · intro id record found
        rw [List.any_eq_true] at running
        cases reported : record.overCapUsage with
        | none => rfl
        | some usage =>
          exact absurd ⟨record, mem_values.2 ⟨id, found⟩, by rw [reported]; rfl⟩ running
      · intro limits chosen
        rw [chosen] at free
        exact free

theorem reserveDecision_admit
    (run : reserveDecision codec health snapshot authority request nowMs = .ok (.admitted budget)) :
    health = .writable ∧ authority.principal = .runtime ∧
      Admitted snapshot request nowMs budget := by
  simp only [reserveDecision, bind_eq_ok, rejectIf_eq_ok, orElseErr_eq_ok, writable_eq_ok,
    runtime_eq_ok, not_or, not_ne_iff] at run
  obtain ⟨_, _, _, trusted, _, valid, _, healthy, _, ⟨work, link⟩, found, configured, run⟩ := run
  refine ⟨healthy, trusted, ?_⟩
  cases known : found.reservations.lookup request.operationId with
  | some record => simp [known] at run
  | none =>
    simp only [known, bind_eq_ok, rejectIf_eq_ok] at run
    obtain ⟨_, _, _, _, _, regressed, run⟩ := run
    cases free : reservationBlock found request nowMs with
    | some block => simp [free] at run
    | none =>
      simp only [free, pure_eq_ok, ReserveDecision.admitted.injEq] at run
      subst run
      obtain ⟨running, room, limits⟩ := reservationBlock_none free
      refine ⟨valid, work, link, configured, known, ?_, running, room, limits⟩
      intro last set
      simpa [set] using regressed

theorem limitsBlock_none (free : limitsBlock budget request day limits = none) :
    (∃ limit, limits.workTokens.lookup request.workId = some limit ∧
        requestTokens request ≤
          limit - (budget.workCharged.lookup request.workId).getD 0) ∧
      requestTokens request ≤ limits.utcDayTokens - dailySpent budget day ∧
      requestTokens request ≤ limits.totalTokens - budget.totalCharged := by
  unfold limitsBlock at free
  cases known : limits.workTokens.lookup request.workId with
  | none => simp [known] at free
  | some limit =>
    simp only [known, decide_eq_true_eq] at free
    split at free
    · cases free
    · split at free
      · cases free
      · split at free
        · cases free
        · exact ⟨⟨limit, rfl, by omega⟩, by omega, by omega⟩

/-- The budget a reservation leaves when none of its counters overflows. -/
def admittedBudget (budget : WorkTokenBudget) (record : WorkTokenReservation) (nowMs : Nat) :
    WorkTokenBudget :=
  { budget with
    currentUtcDay := some record.utcDay
    lastReservationMs := some nowMs
    dailyCharged := dailySpent budget record.utcDay + requestTokens record.request
    totalCharged := budget.totalCharged + requestTokens record.request
    workCharged := budget.workCharged.insert record.request.workId
      ((budget.workCharged.lookup record.request.workId).getD 0 + requestTokens record.request)
    reservations := budget.reservations.insert record.request.operationId record }

theorem admittedBudget_terms (budget : WorkTokenBudget) (record : WorkTokenReservation)
    (nowMs : Nat) : SameTerms budget (admittedBudget budget record nowMs) := ⟨rfl, rfl, rfl⟩

theorem works_le_total (exact : Exact budget) (work : String) :
    (budget.workCharged.lookup work).getD 0 ≤ budget.totalCharged := by
  rw [tallied_getD exact.works, exact.total]
  apply total_mono
  intro id record _
  unfold weightIn
  split
  · exact le_rfl
  · exact Nat.zero_le _

theorem daily_le_total (exact : Exact budget) : budget.dailyCharged ≤ budget.totalCharged := by
  rw [exact.daily, exact.total]
  apply total_mono
  intro id record _
  exact dayWeight_le _ _

section
variable (valid : BudgetValid codec snapshot budget)
include valid

theorem chargeReservation_ok (requested : validRequest record.request = .ok ()) :
    chargeReservation budget record nowMs = .ok (admittedBudget budget record nowMs) := by
  have caps := validRequest_caps requested
  have bounded := reservations_fit valid.capacity valid.records
  have whole := valid.exact.total
  have daily : dailySpent budget record.utcDay ≤ budget.totalCharged := by
    have part := daily_le_total valid.exact
    unfold dailySpent
    split
    · exact part
    · exact Nat.zero_le _
  have work := works_le_total valid.exact record.request.workId
  simp only [chargeReservation, requestTokens, bind_eq_ok, orElseErr_eq_ok, checkedAdd_eq_some,
    pure_eq_ok]
  exact ⟨_, ⟨by omega, rfl⟩, _, ⟨by omega, rfl⟩, _, ⟨by omega, rfl⟩, rfl⟩

theorem dailySpent_eq (clock : ∀ last, budget.lastReservationMs = some last → last ≤ nowMs) :
    dailySpent budget (nowMs / dayMs) =
      Tallies.total (dayWeight (some (nowMs / dayMs))) budget.reservations := by
  unfold dailySpent
  split
  · rename_i today
    rw [today]
    exact valid.exact.daily
  · rename_i turned
    symm
    apply total_zero
    intro id record found
    obtain ⟨today, current, late⟩ := (valid.records id record found).day
    have noted := valid.clock
    rw [current, map_eq_some_iff] at noted
    obtain ⟨last, set, same⟩ := noted
    have onwards : today ≤ nowMs / dayMs := same ▸ Nat.div_le_div_right (clock last set)
    apply if_neg
    intro sameDay
    rw [some.inj sameDay] at late
    rw [current] at turned
    exact turned (congrArg some (le_antisymm late onwards))

section
variable (admitted : Admitted snapshot request nowMs budget)
include admitted

theorem admitted_exact :
    Exact (admittedBudget budget (newReservation codec snapshot request nowMs) nowMs) := by
  have added : ∀ weight : WorkTokenReservation → Nat,
      Tallies.total weight (budget.reservations.insert request.operationId
        (newReservation codec snapshot request nowMs)) =
      Tallies.total weight budget.reservations +
        weight (newReservation codec snapshot request nowMs) :=
    fun _ => total_new _ admitted.fresh
  refine ⟨?_, ?_, ?_⟩
  · calc budget.totalCharged + requestTokens request
        = Tallies.total weight budget.reservations +
            weight (newReservation codec snapshot request nowMs) := by
          rw [valid.exact.total]
          rfl
      _ = _ := (added weight).symm
  · have spent := dailySpent_eq valid admitted.clock
    have today : dayWeight (some (nowMs / dayMs)) (newReservation codec snapshot request nowMs) =
        requestTokens request := if_pos rfl
    calc dailySpent budget (nowMs / dayMs) + requestTokens request
        = Tallies.total (dayWeight (some (nowMs / dayMs))) budget.reservations +
            dayWeight (some (nowMs / dayMs)) (newReservation codec snapshot request nowMs) := by
          rw [spent, today]
      _ = _ := (added _).symm
  · apply tallied_insert valid.exact.works
    · intro old found
      cases admitted.fresh.symm.trans found
    · have whole := added (weightIn workOf weight request.workId)
      have here : weightIn workOf weight request.workId
          (newReservation codec snapshot request nowMs) = requestTokens request := if_pos rfl
      rw [here] at whole
      exact (congrArg (· + requestTokens request)
        (tallied_getD valid.exact.works request.workId)).trans whole.symm

theorem admitted_within (chosen : budget.limits = some limits) :
    WithinLimits (admittedBudget budget (newReservation codec snapshot request nowMs) nowMs)
      limits := by
  have before := valid.within limits chosen
  have positive := (validRequest_caps admitted.bounded).1
  obtain ⟨⟨limit, known, work⟩, day, total⟩ := limitsBlock_none (admitted.limits limits chosen)
  have tokens : 0 < requestTokens request := by
    unfold requestTokens
    omega
  refine ⟨?_, ?_, ?_⟩
  · show budget.totalCharged + requestTokens request ≤ limits.totalTokens
    omega
  · show dailySpent budget (nowMs / dayMs) + requestTokens request ≤ limits.utcDayTokens
    omega
  · intro charged used found
    by_cases same : charged = request.workId
    · subst same
      have sum : used = (budget.workCharged.lookup request.workId).getD 0 +
          requestTokens request :=
        (some.inj ((lookup_insert_self _ _ _).symm.trans found)).symm
      exact ⟨limit, known, by omega⟩
    · exact before.works charged used ((lookup_insert_other _ _ same).symm.trans found)

theorem admitted_records (same : SameScope snapshot next) {id : String}
    (found : (budget.reservations.insert request.operationId
      (newReservation codec snapshot request nowMs)).lookup id = some record) :
    RecordValid codec next (some (nowMs / dayMs)) id record := by
  by_cases here : id = request.operationId
  · subst here
    rw [lookup_insert_self] at found
    cases found
    refine ⟨admitted.bounded, ?_, ?_, ?_, rfl, ?_, ⟨_, rfl, le_rfl⟩, ?_⟩
    · exact (same.kinds _).trans admitted.work
    · rw [same.links]
      exact admitted.link
    · intro usage reported
      cases reported
    · rw [same.binding]
      rfl
    · intro inputTokens outputTokens settled
      cases settled
  · rw [lookup_insert_other _ _ here] at found
    apply recordValid_transfer same _ (valid.records id record found)
    intro today current
    have noted := valid.clock
    rw [current, map_eq_some_iff] at noted
    obtain ⟨last, set, sameDay⟩ := noted
    exact ⟨_, rfl, sameDay ▸ Nat.div_le_div_right (admitted.clock last set)⟩

theorem admitted_valid (same : SameScope snapshot next) :
    BudgetValid codec next
      (admittedBudget budget (newReservation codec snapshot request nowMs) nowMs) := by
  apply budgetValid_transfer valid same (admittedBudget_terms _ _ _)
  · show (budget.reservations.insert request.operationId _).size ≤ maxRecords
    rw [size_new _ admitted.fresh]
    exact admitted.capacity
  · intro id record found
    exact admitted_records valid admitted same found
  · exact admitted_exact valid admitted
  · intro limits chosen
    exact admitted_within valid admitted chosen
  · rfl

end

end

/- A record that a settlement or a report replaces. -/

/-- The same reservation, charged no more than before. -/
structure Replaces (budget : WorkTokenBudget) (operationId : String)
    (old record : WorkTokenReservation) : Prop where
  found : budget.reservations.lookup operationId = some old
  request : record.request = old.request
  receipt : record.receipt = old.receipt
  utcDay : record.utcDay = old.utcDay
  overCap : ∀ usage, record.overCapUsage = some usage →
    exceeds usage record.request = true ∧ isKnown record.usage = false
  measured : Measured record
  cheaper : weight record ≤ weight old

/-- The budget a settlement leaves when none of its refunds underflows. -/
def settledBudget (budget : WorkTokenBudget) (operationId : String)
    (old record : WorkTokenReservation) : WorkTokenBudget :=
  { budget with
    totalCharged := budget.totalCharged - (weight old - weight record)
    workCharged := budget.workCharged.insert record.request.workId
      ((budget.workCharged.lookup record.request.workId).getD 0 - (weight old - weight record))
    dailyCharged := if some record.utcDay = budget.currentUtcDay then
      budget.dailyCharged - (weight old - weight record) else budget.dailyCharged
    reservations := budget.reservations.insert operationId record }

theorem Replaces.sameWork (replaces : Replaces budget operationId old record) :
    workOf record = workOf old := by
  unfold workOf
  rw [replaces.request]

theorem settledBudget_terms (budget : WorkTokenBudget) (operationId : String)
    (old record : WorkTokenReservation) :
    SameTerms budget (settledBudget budget operationId old record) := ⟨rfl, rfl, rfl⟩

theorem dayWeight_today (today : some record.utcDay = day) :
    dayWeight day record = weight record := if_pos today

theorem dayWeight_other (other : some record.utcDay ≠ day) :
    dayWeight day record = 0 := if_neg other

theorem charged_at_least (exact : Exact budget)
    (found : budget.reservations.lookup operationId = some old) :
    weight old ≤ budget.totalCharged ∧
      (some old.utcDay = budget.currentUtcDay → weight old ≤ budget.dailyCharged) ∧
      ∃ spent, budget.workCharged.lookup (workOf old) = some spent ∧ weight old ≤ spent := by
  refine ⟨?_, ?_, ?_⟩
  · rw [exact.total]
    exact weight_le_total weight found
  · intro today
    have counted : dayWeight budget.currentUtcDay old ≤ budget.dailyCharged := by
      rw [exact.daily]
      exact weight_le_total _ found
    rwa [dayWeight, if_pos today] at counted
  · obtain ⟨spent, known⟩ := (exact.works.present (workOf old)).2 ⟨_, old, found, rfl⟩
    have counted : weightIn workOf weight (workOf old) old ≤ spent := by
      rw [exact.works.sum _ _ known]
      exact weight_le_total _ found
    rw [weightIn, if_pos rfl] at counted
    exact ⟨spent, known, counted⟩

theorem settled_exact (exact : Exact budget) (replaces : Replaces budget operationId old record) :
    Exact (settledBudget budget operationId old record) := by
  have cheaper := replaces.cheaper
  have sameWork := replaces.sameWork
  obtain ⟨whole, today, spent, known, group⟩ := charged_at_least exact replaces.found
  have moved : ∀ weight : WorkTokenReservation → Nat,
      Tallies.total weight (budget.reservations.insert operationId record) + weight old =
        Tallies.total weight budget.reservations + weight record :=
    fun _ => total_put _ replaces.found
  refine ⟨?_, ?_, ?_⟩
  · have sum := moved weight
    have before := exact.total
    show budget.totalCharged - (weight old - weight record) = Tallies.total weight
      (budget.reservations.insert operationId record)
    omega
  · have sum := moved (dayWeight budget.currentUtcDay)
    have before := exact.daily
    show (if some record.utcDay = budget.currentUtcDay then
      budget.dailyCharged - (weight old - weight record) else budget.dailyCharged) =
        Tallies.total (dayWeight budget.currentUtcDay)
          (budget.reservations.insert operationId record)
    by_cases here : some record.utcDay = budget.currentUtcDay
    · rw [dayWeight_today here, dayWeight_today (replaces.utcDay ▸ here)] at sum
      rw [if_pos here]
      omega
    · rw [dayWeight_other here, dayWeight_other (replaces.utcDay ▸ here)] at sum
      rw [if_neg here]
      omega
  · apply tallied_insert exact.works
    · intro other found
      cases replaces.found.symm.trans found
      exact sameWork
    · have sum := moved (weightIn workOf weight (workOf record))
      have before := exact.works.sum _ _ known
      have here : weightIn workOf weight (workOf record) record = weight record := if_pos rfl
      have there : weightIn workOf weight (workOf record) old = weight old :=
        if_pos sameWork.symm
      rw [here, there] at sum
      show (budget.workCharged.lookup (workOf record)).getD 0 - (weight old - weight record) =
        Tallies.total (weightIn workOf weight (workOf record))
          (budget.reservations.insert operationId record)
      rw [sameWork] at sum ⊢
      rw [known, getD_some]
      omega

theorem settled_within (within : WithinLimits budget limits) (exact : Exact budget)
    (replaces : Replaces budget operationId old record) :
    WithinLimits (settledBudget budget operationId old record) limits := by
  have sameWork := replaces.sameWork
  obtain ⟨_, _, spent, known, _⟩ := charged_at_least exact replaces.found
  refine ⟨le_trans (Nat.sub_le _ _) within.total, ?_, ?_⟩
  · show (if some record.utcDay = budget.currentUtcDay then
      budget.dailyCharged - (weight old - weight record) else budget.dailyCharged) ≤ _
    have daily := within.daily
    split
    · omega
    · exact daily
  · intro work used found
    change (budget.workCharged.insert (workOf record) _).lookup work = some used at found
    by_cases same : work = workOf record
    · subst same
      rw [lookup_insert_self] at found
      cases found
      obtain ⟨limit, bound, kept⟩ := within.works _ _ known
      refine ⟨limit, sameWork ▸ bound, ?_⟩
      change (budget.workCharged.lookup (workOf record)).getD 0 - _ ≤ limit
      rw [sameWork, known, getD_some]
      omega
    · rw [lookup_insert_other _ _ same] at found
      exact within.works work used found

section
variable (valid : BudgetValid codec snapshot budget)
include valid

section
variable (replaces : Replaces budget operationId old record)
include replaces

theorem settled_records (same : SameScope snapshot next) {id : String}
    (found : (budget.reservations.insert operationId record).lookup id = some kept) :
    RecordValid codec next budget.currentUtcDay id kept := by
  have still : ∀ today, budget.currentUtcDay = some today →
      ∃ now, budget.currentUtcDay = some now ∧ today ≤ now :=
    fun today current => ⟨today, current, le_rfl⟩
  by_cases here : id = operationId
  · subst here
    rw [lookup_insert_self] at found
    cases found
    have before := recordValid_transfer same still (valid.records _ old replaces.found)
    refine ⟨?_, ?_, ?_, replaces.overCap, ?_, ?_, ?_, replaces.measured⟩
    · rw [replaces.request]
      exact before.request
    · rw [replaces.request]
      exact before.work
    · rw [replaces.request]
      exact before.link
    · rw [replaces.request]
      exact before.identity
    · rw [replaces.receipt, replaces.request]
      exact before.receipt
    · rw [replaces.utcDay]
      exact before.day
  · rw [lookup_insert_other _ _ here] at found
    exact recordValid_transfer same still (valid.records id kept found)

theorem settled_valid (same : SameScope snapshot next) :
    BudgetValid codec next (settledBudget budget operationId old record) := by
  apply budgetValid_transfer valid same (settledBudget_terms _ _ _ _)
  · show (budget.reservations.insert operationId record).size ≤ maxRecords
    rw [size_put _ replaces.found]
    exact valid.capacity
  · intro id kept found
    exact settled_records valid replaces same found
  · exact settled_exact valid.exact replaces
  · intro limits chosen
    exact settled_within (valid.within limits chosen) valid.exact replaces
  · exact valid.clock

theorem refundReservation_ok :
    refundReservation budget operationId old record =
      .ok (settledBudget budget operationId old record) := by
  have known := valid.records _ old replaces.found
  have cheaper := replaces.cheaper
  have sameWork : record.request.workId = workOf old := replaces.sameWork
  obtain ⟨whole, today, spent, charged, group⟩ := charged_at_least valid.exact replaces.found
  have before : charge old = .ok (weight old) :=
    (charge_eq_ok known.request).2 ⟨known.measured, rfl⟩
  have after : charge record = .ok (weight record) :=
    (charge_eq_ok (by rw [replaces.request]; exact known.request)).2 ⟨replaces.measured, rfl⟩
  have daily : refundDay budget record.utcDay (weight old - weight record) =
      .ok (settledBudget budget operationId old record).dailyCharged := by
    unfold refundDay settledBudget
    rw [replaces.utcDay]
    split
    · rename_i here
      have kept := today here
      rw [orElseErr_eq_ok, checkedSub_eq_some]
      exact ⟨by omega, rfl⟩
    · rfl
  simp only [refundReservation, bind_eq_ok, orElseErr_eq_ok, checkedSub_eq_some, pure_eq_ok]
  refine ⟨_, before, _, after, _, ⟨cheaper, rfl⟩, _, ⟨by omega, rfl⟩, spent, ?_, _,
    ⟨by omega, rfl⟩, _, daily, ?_⟩
  · rw [sameWork]
    exact charged
  · simp only [settledBudget, sameWork, charged, getD_some]

end

end

theorem reported_settled (exact : Exact budget)
    (replaces : Replaces budget operationId old record) (cost : weight record = weight old) :
    reported budget operationId record = settledBudget budget operationId old record := by
  obtain ⟨_, _, spent, known, _⟩ := charged_at_least exact replaces.found
  have sameWork : record.request.workId = workOf old := replaces.sameWork
  have still : budget.workCharged.insert (workOf old) spent = budget.workCharged :=
    insert_lookup_self known
  simp only [reported, settledBudget, cost, Nat.sub_self, Nat.sub_zero, ite_self, sameWork, known,
    getD_some, still]

/- What the checks of a settlement and of a report establish. -/

theorem receiptRecord_ok (run : receiptRecord ledger operationId requestHash receipt = .ok old) :
    ∃ budget, ledger = some budget ∧ budget.reservations.lookup operationId = some old := by
  simp only [receiptRecord, bind_eq_ok, orElseErr_eq_ok, pure_eq_ok, bind_eq_some_iff] at run
  obtain ⟨_, ⟨budget, opened, found⟩, _, _, same⟩ := run
  exact ⟨budget, opened, same ▸ found⟩

theorem weight_unsettled (unsettled : isKnown record.usage = false) :
    weight record = requestTokens record.request := by
  unfold weight
  split
  · rename_i settled
    rw [settled] at unsettled
    cases unsettled
  · rfl

theorem replaces_reported (found : budget.reservations.lookup operationId = some old)
    (unsettled : isKnown old.usage = false) (proved : exceeds report old.request = true) :
    Replaces budget operationId old { old with overCapUsage := some report } where
  found := found
  request := rfl
  receipt := rfl
  utcDay := rfl
  overCap := by
    intro usage reported
    cases reported
    exact ⟨proved, unsettled⟩
  measured := by
    intro inputTokens outputTokens settled
    rw [settled] at unsettled
    cases unsettled
  cheaper := le_rfl

theorem replaces_measured (found : budget.reservations.lookup operationId = some old)
    (running : old.overCapUsage = none) (unsettled : isKnown old.usage = false)
    (fits : ∀ inputTokens outputTokens, usage = .known inputTokens outputTokens →
      inputTokens ≤ old.request.inputCap ∧ outputTokens ≤ old.request.outputCap) :
    Replaces budget operationId old { old with usage := some usage } := by
  have measured : Measured { old with usage := some usage } := by
    intro inputTokens outputTokens settled
    exact fits inputTokens outputTokens (some.inj settled)
  refine ⟨found, rfl, rfl, rfl, ?_, measured, ?_⟩
  · intro report reported
    cases running.symm.trans reported
  · rw [weight_unsettled unsettled]
    exact weight_measured measured

theorem settleDecision_ok
    (run : settleDecision health snapshot authority operationId requestHash receipt usage =
      .ok decision) :
    health = .writable ∧ ∃ budget old, snapshot.executionBudget = some budget ∧
      budget.reservations.lookup operationId = some old ∧ old.overCapUsage = none ∧
      (decision = .unchanged old ∨
        (isKnown old.usage = false ∧ decision = measured budget old usage)) := by
  simp only [settleDecision, bind_eq_ok, rejectIf_eq_ok, orElseErr_eq_ok, writable_eq_ok] at run
  obtain ⟨_, _, _, _, _, healthy, budget, opened, old, named, _, running, run⟩ := run
  obtain ⟨_, same, found⟩ := receiptRecord_ok named
  cases same
  refine ⟨healthy, budget, old, opened, found, by simpa using running, ?_⟩
  split at run
  · exact .inl (pure_eq_ok.1 run).symm
  · simp only [bind_eq_ok, rejectIf_eq_ok, pure_eq_ok, Bool.not_eq_true] at run
    obtain ⟨_, unsettled, same⟩ := run
    exact .inr ⟨unsettled, same.symm⟩

theorem settleDecision_settle
    (run : settleDecision health snapshot authority operationId requestHash receipt usage =
      .ok (.settle budget old record)) :
    snapshot.executionBudget = some budget ∧ old.overCapUsage = none ∧
      Replaces budget operationId old record := by
  obtain ⟨_, _, _, opened, found, running, either⟩ := settleDecision_ok run
  rcases either with unchanged | ⟨unsettled, decided⟩
  · cases unchanged
  · cases usage with
    | unknown =>
      cases decided
      exact ⟨opened, running,
        replaces_measured found running unsettled (by intro i o known; cases known)⟩
    | known inputTokens outputTokens =>
      rw [measured] at decided
      split at decided
      · cases decided
      · cases decided
        refine ⟨opened, running, replaces_measured found running unsettled ?_⟩
        intro i o known
        cases known
        exact ⟨by omega, by omega⟩

theorem settleDecision_overCap
    (run : settleDecision health snapshot authority operationId requestHash receipt usage =
      .ok (.overCap budget record)) :
    snapshot.executionBudget = some budget ∧ ∃ old, weight record = weight old ∧
      record.overCapUsage.isSome = true ∧ Replaces budget operationId old record := by
  obtain ⟨_, _, old, opened, found, running, either⟩ := settleDecision_ok run
  rcases either with unchanged | ⟨unsettled, decided⟩
  · cases unchanged
  · cases usage with
    | unknown => cases decided
    | known inputTokens outputTokens =>
      rw [measured] at decided
      split at decided
      · rename_i overrun
        cases decided
        refine ⟨opened, old, rfl, rfl, replaces_reported found unsettled ?_⟩
        simpa [exceeds] using overrun
      · cases decided

theorem reportDecision_report
    (run : reportDecision health snapshot authority operationId requestHash receipt report =
      .ok (.report budget record)) :
    health = .writable ∧ snapshot.executionBudget = some budget ∧
      ∃ old, weight record = weight old ∧ record.overCapUsage.isSome = true ∧
        Replaces budget operationId old record := by
  simp only [reportDecision, bind_eq_ok, writable_eq_ok] at run
  obtain ⟨_, _, _, _, _, healthy, old, named, run⟩ := run
  obtain ⟨_, opened, found⟩ := receiptRecord_ok named
  cases noted : old.overCapUsage with
  | some previous => simp [noted] at run
  | none =>
    simp only [noted, bind_eq_ok, rejectIf_eq_ok, expect_eq_ok, pure_eq_ok, not_or] at run
    obtain ⟨_, ⟨unsettled, proved⟩, _, same, decided⟩ := run
    cases opened.symm.trans same
    cases decided
    refine ⟨healthy, opened, old, rfl, rfl, replaces_reported found ?_ ?_⟩
    · simpa using unsettled
    · simpa using proved

/- The calls, and what a snapshot that one of them publishes owes to the check. -/

inductive LedgerCall where
  | configure (authorityEpoch : Option Nat) (expectedRevision : Nat)
      (limits : Option WorkTokenLimits)
  | reserve (request : WorkTokenRequest) (nowMs : Nat)
  | settle (operationId requestHash receipt : String) (usage : ExecutionTokenUsage)
  | report (operationId requestHash receipt : String) (report : ExecutionTokenOverCapUsage)

def LedgerCall.publishes (codec : Codec) (health : Health) (snapshot : Snapshot)
    (authority : Authority) : LedgerCall → Result (Option Snapshot)
  | .configure authorityEpoch expectedRevision limits =>
      Prod.snd <$> configureWorkTokenBudgetInner codec health snapshot authority authorityEpoch
        expectedRevision limits
  | .reserve request nowMs =>
      Prod.snd <$> reserveWorkTokenSubmission codec health snapshot authority request nowMs
  | .settle operationId requestHash receipt usage =>
      Prod.snd <$> settleWorkTokens codec health snapshot authority operationId requestHash
        receipt usage
  | .report operationId requestHash receipt usage =>
      Prod.snd <$> reportWorkTokenOverCap codec health snapshot authority operationId requestHash
        receipt usage

/-- One call that reached the disk. Every other call leaves the snapshot as it was. -/
def Accounts (codec : Codec) (snapshot next : Snapshot) : Prop :=
  ∃ health authority, ∃ call : LedgerCall,
    call.publishes codec health snapshot authority = .ok (some next)

abbrev Accounting (codec : Codec) : Snapshot → Snapshot → Prop :=
  Relation.ReflTransGen (Accounts codec)

theorem validateSnapshot_ledger (valid : validateSnapshot codec next = .ok ()) :
    LedgerValid codec next := by
  simp only [validateSnapshot, bind_eq_ok] at valid
  obtain ⟨_, ledger, _⟩ := valid
  exact validate_iff.1 ledger

theorem publishAccounting_ok (run : publishAccounting snapshot checked = .ok next) :
    next = { checked with executionFactsSeq := some snapshot.executionFactsRevision } := by
  simp only [publishAccounting, bind_eq_ok, pure_eq_ok] at run
  obtain ⟨_, _, same⟩ := run
  exact same.symm

theorem factsRevision_le (valid : LedgerValid codec snapshot) :
    snapshot.executionFactsRevision ≤ snapshot.seq := by
  unfold Snapshot.executionFactsRevision
  cases numbered : snapshot.executionFactsSeq with
  | none => exact le_rfl
  | some seq => exact (valid.facts seq numbered).2

theorem published_ledger (valid : LedgerValid codec snapshot)
    (accepted : validateSnapshot codec checked = .ok ())
    (opened : checked.executionBudget ≠ none) (later : snapshot.seq ≤ checked.seq)
    (run : publishAccounting snapshot checked = .ok next) : LedgerValid codec next := by
  have ledger := validateSnapshot_ledger accepted
  have before := factsRevision_le valid
  have same := publishAccounting_ok run
  subst same
  obtain ⟨budget, found⟩ := ne_none_iff_exists'.1 opened
  have checkedBudget := ledger.budget budget found
  refine ⟨?_, ledger.closed, ?_⟩
  · intro seq numbered
    cases numbered
    exact ⟨checkedBudget.schema, le_trans before later⟩
  · intro other known
    exact budgetValid_same (ledger.budget other known)
      ⟨rfl, fun _ => rfl, rfl, le_rfl, le_rfl⟩

theorem recordBudget_ok (run : recordBudget codec snapshot budget = .ok published) :
    ∃ checked, validateSnapshot codec checked = .ok () ∧
      checked = { snapshot with seq := snapshot.seq + 1, executionBudget := some budget } ∧
      publishAccounting snapshot checked = .ok published := by
  simp only [recordBudget, bind_eq_ok, orElseErr_eq_ok, checkedAdd_eq_some] at run
  obtain ⟨_, ⟨_, same⟩, _, accepted, run⟩ := run
  subst same
  exact ⟨_, accepted, rfl, run⟩

theorem recordBudget_ledger (valid : LedgerValid codec snapshot)
    (run : recordBudget codec snapshot budget = .ok next) : LedgerValid codec next := by
  obtain ⟨checked, accepted, same, published⟩ := recordBudget_ok run
  subst same
  exact published_ledger valid accepted (by simp) (Nat.le_succ _) published

theorem configure_publishes
    (run : configureWorkTokenBudgetInner codec health snapshot authority authorityEpoch
      expectedRevision limits = .ok (configuration, some next)) :
    health = .writable ∧ ∃ checked, validateSnapshot codec checked = .ok () ∧
      publishAccounting snapshot checked = .ok next ∧ checked = { snapshot with
        schema := max snapshot.schema 8
        seq := snapshot.seq + 1
        executionBudget := some
          (configuredBudget (snapshot.executionBudget.getD (openBudget limits)) configuration) } := by
  simp only [configureWorkTokenBudgetInner, bind_eq_ok] at run
  obtain ⟨_, _, _, _, _, _, replay, _, run⟩ := run
  cases replay with
  | some previous => simp at run
  | none =>
    simp only [bind_eq_ok, writable_eq_ok, orElseErr_eq_ok, checkedAdd_eq_some, pure_eq_ok] at run
    obtain ⟨_, healthy, _, _, _, _, _, _, _, _, _, ⟨_, numbered⟩, _, accepted, _, published,
      same⟩ := run
    cases same
    subst numbered
    exact ⟨healthy, _, accepted, published, rfl⟩

theorem reserve_ok (run : reserveWorkTokenSubmission codec health snapshot authority request nowMs =
      .ok (answer, published)) :
    (published = none ∧ ∀ record, answer ≠ .new record) ∨
      ∃ budget next, reserveDecision codec health snapshot authority request nowMs =
          .ok (.admitted budget) ∧ published = some next ∧
        answer = .new (newReservation codec snapshot request nowMs) ∧
        ∃ charged, chargeReservation budget (newReservation codec snapshot request nowMs) nowMs =
          .ok charged ∧ recordBudget codec snapshot charged = .ok next := by
  simp only [reserveWorkTokenSubmission, bind_eq_ok] at run
  obtain ⟨decision, decided, run⟩ := run
  cases decision with
  | existing record =>
    cases run
    exact .inl ⟨rfl, fun _ same => by cases same⟩
  | blocked block =>
    cases run
    exact .inl ⟨rfl, fun _ same => by cases same⟩
  | admitted budget =>
    simp only [bind_eq_ok, pure_eq_ok] at run
    obtain ⟨charged, charges, next, recorded, same⟩ := run
    cases same
    exact .inr ⟨budget, next, decided, rfl, rfl, charged, charges, recorded⟩

theorem settle_publishes
    (run : settleWorkTokens codec health snapshot authority operationId requestHash receipt usage =
      .ok (answer, some next)) :
    (∃ budget record, settleDecision health snapshot authority operationId requestHash receipt
        usage = .ok (.overCap budget record) ∧
      recordBudget codec snapshot (reported budget operationId record) = .ok next) ∨
    ∃ budget old record, settleDecision health snapshot authority operationId requestHash receipt
        usage = .ok (.settle budget old record) ∧
      ∃ refunded, refundReservation budget operationId old record = .ok refunded ∧
        recordBudget codec snapshot refunded = .ok next := by
  simp only [settleWorkTokens, bind_eq_ok] at run
  obtain ⟨decision, decided, run⟩ := run
  cases decision with
  | unchanged record => cases run
  | overCap budget record =>
    simp only [bind_eq_ok, pure_eq_ok] at run
    obtain ⟨_, recorded, same⟩ := run
    cases same
    exact .inl ⟨budget, record, decided, recorded⟩
  | settle budget old record =>
    simp only [bind_eq_ok, pure_eq_ok] at run
    obtain ⟨refunded, refunds, _, recorded, same⟩ := run
    cases same
    exact .inr ⟨budget, old, record, decided, refunded, refunds, recorded⟩

theorem report_publishes
    (run : reportWorkTokenOverCap codec health snapshot authority operationId requestHash receipt
      report = .ok (record, some next)) :
    ∃ budget, reportDecision health snapshot authority operationId requestHash receipt report =
        .ok (.report budget record) ∧
      recordBudget codec snapshot (reported budget operationId record) = .ok next := by
  simp only [reportWorkTokenOverCap, bind_eq_ok] at run
  obtain ⟨decision, decided, run⟩ := run
  cases decision with
  | unchanged record => cases run
  | report budget record =>
    simp only [bind_eq_ok, pure_eq_ok] at run
    obtain ⟨_, recorded, same⟩ := run
    cases same
    exact ⟨budget, decided, recorded⟩

theorem accounts_ledger (valid : LedgerValid codec snapshot) (step : Accounts codec snapshot next) :
    LedgerValid codec next := by
  obtain ⟨health, authority, call, run⟩ := step
  cases call with
  | configure authorityEpoch expectedRevision limits =>
    obtain ⟨⟨_, _⟩, run, same⟩ := map_eq_ok.1 run
    cases same
    obtain ⟨_, _, accepted, published, same⟩ := configure_publishes run
    subst same
    exact published_ledger valid accepted (by simp) (Nat.le_succ _) published
  | reserve request nowMs =>
    obtain ⟨⟨_, _⟩, run, same⟩ := map_eq_ok.1 run
    cases same
    rcases reserve_ok run with ⟨none, _⟩ | ⟨_, _, _, same, _, _, _, recorded⟩
    · cases none
    · cases same
      exact recordBudget_ledger valid recorded
  | settle operationId requestHash receipt usage =>
    obtain ⟨⟨_, _⟩, run, same⟩ := map_eq_ok.1 run
    cases same
    rcases settle_publishes run with ⟨_, _, _, recorded⟩ | ⟨_, _, _, _, _, _, recorded⟩
    · exact recordBudget_ledger valid recorded
    · exact recordBudget_ledger valid recorded
  | report operationId requestHash receipt usage =>
    obtain ⟨⟨_, _⟩, run, same⟩ := map_eq_ok.1 run
    cases same
    obtain ⟨_, _, recorded⟩ := report_publishes run
    exact recordBudget_ledger valid recorded

theorem accounting_ledger (valid : LedgerValid codec start)
    (run : Accounting codec start snapshot) : LedgerValid codec snapshot := by
  induction run with
  | refl => exact valid
  | tail _ step ih => exact accounts_ledger ih step

/-- The counters of this change neither overflow nor underflow, and the check accepts the
    budget they give under the next number. -/
def Accepted (codec : Codec) (snapshot : Snapshot) (change : Result WorkTokenBudget) : Prop :=
  ∃ budget, change = .ok budget ∧
    validate codec { snapshot with seq := snapshot.seq + 1, executionBudget := some budget } = .ok ()

/-- The incremental ledger and the recomputing check agree. -/
structure Reconciled (codec : Codec) (snapshot : Snapshot) : Prop where
  recomputed : ∀ budget, snapshot.executionBudget = some budget →
    budget.reservations.entries.foldlM (chargeRecord codec budget snapshot) chargedNothing =
      .ok ⟨budget.totalCharged, budget.dailyCharged, budget.workCharged⟩
  within : ∀ budget limits, snapshot.executionBudget = some budget → budget.limits = some limits →
    WithinLimits budget limits
  reserves : ∀ health authority request nowMs budget,
    reserveDecision codec health snapshot authority request nowMs = .ok (.admitted budget) →
    Accepted codec snapshot
      (chargeReservation budget (newReservation codec snapshot request nowMs) nowMs)
  settles : ∀ health authority operationId requestHash receipt usage budget old record,
    settleDecision health snapshot authority operationId requestHash receipt usage =
      .ok (.settle budget old record) →
    Accepted codec snapshot (refundReservation budget operationId old record)
  halts : ∀ health authority operationId requestHash receipt usage budget record,
    settleDecision health snapshot authority operationId requestHash receipt usage =
      .ok (.overCap budget record) →
    Accepted codec snapshot (.ok (reported budget operationId record))
  reports : ∀ health authority operationId requestHash receipt report budget record,
    reportDecision health snapshot authority operationId requestHash receipt report =
      .ok (.report budget record) →
    Accepted codec snapshot (.ok (reported budget operationId record))

theorem accepted_of_valid (valid : LedgerValid codec snapshot) (made : change = .ok budget)
    (next : BudgetValid codec
      { snapshot with seq := snapshot.seq + 1, executionBudget := some budget } budget) :
    Accepted codec snapshot change := by
  refine ⟨budget, made, validate_iff.2 ⟨?_, ?_, ?_⟩⟩
  · intro seq numbered
    obtain ⟨schema, before⟩ := valid.facts seq numbered
    exact ⟨schema, Nat.le_succ_of_le before⟩
  · intro closed
    cases closed
  · intro other found
    cases found
    exact next

theorem nextScope (snapshot : Snapshot) (budget : WorkTokenBudget) :
    SameScope snapshot
      { snapshot with seq := snapshot.seq + 1, executionBudget := some budget } :=
  ⟨rfl, fun _ => rfl, rfl, Nat.le_succ _, le_rfl⟩

theorem reported_accepted (valid : LedgerValid codec snapshot)
    (opened : snapshot.executionBudget = some budget) (cost : weight record = weight old)
    (replaces : Replaces budget operationId old record) :
    Accepted codec snapshot (.ok (reported budget operationId record)) := by
  have current := valid.budget budget opened
  rw [reported_settled current.exact replaces cost]
  exact accepted_of_valid valid rfl (settled_valid current replaces (nextScope snapshot _))

theorem reconciled (valid : LedgerValid codec snapshot) : Reconciled codec snapshot where
  recomputed := by
    intro budget opened
    have current := valid.budget budget opened
    have fits := reservations_fit current.capacity current.records
    rw [total_entries] at fits
    rw [← recomputed_iff.2 current.exact]
    apply chargeRecords_ok _ _ nested_nothing (by simp only [chargedNothing]; omega)
    intro entry member
    exact current.records entry.1 entry.2 (mem_entries.1 member)
  within := fun budget limits opened chosen => (valid.budget budget opened).within limits chosen
  reserves := by
    intro health authority request nowMs budget run
    obtain ⟨_, _, admitted⟩ := reserveDecision_admit run
    have current := valid.budget budget admitted.configured
    exact accepted_of_valid valid (chargeReservation_ok current admitted.bounded)
      (admitted_valid current admitted (nextScope snapshot _))
  settles := by
    intro health authority operationId requestHash receipt usage budget old record run
    obtain ⟨opened, _, replaces⟩ := settleDecision_settle run
    have current := valid.budget budget opened
    exact accepted_of_valid valid (refundReservation_ok current replaces)
      (settled_valid current replaces (nextScope snapshot _))
  halts := by
    intro health authority operationId requestHash receipt usage budget record run
    obtain ⟨opened, old, cost, _, replaces⟩ := settleDecision_overCap run
    exact reported_accepted valid opened cost replaces
  reports := by
    intro health authority operationId requestHash receipt report budget record run
    obtain ⟨_, opened, old, cost, _, replaces⟩ := reportDecision_report run
    exact reported_accepted valid opened cost replaces

/-- From a valid snapshot on, through every sequence of configurations, reservations,
    settlements and reports, the running counters are the recomputed sums, no limit is
    passed, and the check refuses no change that passed the checks of its own call. -/
theorem ledger_reconciled {start : Snapshot} (valid : validate codec start = .ok ())
    (run : Accounting codec start snapshot) : Reconciled codec snapshot :=
  reconciled (accounting_ledger (validate_iff.mp valid) run)

/-- Calls made one after the other; one that is refused or publishes nothing is passed over. -/
def callAll (codec : Codec) (snapshot : Snapshot) : List (Authority × LedgerCall) → Snapshot
  | [] => snapshot
  | (authority, call) :: rest =>
      match (call.publishes codec .writable snapshot authority).toOption.join with
      | none => callAll codec snapshot rest
      | some next => callAll codec next rest

theorem callAll_accounting (calls : List (Authority × LedgerCall)) :
    ∀ snapshot, Accounting codec snapshot (callAll codec snapshot calls) := by
  induction calls with
  | nil =>
    intro snapshot
    exact .refl
  | cons first rest ih =>
    intro snapshot
    obtain ⟨authority, call⟩ := first
    rw [callAll]
    cases made : (call.publishes codec .writable snapshot authority).toOption.join with
    | none => exact ih snapshot
    | some next =>
      have run := toOption_ok (join_eq_some_iff.1 made)
      exact .head ⟨_, authority, call, run⟩ (ih next)

end ExecutionBudget

namespace Sample
open ExecutionBudget

/-- One Work that belongs to a Project. -/
def staffed : Snapshot :=
  reached [.command "a" supervisor [
    .create "x" .work none (contract "first") SortedSet.empty, .associateProject "x" "project"]]

def tokenRequest (operationId : String) (observedSeq : Nat) : WorkTokenRequest where
  operationId := operationId
  projectId := "project"
  workId := "a0"
  purpose := .supervisorDecision
  requestHash := hash
  observedSeq := observedSeq
  inputCap := 100
  outputCap := 50
  attempt := none

/-- Two reservations on two days, and then the usage of the earlier one. -/
def lateSettlement : List (Authority × LedgerCall) :=
  [(user, .configure none 0 (some ⟨SortedMap.empty.insert "a0" 1000, 400, 2000⟩)),
    (runtime, .reserve (tokenRequest "first" 2) 5),
    (runtime, .reserve (tokenRequest "second" 3) (dayMs + 1)),
    (runtime, .settle "first" hash hash (.known 10 20))]

end Sample

theorem ExecutionBudget.ledger_reconciled_late :
    (callAll Sample.codec Sample.staffed Sample.lateSettlement).executionBudget.map
      (fun budget => (budget.totalCharged, budget.dailyCharged)) = some (180, 150) ∧
    Reconciled Sample.codec (callAll Sample.codec Sample.staffed Sample.lateSettlement) :=
  ⟨by decide +kernel, ledger_reconciled (by decide +kernel) (callAll_accounting _ _)⟩

end Tickets
