import BambooAgent.Library.Tallies
import BambooAgent.Tickets.TokenAccounting

/- What the check of the token ledger establishes, read off its success: every record is
   well formed, and the counters are the sums of what the records are charged. -/
namespace Tickets
open SortedMaps Tallies SortedMap Option

theorem checkedAdd_eq_some :
    checkedAdd a b = some c ↔ a + b < 2 ^ 64 ∧ c = a + b := by
  unfold checkedAdd
  split
  · simp_all [eq_comm]
  · simp_all

theorem checkedSub_eq_some : checkedSub a b = some c ↔ b ≤ a ∧ c = a - b := by
  unfold checkedSub
  split
  · simp_all [eq_comm]
  · simp_all

namespace ExecutionBudget

/-- What one reservation is charged: its measured usage, or all of its caps. -/
def weight (record : WorkTokenReservation) : Nat :=
  match record.usage with
  | some (.known inputTokens outputTokens) => inputTokens + outputTokens
  | _ => requestTokens record.request

def workOf (record : WorkTokenReservation) : String := record.request.workId

/-- The charge as far as it falls on this day. -/
def dayWeight (day : Option Nat) (record : WorkTokenReservation) : Nat :=
  if some record.utcDay = day then weight record else 0

def Measured (record : WorkTokenReservation) : Prop :=
  ∀ inputTokens outputTokens, record.usage = some (.known inputTokens outputTokens) →
    inputTokens ≤ record.request.inputCap ∧ outputTokens ≤ record.request.outputCap

structure RecordValid (codec : Codec) (snapshot : Snapshot) (day : Option Nat) (id : String)
    (record : WorkTokenReservation) : Prop where
  request : validRequest record.request = .ok ()
  work : (snapshot.tickets.lookup record.request.workId).map (fun work => work.kind) = some .work
  link : snapshot.project.links.lookup record.request.workId = some record.request.projectId
  overCap : ∀ usage, record.overCapUsage = some usage →
    exceeds usage record.request = true ∧ isKnown record.usage = false
  identity : id = record.request.operationId
  receipt : record.receipt = codec.hash (.tokenRequest snapshot.binding record.request)
  day : ∃ today, day = some today ∧ record.utcDay ≤ today
  measured : Measured record

/-- The counters are the sums over the reservations. -/
structure Exact (budget : WorkTokenBudget) : Prop where
  total : budget.totalCharged = total weight budget.reservations
  daily : budget.dailyCharged = Tallies.total (dayWeight budget.currentUtcDay) budget.reservations
  works : Tallied workOf weight budget.reservations budget.workCharged

/-- Every configured limit is kept. -/
structure WithinLimits (budget : WorkTokenBudget) (limits : WorkTokenLimits) : Prop where
  total : budget.totalCharged ≤ limits.totalTokens
  daily : budget.dailyCharged ≤ limits.utcDayTokens
  works : ∀ work used, budget.workCharged.lookup work = some used →
    ∃ limit, limits.workTokens.lookup work = some limit ∧ used ≤ limit

structure BudgetValid (codec : Codec) (snapshot : Snapshot) (budget : WorkTokenBudget) :
    Prop where
  schema : 8 ≤ snapshot.schema
  revision : budget.revision ≠ 0
  capacity : budget.reservations.size ≤ maxRecords
  limits : limitsValid budget.limits snapshot = .ok ()
  audited : budget.configurations.size ≤ 128 ∧ budget.configurations.size = budget.revision
  configurations : ∀ earlier < budget.revision,
    validateConfiguration budget snapshot (earlier + 1) = .ok ()
  decided : (budget.configurations.lookup budget.revision).map (fun c => c.limits) =
    some budget.limits
  records : ∀ id record, budget.reservations.lookup id = some record →
    RecordValid codec snapshot budget.currentUtcDay id record
  exact : Exact budget
  within : ∀ limits, budget.limits = some limits → WithinLimits budget limits
  clock : budget.lastReservationMs.map (fun ms => ms / dayMs) = budget.currentUtcDay

/- The charge of one record. -/

theorem validRequest_caps (valid : validRequest request = .ok ()) :
    0 < request.inputCap ∧ request.inputCap ≤ 1048576 ∧ request.outputCap ≤ 1048576 := by
  simp only [validRequest, bind_eq_ok, rejectIf_eq_ok, not_or] at valid
  omega

theorem weight_measured (measured : Measured record) :
    weight record ≤ requestTokens record.request := by
  unfold weight
  split
  · rename_i inputTokens outputTokens usage
    have fits := measured inputTokens outputTokens usage
    unfold requestTokens
    omega
  · exact le_rfl

theorem weight_bounded (valid : validRequest record.request = .ok ()) (measured : Measured record) :
    weight record ≤ 2097152 := by
  have caps := validRequest_caps valid
  have fits := weight_measured measured
  unfold requestTokens at fits
  omega

theorem charge_eq_ok (valid : validRequest record.request = .ok ()) :
    charge record = .ok amount ↔ Measured record ∧ amount = weight record := by
  have caps := validRequest_caps valid
  unfold charge weight Measured requestTokens
  cases usage : record.usage with
  | none => simp [eq_comm]
  | some measure =>
    cases measure with
    | unknown => simp [eq_comm]
    | known inputTokens outputTokens =>
      simp only [bind_eq_ok, rejectIf_eq_ok, orElseErr_eq_ok, checkedAdd_eq_some,
        some.injEq, ExecutionTokenUsage.known.injEq, not_or, not_lt]
      constructor
      · rintro ⟨_, fits, _, sum⟩
        refine ⟨?_, sum⟩
        intro i o same
        rw [← same.1, ← same.2]
        exact fits
      · rintro ⟨fits, sum⟩
        have both := fits inputTokens outputTokens ⟨rfl, rfl⟩
        exact ⟨(), both, by omega, sum⟩

/- The loop over all records. -/

def addRecord (day : Option Nat) (charged : Charged) (entry : String × WorkTokenReservation) :
    Charged :=
  ⟨charged.total + weight entry.2, charged.daily + dayWeight day entry.2,
    tallyEntry workOf weight charged.works entry⟩

/-- No sum of a part exceeds the sum of the whole. -/
def Nested (charged : Charged) : Prop :=
  charged.daily ≤ charged.total ∧ ∀ work, (charged.works.lookup work).getD 0 ≤ charged.total

theorem dayWeight_le (day : Option Nat) (record : WorkTokenReservation) :
    dayWeight day record ≤ weight record := by
  unfold dayWeight
  split
  · exact le_rfl
  · exact Nat.zero_le _

theorem nested_addRecord (nested : Nested charged) (day : Option Nat)
    (entry : String × WorkTokenReservation) : Nested (addRecord day charged entry) := by
  have part := dayWeight_le day entry.2
  constructor
  · have before := nested.1
    simp only [addRecord]
    omega
  · intro work
    have before := nested.2 work
    simp only [addRecord, tallyEntry]
    by_cases same : work = workOf entry.2
    · subst same
      rw [lookup_insert_self, getD_some]
      omega
    · rw [lookup_insert_other _ _ same]
      omega

variable {budget : WorkTokenBudget}

theorem chargeDay_eq_ok (charged : amount = weight record) :
    chargeDay budget daily record.utcDay amount = .ok next ↔
      (some record.utcDay = budget.currentUtcDay → daily + amount < 2 ^ 64) ∧
        next = daily + dayWeight budget.currentUtcDay record := by
  unfold chargeDay dayWeight
  subst charged
  by_cases today : some record.utcDay = budget.currentUtcDay
  · simp [today, checkedAdd_eq_some]
  · simp [today, eq_comm]

variable {snapshot : Snapshot}

theorem chargeRecord_eq_ok :
    chargeRecord codec budget snapshot charged entry = .ok next ↔
      RecordValid codec snapshot budget.currentUtcDay entry.1 entry.2 ∧
        charged.total + weight entry.2 < 2 ^ 64 ∧
        (charged.works.lookup (workOf entry.2)).getD 0 + weight entry.2 < 2 ^ 64 ∧
        (some entry.2.utcDay = budget.currentUtcDay → charged.daily + weight entry.2 < 2 ^ 64) ∧
        next = addRecord budget.currentUtcDay charged entry := by
  obtain ⟨id, record⟩ := entry
  simp only [chargeRecord, bind_eq_ok, rejectIf_eq_ok, orElseErr_eq_ok, checkedAdd_eq_some,
    pure_eq_ok]
  constructor
  · rintro ⟨_, request, _, linked, _, unproved, _, identity, amount, charges, total, totalFits,
      used, usedFits, daily, today, same⟩
    obtain ⟨measured, cost⟩ := (charge_eq_ok request).1 charges
    obtain ⟨dayFits, dayCost⟩ := (chargeDay_eq_ok cost).1 today
    subst cost
    refine ⟨?_, totalFits.1, usedFits.1, dayFits, ?_⟩
    · rw [not_or, not_ne_iff, not_ne_iff] at linked
      rw [not_or, not_or, not_ne_iff, not_ne_iff, not_not, any_eq_true] at identity
      obtain ⟨sameId, receipt, day, current, late⟩ := identity
      refine ⟨request, linked.1, linked.2, ?_, sameId, receipt,
        ⟨day, current, of_decide_eq_true late⟩, measured⟩
      intro usage noted
      rw [noted, any_some, Bool.or_eq_true, not_or, Bool.not_eq_true',
        Bool.not_eq_false] at unproved
      exact ⟨unproved.1, Bool.eq_false_iff.2 unproved.2⟩
    · rw [← same, totalFits.2, usedFits.2, dayCost]
      rfl
  · rintro ⟨valid, totalFits, usedFits, dayFits, same⟩
    obtain ⟨today, current, late⟩ := valid.day
    refine ⟨(), valid.request, (), ?_, (), ?_, (), ?_, weight record,
      (charge_eq_ok valid.request).2 ⟨valid.measured, rfl⟩, _, ⟨totalFits, rfl⟩, _,
      ⟨usedFits, rfl⟩, _, (chargeDay_eq_ok rfl).2 ⟨dayFits, rfl⟩, same.symm⟩
    · rw [not_or, not_ne_iff, not_ne_iff]
      exact ⟨valid.work, valid.link⟩
    · rw [any_eq_true]
      rintro ⟨usage, noted, refused⟩
      obtain ⟨proved, unsettled⟩ := valid.overCap usage noted
      rw [proved, ] at refused
      exact absurd (unsettled.symm.trans refused) Bool.false_ne_true
    · rw [not_or, not_or, not_ne_iff, not_ne_iff, current]
      exact ⟨valid.identity, valid.receipt, by simpa using late⟩

/-- What the loop leaves when no check fails. -/
def addRecords (day : Option Nat) (charged : Charged)
    (entries : List (String × WorkTokenReservation)) : Charged :=
  ⟨charged.total + entriesTotal weight entries,
    charged.daily + entriesTotal (dayWeight day) entries,
    entries.foldl (tallyEntry workOf weight) charged.works⟩

theorem addRecords_cons (day : Option Nat) (charged : Charged)
    (entry : String × WorkTokenReservation) (rest : List (String × WorkTokenReservation)) :
    addRecords day (addRecord day charged entry) rest = addRecords day charged (entry :: rest) := by
  simp only [addRecords, addRecord, entriesTotal, List.foldl_cons, add_assoc]

theorem chargeRecords_of_ok (entries : List (String × WorkTokenReservation)) :
    ∀ charged result, entries.foldlM (chargeRecord codec budget snapshot) charged = .ok result →
      (∀ entry ∈ entries, RecordValid codec snapshot budget.currentUtcDay entry.1 entry.2) ∧
        result = addRecords budget.currentUtcDay charged entries := by
  induction entries with
  | nil =>
    intro charged result run
    rw [List.foldlM_nil, pure_eq_ok] at run
    exact ⟨fun _ none => absurd none List.not_mem_nil, run.symm⟩
  | cons entry rest ih =>
    intro charged result run
    rw [List.foldlM_cons, bind_eq_ok] at run
    obtain ⟨next, one, later⟩ := run
    obtain ⟨valid, _, _, _, same⟩ := chargeRecord_eq_ok.1 one
    obtain ⟨others, sums⟩ := ih next result later
    constructor
    · exact List.forall_mem_cons.2 ⟨valid, others⟩
    · rw [sums, same, addRecords_cons]

theorem chargeRecords_ok (entries : List (String × WorkTokenReservation)) :
    ∀ charged, Nested charged → charged.total + entriesTotal weight entries < 2 ^ 64 →
      (∀ entry ∈ entries, RecordValid codec snapshot budget.currentUtcDay entry.1 entry.2) →
      entries.foldlM (chargeRecord codec budget snapshot) charged =
        .ok (addRecords budget.currentUtcDay charged entries) := by
  induction entries with
  | nil =>
    intro charged _ _ _
    rfl
  | cons entry rest ih =>
    intro charged nested fits valid
    have work := nested.2 (workOf entry.2)
    have day := nested.1
    rw [entriesTotal] at fits
    have one : chargeRecord codec budget snapshot charged entry =
        .ok (addRecord budget.currentUtcDay charged entry) :=
      chargeRecord_eq_ok.2 ⟨valid entry List.mem_cons_self, by omega, by omega,
        fun _ => by omega, rfl⟩
    have later := ih (addRecord budget.currentUtcDay charged entry)
      (nested_addRecord nested _ entry) (by simp only [addRecord]; omega)
      (fun other member => valid other (List.mem_cons_of_mem _ member))
    rw [List.foldlM_cons, bind_eq_ok]
    exact ⟨_, one, by rw [later, addRecords_cons]⟩

def chargedNothing : Charged := ⟨0, 0, SortedMap.empty⟩

theorem nested_nothing : Nested chargedNothing := by
  constructor
  · exact le_rfl
  · intro work
    exact le_rfl

theorem recomputed_iff :
    addRecords budget.currentUtcDay chargedNothing budget.reservations.entries =
      ⟨budget.totalCharged, budget.dailyCharged, budget.workCharged⟩ ↔ Exact budget := by
  have whole := total_entries weight budget.reservations
  have today := total_entries (dayWeight budget.currentUtcDay) budget.reservations
  have groups := tallyEntries_tallied workOf weight budget.reservations
  simp only [addRecords, chargedNothing, Charged.mk.injEq, zero_add, ← whole, ← today]
  constructor
  · intro ⟨sameTotal, sameDaily, sameWorks⟩
    exact ⟨sameTotal.symm, sameDaily.symm, sameWorks ▸ groups⟩
  · intro exact
    exact ⟨exact.total.symm, exact.daily.symm, tallied_unique groups exact.works⟩

theorem overLimits_false :
    overLimits limits ⟨budget.totalCharged, budget.dailyCharged, budget.workCharged⟩ = false ↔
      WithinLimits budget limits := by
  simp only [overLimits, Bool.or_eq_false_iff, decide_eq_false_iff_not, not_lt,
    List.any_eq_false, Prod.forall, mem_entries]
  constructor
  · intro ⟨⟨total, daily⟩, works⟩
    refine ⟨total, daily, ?_⟩
    intro work used charged
    have kept := works work used charged
    cases known : limits.workTokens.lookup work with
    | none => simp [known] at kept
    | some limit => exact ⟨limit, rfl, by simpa [known] using kept⟩
  · intro within
    refine ⟨⟨within.total, within.daily⟩, ?_⟩
    intro work used charged
    obtain ⟨limit, known, kept⟩ := within.works work used charged
    simpa [known] using kept

theorem reservations_fit (capacity : budget.reservations.size ≤ maxRecords)
    (records : ∀ id record, budget.reservations.lookup id = some record →
      RecordValid codec snapshot budget.currentUtcDay id record) :
    total weight budget.reservations ≤ 2147483648 := by
  have bounded : total weight budget.reservations ≤ budget.reservations.size * 2097152 :=
    total_le (fun id record found => weight_bounded (records id record found).request
      (records id record found).measured)
  unfold maxRecords at capacity
  omega

theorem validateBudget_iff :
    validateBudget codec snapshot budget = .ok () ↔ BudgetValid codec snapshot budget := by
  simp only [validateBudget, bind_eq_ok, rejectIf_eq_ok, each_eq_ok, not_or, not_lt, not_ne_iff]
  constructor
  · intro ⟨_, ⟨schema, revision, capacity⟩, _, limits, _, ⟨many, audited⟩, _, configurations, _,
      decided, charged, run, sameTotal, sameDaily, sameWorks, kept, clock⟩
    obtain ⟨records, sums⟩ := chargeRecords_of_ok _ _ _ run
    have same : charged = ⟨budget.totalCharged, budget.dailyCharged, budget.workCharged⟩ := by
      rw [← sameTotal, ← sameDaily, ← sameWorks]
    refine ⟨schema, revision, capacity, limits, ⟨many, audited⟩, ?_, decided, ?_, ?_, ?_, clock⟩
    · intro earlier before
      exact configurations earlier (List.mem_range.2 before)
    · intro id record found
      exact records (id, record) (mem_entries.2 found)
    · exact recomputed_iff.1 (sums.symm.trans same)
    · intro bounds chosen
      rw [chosen, same, Bool.not_eq_true] at kept
      exact overLimits_false.1 kept
  · intro valid
    have sums := recomputed_iff.2 valid.exact
    have fits := reservations_fit valid.capacity valid.records
    rw [total_entries] at fits
    have run : budget.reservations.entries.foldlM (chargeRecord codec budget snapshot)
        chargedNothing = .ok _ :=
      chargeRecords_ok budget.reservations.entries chargedNothing nested_nothing
        (by simp only [chargedNothing]; omega)
        (fun entry member => valid.records entry.1 entry.2 (mem_entries.1 member))
    rw [sums] at run
    refine ⟨(), ⟨valid.schema, valid.revision, valid.capacity⟩, (), valid.limits, (),
      valid.audited, (), ?_, (), valid.decided, _, run, rfl, rfl, rfl, ?_, valid.clock⟩
    · intro earlier member
      exact valid.configurations earlier (List.mem_range.1 member)
    · cases chosen : budget.limits with
      | none => simp
      | some bounds =>
        rw [Bool.not_eq_true]
        exact overLimits_false.2 (valid.within bounds chosen)

/-- What the check of a whole snapshot says about its ledger. -/
structure LedgerValid (codec : Codec) (snapshot : Snapshot) : Prop where
  facts : ∀ seq, snapshot.executionFactsSeq = some seq → 8 ≤ snapshot.schema ∧ seq ≤ snapshot.seq
  closed : snapshot.executionBudget = none → snapshot.schema < 8
  budget : ∀ budget, snapshot.executionBudget = some budget → BudgetValid codec snapshot budget

theorem validate_iff :
    validate codec snapshot = .ok () ↔ LedgerValid codec snapshot := by
  have numbered : ¬ snapshot.executionFactsSeq.any
      (fun seq => snapshot.schema < 8 || snapshot.seq < seq) = true ↔
      ∀ seq, snapshot.executionFactsSeq = some seq → 8 ≤ snapshot.schema ∧ seq ≤ snapshot.seq := by
    cases snapshot.executionFactsSeq <;> simp
  simp only [validate, bind_eq_ok, rejectIf_eq_ok, numbered]
  cases opened : snapshot.executionBudget with
  | none =>
    simp only [rejectIf_eq_ok, not_le]
    constructor
    · intro ⟨_, facts, early⟩
      exact ⟨facts, fun _ => early, fun _ found => by rw [opened] at found; cases found⟩
    · intro valid
      exact ⟨(), valid.facts, valid.closed opened⟩
  | some budget =>
    rw [validateBudget_iff]
    constructor
    · intro ⟨_, facts, valid⟩
      refine ⟨facts, fun closed => (by rw [opened] at closed; cases closed), ?_⟩
      intro other found
      rw [opened] at found
      cases found
      exact valid
    · intro valid
      exact ⟨(), valid.facts, valid.budget budget opened⟩

end ExecutionBudget

end Tickets
