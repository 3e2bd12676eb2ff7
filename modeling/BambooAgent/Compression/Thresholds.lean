import BambooAgent.Compression.Messages

/- The range between target and trigger of a budget: how its ends lie, that no operation on the way
   overflows, and when a budget with a trigger is left without a range. -/
namespace Compression
open Option

/- Operations on machine integers that can fail. -/

def mulU64 (a b : Nat) : Option Nat := if a * b < 2 ^ 64 then some (a * b) else none

def quotient (a b : Nat) : Option Nat := if b = 0 then none else some (a / b)

def asU32 (a : Nat) : Option Nat := if a ≤ u32Max then some a else none

def asU8 (a : Nat) : Option Nat := if a ≤ 255 then some a else none

def difference (a b : Nat) : Option Nat := if b ≤ a then some (a - b) else none

namespace TokenBudget

def percentage (budget : TokenBudget) (percent : Nat) : Nat :=
  budget.maxContextTokens * percent / 100

def headroom (budget : TokenBudget) : Nat :=
  min (max (max budget.maxOutputTokens budget.safetyMargin) 1)
    (max (budget.maxRequestInputTokens / 5) 1)

/-- The trigger before the working reserve may move it. -/
def percentTrigger (budget : TokenBudget) : Nat :=
  min (budget.percentage (normalizeTriggerPercent budget.compressionTriggerPercent))
    (budget.maxRequestInputTokens - budget.headroom)

def legacyTrigger (budget : TokenBudget) : Nat :=
  if min (budget.workingReserveTokens * 2) u32Max ≤ budget.maxContextTokens then
    budget.maxContextTokens - budget.workingReserveTokens
  else budget.percentage (normalizeTriggerPercent budget.fallbackTriggerPercent)

def computedTrigger (budget : TokenBudget) : Nat :=
  if 0 < budget.workingReserveTokens then min budget.percentTrigger budget.legacyTrigger
  else budget.percentTrigger

/-- The configured target, or the largest whole percentage that the code takes to be under the
    trigger. -/
def usagePercent (budget : TokenBudget) : Nat :=
  min (normalizeTargetPercent budget.compressionTargetPercent)
    ((budget.computedTrigger - 1) * 100 / budget.maxContextTokens)

def Unavailable (budget : TokenBudget) : Prop :=
  budget.compressionThresholds.triggerTokens = 0 ∧ budget.compressionThresholds.targetTokens = 0 ∧
    budget.compressionThresholds.targetUsagePercent = 0

/-- The reported target lies under the trigger, and the trigger under every bound of it. -/
def Ordered (budget : TokenBudget) : Prop :=
  let range := budget.compressionThresholds
  0 < range.targetTokens ∧ range.targetTokens < range.triggerTokens ∧
    range.triggerTokens < range.inputLimit ∧
    range.targetTokens = budget.maxContextTokens * range.targetUsagePercent / 100 ∧
    range.triggerTokens ≤ budget.maxContextTokens *
      normalizeTriggerPercent budget.compressionTriggerPercent / 100 ∧
    range.triggerTokens ≤ range.inputLimit - range.headroom

variable (budget : TokenBudget)

theorem thresholds_eq : budget.compressionThresholds =
    if budget.maxContextTokens = 0 ∨ budget.maxRequestInputTokens ≤ 1 ∨ budget.computedTrigger ≤ 1 ∨
        budget.usagePercent = 0 ∨ budget.percentage budget.usagePercent = 0 then
      ⟨budget.maxRequestInputTokens, budget.headroom, 0, 0, 0⟩
    else ⟨budget.maxRequestInputTokens, budget.headroom, budget.computedTrigger,
      budget.percentage budget.usagePercent, budget.usagePercent⟩ := by
  by_cases empty : budget.maxContextTokens = 0 ∨ budget.maxRequestInputTokens ≤ 1
  · exact (if_pos empty).trans (if_pos (by omega)).symm
  refine (if_neg empty).trans ?_
  by_cases low : budget.computedTrigger ≤ 1
  · exact (if_pos low).trans (if_pos (by omega)).symm
  refine (if_neg low).trans ?_
  by_cases nothing : budget.usagePercent = 0 ∨ budget.percentage budget.usagePercent = 0
  · exact (if_pos nothing).trans (if_pos (by omega)).symm
  · exact (if_neg nothing).trans (if_neg (by omega)).symm

theorem percentage_mono (less : p ≤ q) : budget.percentage p ≤ budget.percentage q :=
  Nat.div_le_div_right (Nat.mul_le_mul_left _ less)

variable {percent : Nat}

theorem percentage_le (whole : percent ≤ 100) :
    budget.percentage percent ≤ budget.maxContextTokens := by
  unfold percentage
  have := Nat.mul_le_mul_left budget.maxContextTokens whole
  omega

theorem computedTrigger_le : budget.computedTrigger ≤ budget.percentTrigger := by
  unfold computedTrigger
  split <;> omega

theorem normalizeTriggerPercent_le (value : Nat) : normalizeTriggerPercent value ≤ 100 := by
  unfold normalizeTriggerPercent
  split_ifs <;> omega

theorem normalizeTargetPercent_range (value : Nat) :
    1 ≤ normalizeTargetPercent value ∧ normalizeTargetPercent value ≤ 99 := by
  simp only [normalizeTargetPercent]
  split_ifs <;> omega

theorem computedTrigger_le_window : budget.computedTrigger ≤ budget.maxContextTokens := by
  have share := budget.percentage_le
    (normalizeTriggerPercent_le budget.compressionTriggerPercent)
  have least := budget.computedTrigger_le
  unfold percentTrigger at least
  omega

theorem target_lt_trigger (some_ : 1 < budget.computedTrigger) :
    budget.percentage budget.usagePercent < budget.computedTrigger := by
  have under : budget.usagePercent * budget.maxContextTokens ≤ (budget.computedTrigger - 1) * 100 :=
    le_trans (Nat.mul_le_mul_right _ (min_le_right ..)) (Nat.div_mul_le_self ..)
  unfold percentage
  rw [Nat.mul_comm] at under
  omega

theorem trigger_mono {earlier later : TokenBudget}
    (window : earlier.maxContextTokens = later.maxContextTokens)
    (limit : earlier.maxRequestInputTokens = later.maxRequestInputTokens)
    (configured : earlier.compressionTargetPercent = later.compressionTargetPercent)
    (less : earlier.computedTrigger ≤ later.computedTrigger) :
    earlier.compressionThresholds.triggerTokens ≤ later.compressionThresholds.triggerTokens := by
  have share := Nat.div_le_div_right (c := later.maxContextTokens)
    (Nat.mul_le_mul_right 100 (Nat.sub_le_sub_right less 1))
  have percent : earlier.usagePercent ≤ later.usagePercent := by
    unfold usagePercent
    rw [configured, window]
    exact Nat.le_min.2 ⟨min_le_left .., le_trans (min_le_right ..) share⟩
  have tokens : earlier.percentage earlier.usagePercent ≤ later.percentage later.usagePercent := by
    refine le_trans (earlier.percentage_mono percent) ?_
    unfold percentage
    rw [window]
  rw [thresholds_eq, thresholds_eq]
  split
  · exact Nat.zero_le _
  · rw [if_neg (by omega)]
    exact less

theorem reserve_earlier (reserve : Nat) :
    { budget with workingReserveTokens := reserve }.compressionThresholds.triggerTokens ≤
      { budget with workingReserveTokens := 0 }.compressionThresholds.triggerTokens :=
  trigger_mono rfl rfl rfl { budget with workingReserveTokens := reserve }.computedTrigger_le

/- The same computation with every operation that can fail in the code checked. -/

def checkedPercentage (percent : Nat) : Option Nat := do
  asU32 (← quotient (← mulU64 budget.maxContextTokens percent) 100)

def checkedTrigger (headroom : Nat) : Option Nat := do
  let share ←
    budget.checkedPercentage (normalizeTriggerPercent budget.compressionTriggerPercent)
  let trigger := min share (budget.maxRequestInputTokens - headroom)
  if budget.workingReserveTokens = 0 then some trigger
  else if min (budget.workingReserveTokens * 2) u32Max ≤ budget.maxContextTokens then
    some (min trigger (budget.maxContextTokens - budget.workingReserveTokens))
  else
    (budget.checkedPercentage (normalizeTriggerPercent budget.fallbackTriggerPercent)).map
      (min trigger)

def checkedUsagePercent (trigger : Nat) : Option Nat := do
  let scaled ← mulU64 (← difference trigger 1) 100
  let largest ← asU32 (← quotient scaled budget.maxContextTokens)
  asU8 (min (normalizeTargetPercent budget.compressionTargetPercent) largest)

def checkedThresholds : Option CompressionThresholds := do
  let headroom := min (max (max budget.maxOutputTokens budget.safetyMargin) 1)
    (max (← quotient budget.maxRequestInputTokens 5) 1)
  let unavailable : CompressionThresholds := ⟨budget.maxRequestInputTokens, headroom, 0, 0, 0⟩
  if budget.maxContextTokens = 0 ∨ budget.maxRequestInputTokens ≤ 1 then some unavailable
  else do
    let trigger ← budget.checkedTrigger headroom
    if trigger ≤ 1 then some unavailable
    else do
      let percent ← budget.checkedUsagePercent trigger
      let target ← budget.checkedPercentage percent
      if percent = 0 ∨ target = 0 then some unavailable
      else some ⟨budget.maxRequestInputTokens, headroom, trigger, target, percent⟩

section
variable (context : budget.maxContextTokens ≤ u32Max)
include context

theorem checkedPercentage_ok (whole : percent ≤ 100) :
    budget.checkedPercentage percent = some (budget.percentage percent) := by
  have share := budget.percentage_le whole
  have product := Nat.mul_le_mul context whole
  have fits : u32Max * 100 < 2 ^ 64 := by decide
  rw [checkedPercentage, mulU64, if_pos (lt_of_le_of_lt product fits), ]
  exact if_pos (le_trans share context)

theorem checkedTrigger_ok :
    budget.checkedTrigger budget.headroom = some budget.computedTrigger := by
  rw [checkedTrigger, budget.checkedPercentage_ok context (normalizeTriggerPercent_le _),
    bind_eq_bind, bind_some,
    budget.checkedPercentage_ok context (normalizeTriggerPercent_le _)]
  unfold computedTrigger legacyTrigger percentTrigger
  by_cases reserve : budget.workingReserveTokens = 0
  · rw [if_pos reserve, if_neg (by omega)]
  · by_cases room : min (budget.workingReserveTokens * 2) u32Max ≤ budget.maxContextTokens
    · rw [if_neg reserve, if_pos room, if_pos (Nat.pos_of_ne_zero reserve), if_pos room]
    · rw [if_neg reserve, if_neg room, if_pos (Nat.pos_of_ne_zero reserve), if_neg room]
      rfl

theorem checkedUsagePercent_ok (window : budget.maxContextTokens ≠ 0)
    (some_ : 1 < budget.computedTrigger) :
    budget.checkedUsagePercent budget.computedTrigger = some budget.usagePercent := by
  have below := budget.computedTrigger_le_window
  have scaled : (budget.computedTrigger - 1) * 100 ≤ budget.maxContextTokens * 100 := by omega
  have fits : u32Max * 100 < 2 ^ 64 := by decide
  have largest : (budget.computedTrigger - 1) * 100 / budget.maxContextTokens ≤ 100 :=
    Nat.div_le_of_le_mul scaled
  have small : 100 ≤ u32Max := by decide
  rw [checkedUsagePercent, difference, if_pos (by omega), bind_eq_bind, bind_some,
    mulU64, if_pos (by omega), bind_some, quotient, if_neg window, bind_some, asU32,
    if_pos (by omega), bind_some]
  exact if_pos (by omega)

theorem checkedThresholds_ok : budget.checkedThresholds = some budget.compressionThresholds := by
  rw [thresholds_eq, checkedThresholds, bind_eq_bind]
  change (if budget.maxContextTokens = 0 ∨ budget.maxRequestInputTokens ≤ 1 then _
    else (budget.checkedTrigger budget.headroom).bind _) = _
  by_cases empty : budget.maxContextTokens = 0 ∨ budget.maxRequestInputTokens ≤ 1
  · exact (if_pos empty).trans (congrArg some (if_pos (by omega)).symm)
  rw [if_neg empty, budget.checkedTrigger_ok context, bind_some]
  by_cases low : budget.computedTrigger ≤ 1
  · exact (if_pos low).trans (congrArg some (if_pos (by omega)).symm)
  have whole : budget.usagePercent ≤ 100 := by
    have := normalizeTargetPercent_range budget.compressionTargetPercent
    unfold usagePercent
    omega
  rw [if_neg low, budget.checkedUsagePercent_ok context (by omega) (by omega), bind_some,
    budget.checkedPercentage_ok context whole, bind_some]
  by_cases nothing : budget.usagePercent = 0 ∨ budget.percentage budget.usagePercent = 0
  · exact (if_pos nothing).trans (congrArg some (if_pos (by omega)).symm)
  · exact (if_neg nothing).trans (congrArg some (if_neg (by omega)).symm)

end

theorem range_ordered : budget.Unavailable ∨ budget.Ordered := by
  unfold Unavailable Ordered
  rw [thresholds_eq]
  split
  · exact .inl ⟨rfl, rfl, rfl⟩
  · have least := budget.computedTrigger_le
    have spare : 1 ≤ budget.headroom := by
      unfold headroom
      omega
    unfold percentTrigger at least
    have some_ : 0 < budget.percentage budget.usagePercent := by omega
    refine .inr ⟨some_, budget.target_lt_trigger (by omega), ?_, rfl, ?_, ?_⟩
    · change budget.computedTrigger < budget.maxRequestInputTokens
      omega
    · exact le_trans least (min_le_left ..)
    · exact le_trans least (min_le_right ..)

theorem thresholds_ordered (context : budget.maxContextTokens ≤ u32Max) :
    budget.checkedThresholds = some budget.compressionThresholds ∧
    (budget.Unavailable ∨ budget.Ordered) ∧
    ∀ reserve, { budget with workingReserveTokens := reserve }.compressionThresholds.triggerTokens ≤
      { budget with workingReserveTokens := 0 }.compressionThresholds.triggerTokens :=
  ⟨budget.checkedThresholds_ok context, budget.range_ordered, budget.reserve_earlier⟩

theorem thresholds_ordered_sample :
    (TokenBudget.withSafetyMargin 128000 16384 1280).maxContextTokens ≤ u32Max ∧
      (TokenBudget.withSafetyMargin 128000 16384 1280).checkedThresholds =
        some ⟨110336, 16384, 93952, 32000, 25⟩ := by
  have fits : (TokenBudget.withSafetyMargin 128000 16384 1280).maxContextTokens ≤ u32Max := by decide
  exact ⟨fits, (thresholds_ordered _ fits).1.trans (by decide)⟩

/- When a range is found. -/

/-- The least whole percentage of the window that is worth a token. -/
def leastPercent : Nat := (99 + budget.maxContextTokens) / budget.maxContextTokens

variable {budget}

theorem percentage_pos (window : 0 < budget.maxContextTokens) :
    0 < budget.percentage percent ↔ budget.leastPercent ≤ percent := by
  rw [← Nat.lt_succ_iff, leastPercent, Nat.div_lt_iff_lt_mul window, percentage, Nat.succ_mul,
    Nat.mul_comm percent]
  omega

theorem unavailable_iff (limit : 1 < budget.maxRequestInputTokens)
    (some_ : 1 < budget.computedTrigger) : budget.Unavailable ↔
      normalizeTargetPercent budget.compressionTargetPercent < budget.leastPercent ∨
        (budget.computedTrigger - 1) * 100 < budget.maxContextTokens * budget.leastPercent := by
  have window : 0 < budget.maxContextTokens := by
    unfold maxRequestInputTokens at limit
    omega
  have worth := @percentage_pos budget budget.usagePercent window
  have largest : budget.leastPercent ≤ (budget.computedTrigger - 1) * 100 / budget.maxContextTokens ↔
      budget.maxContextTokens * budget.leastPercent ≤ (budget.computedTrigger - 1) * 100 := by
    rw [Nat.le_div_iff_mul_le window, Nat.mul_comm]
  have range : budget.Unavailable ↔ ¬ budget.leastPercent ≤ budget.usagePercent := by
    have nothing : budget.usagePercent = 0 → budget.percentage budget.usagePercent = 0 := by
      intro zero
      rw [zero, percentage, Nat.mul_zero]
    rw [Unavailable, thresholds_eq]
    split
    · exact iff_of_true ⟨rfl, rfl, rfl⟩ (by omega)
    · refine iff_of_false (fun none_ => ?_) (by omega)
      have zero : budget.computedTrigger = 0 := none_.1
      omega
  rw [range, usagePercent, ]
  omega

/-- No whole percentage up to the configured target has a positive share under the trigger. -/
def Infeasible (budget : TokenBudget) : Prop :=
  ∀ percent, 1 ≤ percent →
    percent ≤ normalizeTargetPercent budget.compressionTargetPercent →
    ¬ (0 < budget.percentage percent ∧ budget.percentage percent < budget.computedTrigger)

theorem switched_off_iff (limit : 1 < budget.maxRequestInputTokens)
    (some_ : 1 < budget.computedTrigger) :
    (budget.Unavailable → budget.Infeasible) ↔
      normalizeTargetPercent budget.compressionTargetPercent < budget.leastPercent ∨
        budget.maxContextTokens * budget.leastPercent % 100 = 0 ∨
        budget.percentage budget.leastPercent + 1 ≠ budget.computedTrigger := by
  have window : 0 < budget.maxContextTokens := by
    unfold maxRequestInputTokens at limit
    omega
  have exact_ : budget.percentage budget.leastPercent =
    budget.maxContextTokens * budget.leastPercent / 100 := rfl
  rw [unavailable_iff limit some_]
  constructor
  · intro honest
    by_contra broken
    refine honest (by omega) budget.leastPercent ?_ (by omega) (by omega)
    exact Nat.div_pos (by omega) window
  · intro fits off percent _ configured feasible
    have least := (percentage_pos window).1 feasible.1
    have above := budget.percentage_mono least
    omega

theorem switched_off_sample :
    ((withSafetyMargin 1000 200 100).Unavailable → (withSafetyMargin 1000 200 100).Infeasible) ∧
      (withSafetyMargin 1000 200 100).computedTrigger = 560 := by
  have fits := (@switched_off_iff (withSafetyMargin 1000 200 100) (by decide) (by decide)).2
    (by decide)
  exact ⟨fits, by decide⟩

/-- One percent of a window of 150 is a token, and the trigger is two. -/
theorem switched_off_feasible :
    1 < (withSafetyMargin 150 145 2).maxRequestInputTokens ∧
      1 < (withSafetyMargin 150 145 2).computedTrigger ∧
      ¬ ((withSafetyMargin 150 145 2).Unavailable → (withSafetyMargin 150 145 2).Infeasible) := by
  refine ⟨by decide, by decide, fun honest => ?_⟩
  exact honest (by unfold Unavailable; decide) 1 (by decide) (by decide) (by decide)

end TokenBudget
end Compression
