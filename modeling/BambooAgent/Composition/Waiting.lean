import BambooAgent.Composition.Executor

/- What a parallel composition waits for, and what its branches give it. -/
namespace Composition
open JsonValues

/-- The branch, or the composition, has succeeded. -/
def succeeded : Outcome → Bool
  | .ok result => result.success
  | .error _ => false

def returned : Outcome → Bool
  | .ok _ => true
  | .error _ => false

@[simp] theorem succeeded_ok (result : ToolResult) :
    succeeded (.ok result) = result.success := rfl

@[simp] theorem succeeded_error (error : ToolError) : succeeded (.error error) = false := rfl

/-- Enough of the branches have succeeded. -/
def Met (outcomes : List Outcome) : ParallelWait → Prop
  | .all => ∀ outcome ∈ outcomes, succeeded outcome = true
  | .any => ∃ outcome ∈ outcomes, succeeded outcome = true
  | .n target => target ≤ outcomes.countP succeeded

variable {outcomes : List Outcome}

theorem resolveAll_iff : ∀ {last : Option ToolResult},
    (∀ result, last = some result → result.success = true) →
      (succeeded (resolveParallelAll last outcomes) = true ↔
        ∀ outcome ∈ outcomes, succeeded outcome = true) := by
  induction outcomes with
  | nil =>
    intro last good
    cases last with
    | none => simp [resolveParallelAll, defaultResult]
    | some result => simp [resolveParallelAll, good result rfl]
  | cons first rest ih =>
    cases first with
    | error error => simp [resolveParallelAll]
    | ok result =>
      unfold resolveParallelAll
      cases well : result.success with
      | false => simp [well]
      | true =>
        have good : ∀ other, some result = some other → other.success = true :=
          fun _ same => Option.some.inj same ▸ well
        simp [ih good, well]

theorem resolveAny_iff :
    ∀ {failure : Option ToolResult} {error : Option ToolError},
      (∀ result, failure = some result → result.success = false) →
        (succeeded (resolveParallelAny failure error outcomes) = true ↔
          ∃ outcome ∈ outcomes, succeeded outcome = true) := by
  induction outcomes with
  | nil =>
    intro failure error bad
    cases failure with
    | none => simp [resolveParallelAny]
    | some result => simp [resolveParallelAny, bad result rfl]
  | cons first rest ih =>
    intro failure error bad
    cases first with
    | error other =>
      rw [resolveParallelAny, ih bad]
      simp
    | ok result =>
      rw [resolveParallelAny]
      cases well : result.success with
      | true => simp [well]
      | false =>
        have kept : ∀ other, failure.or (some result) = some other → other.success = false := by
          intro other same
          cases failure with
          | none => cases same; exact well
          | some old => exact bad other same
        rw [if_neg Bool.false_ne_true, ih kept]
        simp [well]

theorem resolveN_iff :
    ∀ {count : Nat} {last : Option ToolResult},
      (∀ result, last = some result → result.success = true) →
        (succeeded (resolveParallelN branches target count last outcomes) = true ↔
          target ≤ count + outcomes.countP succeeded ∧ outcomes.all returned = true) := by
  induction outcomes with
  | nil =>
    intro count last good
    unfold resolveParallelN
    split
    · rename_i enough
      cases last with
      | none => simp [defaultResult, enough]
      | some result => simp [good result rfl, enough]
    · rename_i few
      simp [defaultResult, few]
  | cons first rest ih =>
    intro count last good
    cases first with
    | error error => simp [resolveParallelN, returned]
    | ok result =>
      unfold resolveParallelN
      cases well : result.success with
      | true =>
        have good : ∀ other, some result = some other → other.success = true :=
          fun _ same => Option.some.inj same ▸ well
        have counted : (Except.ok result :: rest).countP succeeded =
            rest.countP succeeded + 1 := List.countP_cons_of_pos well
        rw [if_pos rfl, ih good]
        constructor
        · exact fun both => ⟨by omega, both.2⟩
        · exact fun both => ⟨by omega, both.2⟩
      | false =>
        have counted : (Except.ok result :: rest).countP succeeded = rest.countP succeeded :=
          List.countP_cons_of_neg (by simp [well])
        rw [if_neg (by decide), ih good, counted]
        simp only [List.all_cons, returned, Bool.true_and]

theorem resolveParallel_iff (some_ : outcomes ≠ []) (wait : ParallelWait) :
    succeeded (resolveParallel wait outcomes) = true ↔
      Met outcomes wait ∧ ∀ target, wait = .n target → outcomes.all returned = true := by
  have there : outcomes.isEmpty = false := by
    cases outcomes with
    | nil => exact absurd rfl some_
    | cons first rest => rfl
  unfold resolveParallel
  rw [there, if_neg Bool.false_ne_true]
  cases wait with
  | all =>
    rw [resolveAll_iff (fun _ same => by cases same)]
    exact ⟨fun every => ⟨every, nofun⟩, fun both => both.1⟩
  | any =>
    rw [resolveAny_iff (fun _ same => by cases same)]
    exact ⟨fun one => ⟨one, nofun⟩, fun both => both.1⟩
  | n target =>
    rw [resolveN_iff (fun _ same => by cases same), zero_add]
    constructor
    · exact fun both => ⟨both.1, fun _ _ => both.2⟩
    · exact fun both => ⟨both.1, both.2 target rfl⟩

/-- A composition without branches succeeds; one with branches succeeds only when enough of them
    have, and then does, when each has returned or none need have returned. -/
theorem parallel_honours_wait (env : Environment) (branches : List ToolExpr)
    (wait : ParallelWait) (place : List Nat) (ctx : ExecutionContext) :
    let outcomes := executeBranches env branches 0 place ctx
    let result := (executeInternal env (.parallel branches wait) place ctx).2
    (outcomes = [] → succeeded result = true) ∧
      (outcomes ≠ [] → succeeded result = true → Met outcomes wait) ∧
      (outcomes ≠ [] → Met outcomes wait →
        (∀ target, wait = .n target → outcomes.all returned = true) →
          succeeded result = true) := by
  intro outcomes result
  have same : result = resolveParallel wait outcomes := by
    rfl
  rw [same]
  refine ⟨?_, ?_, ?_⟩
  · intro none_
    rw [none_]
    rfl
  · exact fun some_ result => ((resolveParallel_iff some_ wait).1 result).1
  · exact fun some_ met each => (resolveParallel_iff some_ wait).2 ⟨met, each⟩

theorem outcomes_arise (outcomes : List Outcome) (ctx : ExecutionContext) :
    ∃ env branches, executeBranches env branches 0 [] ctx = outcomes := by
  let env : Environment :=
    { tool := fun _ => some (fun place _ =>
        (outcomes[place.headD 0]?).getD (.error (.notFound ""))),
      parseJson := fun _ => none, printJson := fun _ => "", isMatch := fun _ _ => none }
  have each : ∀ rest position, outcomes.drop position = rest →
      executeBranches env (rest.map (fun _ => .call "tool" .null)) position [] ctx = rest := by
    intro rest
    induction rest with
    | nil => exact fun _ _ => by rfl
    | cons first rest ih =>
      intro position same
      have here : outcomes[position]? = some first := by
        rw [← List.head?_drop, same]
        rfl
      have later : outcomes.drop (position + 1) = rest := by
        rw [← List.tail_drop, same]
        rfl
      rw [List.map_cons]
      unfold executeBranches executeInternal executeCall
      rw [ih _ later]
      show (outcomes[position]?).getD _ :: rest = _
      rw [here]
      rfl
  exact ⟨env, _, each outcomes 0 rfl⟩

/-- Two branches, the second of which ends in an error. -/
def halfFailing : Environment :=
  { tool := fun _ => some (fun place _ =>
      if place = [0] then .ok (defaultResult "done" true) else .error (.execution "broken")),
    parseJson := fun _ => none, printJson := fun _ => "", isMatch := fun _ _ => none }

def emptyContext : ExecutionContext := { bindings := [], parents := [], executionLog := [] }

def twoCalls : List ToolExpr := [.call "first" .null, .call "second" .null]

/-- Nothing has succeeded and the composition has; and one of one needed has, and it has not. -/
theorem empty_any_succeeds :
    (succeeded (executeInternal halfFailing (.parallel [] .any) [] emptyContext).2 = true ∧
      ¬ Met (executeBranches halfFailing [] 0 [] emptyContext) .any) ∧
    succeeded (executeInternal halfFailing (.parallel twoCalls (.n 1)) [] emptyContext).2 =
      false ∧ Met (executeBranches halfFailing twoCalls 0 [] emptyContext) (.n 1) := by
  refine ⟨⟨?_, ?_⟩, ?_, ?_⟩
  · simp [executeInternal, executeBranches, resolveParallel, defaultResult]
  · simp [executeBranches, Met]
  · simp [executeInternal, executeBranches, executeCall, halfFailing, twoCalls,
      resolveParallel, resolveParallelN, defaultResult]
  · simp [executeInternal, executeBranches, executeCall, halfFailing, twoCalls, Met,
      defaultResult]

end Composition
