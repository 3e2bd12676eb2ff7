import BambooAgent.Compression.Texts
import BambooAgent.Library.Json

/- The execution of tool composition expressions. -/
namespace Composition
open JsonValues

inductive ToolError where
  | notFound (text : String)
  | execution (text : String)
  | invalidArguments (text : String)

def ToolError.toText : ToolError → String
  | .notFound text => "Tool not found: " ++ text
  | .execution text => "Execution failed: " ++ text
  | .invalidArguments text => "Invalid arguments: " ++ text

structure ToolResultImage where
  mimeType : String
  data : String

structure ToolResult where
  success : Bool
  result : String
  displayPreference : Option String
  images : List ToolResultImage

abbrev Outcome := Except ToolError ToolResult

inductive ParallelWait where
  | all
  | any
  | n (target : Nat)

inductive Condition where
  | success
  | contains (path value : String)
  | matches_ (path pattern : String)
  | and (conditions : List Condition)
  | or (conditions : List Condition)

inductive ToolExpr where
  | call (tool : String) (args : Json)
  | sequence (steps : List ToolExpr) (failFast : Bool)
  | parallel (branches : List ToolExpr) (wait : ParallelWait)
  | choice (condition : Condition) (thenBranch : ToolExpr) (elseBranch : Option ToolExpr)
  | retry (expr : ToolExpr) (maxAttempts : Nat) (delayMs : Nat)
  | let_ (var : String) (expr body : ToolExpr)
  | var (name : String)

/-- The tools, the JSON text of a result and the regular expressions. An invocation has its place
    in the execution, so that it may end in any way whatever ran before it or beside it. -/
structure Environment where
  tool : String → Option (List Nat → Json → Outcome)
  parseJson : String → Option Json
  printJson : Json → String
  isMatch : String → String → Option Bool

/-- The bindings of the context and of the contexts around it, and its log. -/
structure ExecutionContext where
  bindings : List (String × ToolResult)
  parents : List (List (String × ToolResult))
  executionLog : List (String × Outcome)

def ExecutionContext.bind (ctx : ExecutionContext) (name : String) (value : ToolResult) :
    ExecutionContext :=
  { ctx with bindings := (name, value) :: ctx.bindings }

def ExecutionContext.lookup (ctx : ExecutionContext) (name : String) : Option ToolResult :=
  (ctx.bindings :: ctx.parents).findSome? (fun scope => scope.lookup name)

def defaultResult (result : String) (success : Bool) : ToolResult :=
  { success, result, displayPreference := none, images := [] }

/- Conditions. -/

def valueAsString (env : Environment) : Json → String
  | .string inner => inner
  | value => env.printJson value

def extractValueAtPath (env : Environment) (payload path : String) : Option String :=
  (env.parseJson payload).bind (fun parsed =>
    if path.isEmpty then some (valueAsString env parsed)
    else
      ((path.splitOn ".").foldlM (fun (current : Json) segment =>
        match parseIndex segment with
        | some index => current.at_ index
        | none => current.get segment) parsed).map (valueAsString env))

mutual
def evaluateCondition (env : Environment) (result : ToolResult) : Condition → Bool
  | .success => result.success
  | .contains path value =>
    (extractValueAtPath env result.result path).any (fun current =>
      Compression.containsText current value)
  | .matches_ path pattern =>
    (extractValueAtPath env result.result path).any (fun current =>
      (env.isMatch pattern current).getD false)
  | .and conditions => evaluateAll env result conditions
  | .or conditions => evaluateAny env result conditions
def evaluateAll (env : Environment) (result : ToolResult) : List Condition → Bool
  | [] => true
  | first :: rest => evaluateCondition env result first && evaluateAll env result rest
def evaluateAny (env : Environment) (result : ToolResult) : List Condition → Bool
  | [] => false
  | first :: rest => evaluateCondition env result first || evaluateAny env result rest
end

/- Parallel branches. -/

def resolveParallelAll : Option ToolResult → List Outcome → Outcome
  | lastSuccess, [] => .ok (lastSuccess.getD (defaultResult "all branches completed" true))
  | _, .error error :: _ => .error error
  | _, .ok toolResult :: rest =>
    if !toolResult.success then .ok toolResult else resolveParallelAll (some toolResult) rest

def resolveParallelAny : Option ToolResult → Option ToolError → List Outcome → Outcome
  | some failure, _, [] => .ok failure
  | none, lastError, [] =>
    .error (lastError.getD (.execution "no parallel branch succeeded"))
  | firstFailure, lastError, .ok toolResult :: rest =>
    if toolResult.success then .ok toolResult
    else resolveParallelAny (firstFailure.or (some toolResult)) lastError rest
  | firstFailure, _, .error error :: rest => resolveParallelAny firstFailure (some error) rest

def resolveParallelN (branchCount target : Nat) :
    Nat → Option ToolResult → List Outcome → Outcome
  | successCount, lastSuccess, [] =>
    if target ≤ successCount then
      .ok (lastSuccess.getD (defaultResult "required branches succeeded" true))
    else
      .ok (defaultResult ("only " ++ toString successCount ++ " of " ++ toString branchCount ++
        " branches succeeded; required " ++ toString target) false)
  | _, _, .error error :: _ => .error error
  | successCount, lastSuccess, .ok toolResult :: rest =>
    if toolResult.success then
      resolveParallelN branchCount target (successCount + 1) (some toolResult) rest
    else resolveParallelN branchCount target successCount lastSuccess rest

def resolveParallel (wait : ParallelWait) (results : List Outcome) : Outcome :=
  if results.isEmpty then .ok (defaultResult "empty parallel" true)
  else
    match wait with
    | .all => resolveParallelAll none results
    | .any => resolveParallelAny none none results
    | .n target => resolveParallelN results.length target 0 none results

/- Expressions. -/

def normalizeToolName (name : String) : String := ((name.splitOn "::").getLast?).getD name

def executeCall (env : Environment) (place : List Nat) (tool : String) (args : Json) : Outcome :=
  match env.tool (normalizeToolName tool) with
  | none => .error (.notFound ("Tool '" ++ normalizeToolName tool ++ "' not found"))
  | some invoke => invoke place args

def retryAttempts (run : Nat → ExecutionContext → ExecutionContext × Outcome) :
    Nat → Nat → ExecutionContext → Option ToolError → ExecutionContext × Outcome
  | 0, _, ctx, lastError =>
    (ctx, .error (lastError.getD (.execution "retry attempts exhausted")))
  | left + 1, attempt, ctx, _ =>
    match run attempt ctx with
    | (ctx, .ok result) =>
      if result.success then (ctx, .ok result)
      else retryAttempts run left (attempt + 1) ctx (some (.execution result.result))
    | (ctx, .error error) => retryAttempts run left (attempt + 1) ctx (some error)

mutual
def executeInternal (env : Environment) :
    ToolExpr → List Nat → ExecutionContext → ExecutionContext × Outcome
  | .call tool args, place, ctx => (ctx, executeCall env place tool args)
  | .sequence steps failFast, place, ctx =>
    executeSequence env failFast steps 0 place ctx (defaultResult "empty sequence" true)
  | .parallel branches wait, place, ctx =>
    (ctx, resolveParallel wait (executeBranches env branches 0 place ctx))
  | .choice condition thenBranch elseBranch, place, ctx =>
    let lastResult := (ctx.lookup "_last").getD (defaultResult "\x7b\x7d" true)
    if evaluateCondition env lastResult condition then
      executeInternal env thenBranch (0 :: place) ctx
    else executeElse env elseBranch (1 :: place) ctx
  | .retry expr maxAttempts _, place, ctx =>
    retryAttempts (fun attempt ctx => executeInternal env expr (attempt :: place) ctx)
      (max maxAttempts 1) 0 ctx none
  | .let_ var expr body, place, ctx =>
    match executeInternal env expr (0 :: place) ctx with
    | (ctx, .error error) => (ctx, .error error)
    | (ctx, .ok value) =>
      executeInternal env body (1 :: place) ((ctx.bind var value).bind "_last" value)
  | .var name, _, ctx =>
    (ctx, ((ctx.lookup name).map Except.ok).getD
      (.error (.execution ("Variable not found: " ++ name))))
def executeElse (env : Environment) :
    Option ToolExpr → List Nat → ExecutionContext → ExecutionContext × Outcome
  | none, _, ctx => (ctx, .ok (defaultResult "condition not met" true))
  | some expr, place, ctx => executeInternal env expr place ctx
def executeSequence (env : Environment) (failFast : Bool) :
    List ToolExpr → Nat → List Nat → ExecutionContext → ToolResult → ExecutionContext × Outcome
  | [], _, _, ctx, lastResult => (ctx, .ok lastResult)
  | step :: rest, position, place, ctx, _ =>
    match executeInternal env step (position :: place) ctx with
    | (ctx, .ok result) =>
      let ctx := ctx.bind "_last" result
      if failFast && !result.success then (ctx, .ok result)
      else executeSequence env failFast rest (position + 1) place ctx result
    | (ctx, .error error) =>
      if failFast then (ctx, .error error)
      else
        let failure := defaultResult error.toText false
        executeSequence env failFast rest (position + 1) place (ctx.bind "_last" failure) failure
def executeBranches (env : Environment) :
    List ToolExpr → Nat → List Nat → ExecutionContext → List Outcome
  | [], _, _, _ => []
  | branch :: rest, position, place, ctx =>
    (executeInternal env branch (position :: place) ctx).2 ::
      executeBranches env rest (position + 1) place ctx
end

def exprName : ToolExpr → String
  | .call .. => "call"
  | .sequence .. => "sequence"
  | .parallel .. => "parallel"
  | .choice .. => "choice"
  | .retry .. => "retry"
  | .let_ .. => "let"
  | .var _ => "var"

def execute (env : Environment) (expr : ToolExpr) (ctx : ExecutionContext) :
    ExecutionContext × Outcome :=
  let (after, result) := executeInternal env expr [] ctx
  let logged := { after with
    executionLog := after.executionLog ++ [(exprName expr, result)] }
  match result with
  | .ok value => (logged.bind "_last" value, result)
  | .error _ => (logged, result)

/- What an expression leaves of the context it is executed in. -/

mutual
/-- The variables that an expression binds outside its parallel branches. -/
def binds : ToolExpr → List String
  | .call .. | .parallel .. | .var _ => []
  | .sequence steps _ => bindsAll steps
  | .choice _ thenBranch elseBranch => binds thenBranch ++ bindsElse elseBranch
  | .retry expr .. => binds expr
  | .let_ var expr body => var :: (binds expr ++ binds body)
def bindsElse : Option ToolExpr → List String
  | none => []
  | some expr => binds expr
def bindsAll : List ToolExpr → List String
  | [] => []
  | step :: rest => binds step ++ bindsAll rest
end

/-- The values of these variables, the contexts around and the log are what they were. -/
structure Leaves (free : String → Prop) (before later : ExecutionContext) : Prop where
  bindings : ∀ name, free name → later.bindings.lookup name = before.bindings.lookup name
  parents : later.parents = before.parents
  log : later.executionLog = before.executionLog

theorem Leaves.refl (free : String → Prop) (ctx : ExecutionContext) : Leaves free ctx ctx :=
  ⟨fun _ _ => rfl, rfl, rfl⟩

theorem Leaves.trans (first : Leaves free ctx mid) (second : Leaves free mid later) :
    Leaves free ctx later where
  bindings := fun name kept => (second.bindings name kept).trans (first.bindings name kept)
  parents := second.parents.trans first.parents
  log := second.log.trans first.log

theorem Leaves.bind (leaves : Leaves free ctx later) (bound : ¬ free var) (value : ToolResult) :
    Leaves free ctx (later.bind var value) := by
  refine leaves.trans ⟨fun name kept => ?_, rfl, rfl⟩
  have other : name ≠ var := fun same => bound (same ▸ kept)
  simp [ExecutionContext.bind, List.lookup_cons, beq_false_of_ne other]

theorem retryAttempts_leaves (each : ∀ attempt ctx, Leaves free ctx (run attempt ctx).1)
    (left attempt : Nat) (ctx : ExecutionContext) (lastError : Option ToolError) :
    Leaves free ctx (retryAttempts run left attempt ctx lastError).1 := by
  induction left generalizing attempt ctx lastError with
  | zero => exact .refl _ _
  | succ left ih =>
    have here := each attempt ctx
    unfold retryAttempts
    split
    · rename_i ran
      rw [ran] at here
      split
      · exact here
      · exact here.trans (ih _ _ _)
    · rename_i ran
      rw [ran] at here
      exact here.trans (ih _ _ _)

-- By recursion on the expression; a retry leaves what each attempt leaves.
mutual
theorem executeInternal_leaves (env : Environment) (last : ¬ free "_last") :
    ∀ expr place ctx, (∀ name ∈ binds expr, ¬ free name) →
      Leaves free ctx (executeInternal env expr place ctx).1
  | .call .., _, _, _ | .parallel .., _, _, _ | .var _, _, _, _ => .refl _ _
  | .sequence steps failFast, place, ctx, bound =>
    executeSequence_leaves env last failFast steps 0 place ctx _ bound
  | .choice condition thenBranch elseBranch, place, ctx, bound => by
    rw [binds, List.forall_mem_append] at bound
    unfold executeInternal
    dsimp only
    split
    · exact executeInternal_leaves env last thenBranch _ ctx bound.1
    · exact executeElse_leaves env last elseBranch _ ctx bound.2
  | .retry expr _ _, place, ctx, bound =>
    retryAttempts_leaves (fun attempt ctx =>
      executeInternal_leaves env last expr (attempt :: place) ctx bound) _ _ _ _
  | .let_ var expr body, place, ctx, bound => by
    rw [binds, List.forall_mem_cons, List.forall_mem_append] at bound
    have first := executeInternal_leaves env last expr (0 :: place) ctx bound.2.1
    unfold executeInternal
    split
    · rename_i ran
      rwa [ran] at first
    · rename_i value ran
      rw [ran] at first
      exact ((first.bind bound.1 value).bind last value).trans
        (executeInternal_leaves env last body _ _ bound.2.2)
theorem executeElse_leaves (env : Environment) (last : ¬ free "_last") :
    ∀ expr place ctx, (∀ name ∈ bindsElse expr, ¬ free name) →
      Leaves free ctx (executeElse env expr place ctx).1
  | none, _, _, _ => .refl _ _
  | some expr, place, ctx, bound => executeInternal_leaves env last expr place ctx bound
theorem executeSequence_leaves (env : Environment) (last : ¬ free "_last") (failFast : Bool) :
    ∀ steps position place ctx lastResult, (∀ name ∈ bindsAll steps, ¬ free name) →
      Leaves free ctx (executeSequence env failFast steps position place ctx lastResult).1
  | [], _, _, _, _, _ => .refl _ _
  | step :: rest, position, place, ctx, _, bound => by
    rw [bindsAll, List.forall_mem_append] at bound
    have first := executeInternal_leaves env last step (position :: place) ctx bound.1
    have later ctx lastResult := executeSequence_leaves env last failFast rest (position + 1) place
      ctx lastResult bound.2
    unfold executeSequence
    split
    · rename_i result ran
      rw [ran] at first
      dsimp only
      split
      · exact first.bind last result
      · exact (first.bind last result).trans (later _ _)
    · rename_i ran
      rw [ran] at first
      split
      · exact first
      · exact (first.bind last _).trans (later _ _)
end

/-- An execution adds one entry to the log, leaves the value as `_last`, and changes no other
    variable than those its expression binds outside parallel branches. -/
theorem execute_frame (env : Environment) (expr : ToolExpr) (ctx : ExecutionContext) :
    (∀ name, name ≠ "_last" → name ∉ binds expr →
      (execute env expr ctx).1.lookup name = ctx.lookup name) ∧
    (execute env expr ctx).1.parents = ctx.parents ∧
    (execute env expr ctx).1.executionLog =
      ctx.executionLog ++ [(exprName expr, (execute env expr ctx).2)] ∧
    ∀ value, (execute env expr ctx).2 = .ok value →
      (execute env expr ctx).1.lookup "_last" = some value := by
  have leaves : Leaves (fun name => name ≠ "_last" ∧ name ∉ binds expr) ctx
      (executeInternal env expr [] ctx).1 :=
    executeInternal_leaves env (fun kept => kept.1 rfl) expr [] ctx
      (fun name member kept => kept.2 member)
  unfold execute
  generalize executeInternal env expr [] ctx = run at leaves ⊢
  cases run with
  | mk after result =>
    have kept : ∀ name, name ≠ "_last" → name ∉ binds expr →
        after.lookup name = ctx.lookup name := by
      intro name other unbound
      have same : after.bindings.lookup name = _ := leaves.bindings name ⟨other, unbound⟩
      have parents : after.parents = _ := leaves.parents
      simp only [ExecutionContext.lookup, List.findSome?_cons, same, parents]
    cases result with
    | error error => exact ⟨kept, leaves.parents, congrArg (· ++ _) leaves.log, nofun⟩
    | ok value =>
      refine ⟨fun name other unbound => ?_, leaves.parents, congrArg (· ++ _) leaves.log, ?_⟩
      · rw [← kept name other unbound]
        simp [ExecutionContext.lookup, ExecutionContext.bind, List.findSome?_cons, List.lookup_cons,
          beq_false_of_ne other]
      · rintro _ ⟨⟩
        simp [ExecutionContext.lookup, ExecutionContext.bind]

end Composition
