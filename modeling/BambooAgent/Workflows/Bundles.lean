import BambooAgent.Library.Traversals
import BambooAgent.Workflows.Contracts
import Mathlib.Data.Finset.Basic

/- The pinned definitions of a workflow and those it calls, the traversals that check them before a
   run, and how a run starts a nested one. -/
namespace Workflows
open JsonValues

variable {β : Type}

inductive WorkflowRunError where
  | preflight (message : String)
  | compile (message : String)
  | unsupportedMonetaryBudget
  deriving DecidableEq

structure WorkflowDefinitionBundle (β : Type) where
  rootId : String
  rootRevision : Nat
  definitions : List (String × WorkflowRunDefinition β)

namespace WorkflowDefinitionBundle

def key (id : String) (revision : Nat) : String := id ++ "@" ++ toString revision

def getKey (bundle : WorkflowDefinitionBundle β) (key : String) :
    Option (WorkflowRunDefinition β) :=
  bundle.definitions.lookup key

def get (bundle : WorkflowDefinitionBundle β) (id : String) (revision : Nat) :
    Option (WorkflowRunDefinition β) :=
  bundle.getKey (key id revision)

def rootKey (bundle : WorkflowDefinitionBundle β) : String := key bundle.rootId bundle.rootRevision

def root (bundle : WorkflowDefinitionBundle β) : Option (WorkflowRunDefinition β) :=
  bundle.get bundle.rootId bundle.rootRevision

end WorkflowDefinitionBundle
open WorkflowDefinitionBundle

/- Compilation. -/

/-- What compilation refuses, and the order in which the map of the steps gives them. -/
structure Compiler (β : Type) where
  check : WorkflowRunDefinition β → Except String Unit
  order : WorkflowRunDefinition β → List (String × WorkflowStepDefinition)
  order_perm : ∀ definition,
    (order definition).Perm (definition.steps.map (fun step => (step.id, step)))

def Compiler.compile (compiler : Compiler β) (definition : WorkflowRunDefinition β) :
    Except WorkflowRunError (CompiledWorkflow β) :=
  match compiler.check definition with
  | .error message => .error (.compile message)
  | .ok () => .ok ⟨definition, compiler.order definition⟩

/- Validation. -/

def nestedKey : WorkflowStepKind → Option String
  | .workflow workflowId revision _ => some (key workflowId revision)
  | .tool _ _ _ | .agent _ _ _ => none

def checkNested (missing : String → String) (bundle : WorkflowDefinitionBundle β)
    (compiled : CompiledWorkflow β) (kind : WorkflowStepKind) :
    Except WorkflowRunError (List String) :=
  match kind with
  | .workflow workflowId revision args =>
    match bundle.get workflowId revision with
    | none => .error (.preflight (missing (key workflowId revision)))
    | some nested =>
      match validateNestedInputContract args nested.inputSchema compiled with
      | .error message => .error (.preflight message)
      | .ok () => .ok [key workflowId revision]
  | .tool _ _ _ | .agent _ _ _ => .ok []

def validTargets (compiler : Compiler β) (bundle : WorkflowDefinitionBundle β) (here : String) :
    Except WorkflowRunError (List String) :=
  match bundle.getKey here with
  | none => .error (.preflight ("pinned bundle is missing " ++ here))
  | some definition => do
    if key definition.id definition.revision ≠ here then
      .error (.preflight "pinned bundle definition identity mismatch")
    else
      let compiled ← compiler.compile definition
      let nested ← compiled.steps.mapM (fun step =>
        checkNested (fun key => "pinned bundle is missing " ++ key) bundle compiled step.2.kind)
      .ok nested.flatten

def noCycle (here : String) (path : List String) : Except WorkflowRunError Unit :=
  if here ∈ path then .error (.preflight ("nested workflow cycle includes " ++ here)) else .ok ()

/-- `secretFree` is the check of the serialized bundle. -/
def validateBundle [DecidableEq β] (compiler : Compiler β)
    (secretFree : WorkflowDefinitionBundle β → Except String Unit)
    (root : WorkflowRunDefinition β) (bundle : WorkflowDefinitionBundle β) :
    Except WorkflowRunError Unit :=
  if bundle.rootId ≠ root.id ∨ bundle.rootRevision ≠ root.revision ∨ bundle.root ≠ some root then
    .error (.preflight "pinned bundle root identity/content mismatch")
  else
    match secretFree bundle with
    | .error message => .error (.preflight message)
    | .ok () =>
      (Traversals.search (bundle.definitions.map Prod.fst)
        (fun key => .preflight ("pinned bundle is missing " ++ key)) noCycle
        (Traversals.spread (validTargets compiler bundle) (fun here path => path ++ [here]))
        [] [(key root.id root.revision, [])]).map (fun _ => ())

/- Preflight. -/

structure NamedAgentSpec where
  name : String
  allowedCapabilities : Finset String
  costSupported : Bool

inductive PermissionDecision where
  | allow
  | deny (reason : String)

inductive WorkflowPolicyTarget where
  | tool (name : String)
  | agent (name : String)
  | workflow (id : String) (revision : Nat)

/-- The agents and the policy of a session, as the engine's ports answer. -/
structure SessionPorts where
  resolve : String → Except String (Option NamedAgentSpec)
  authorize : WorkflowPolicyTarget → Finset String → PermissionDecision

def exceedsOptional : Option Nat → Option Nat → Bool
  | some requested, some ceiling => requested > ceiling
  | _, _ => false

def enforceBudgetWithin (requested ceiling : WorkflowBudgets) : Except String Unit :=
  if requested.maxConcurrency > ceiling.maxConcurrency then .error "max_concurrency"
  else if requested.maxAgents > ceiling.maxAgents then .error "max_agents"
  else if requested.maxSteps > ceiling.maxSteps then .error "max_steps"
  else if requested.maxRetries > ceiling.maxRetries then .error "max_retries"
  else if requested.maxNestingDepth > ceiling.maxNestingDepth then .error "max_nesting_depth"
  else if requested.wallTimeMs > ceiling.wallTimeMs then .error "wall_time_ms"
  else if exceedsOptional requested.maxTokens ceiling.maxTokens then .error "max_tokens"
  else if exceedsOptional requested.maxCostMicros ceiling.maxCostMicros then
    .error "max_cost_micros"
  else .ok ()

def resolveAgent (ports : SessionPorts) (agent : String) :
    Except WorkflowRunError NamedAgentSpec :=
  match ports.resolve agent with
  | .error _ => .error (.preflight "named agent resolution failed")
  | .ok none => .error (.preflight ("unknown named agent '" ++ agent ++ "'"))
  | .ok (some spec) =>
    if spec.name ≠ agent then
      .error (.preflight "named agent resolver returned mismatched identity")
    else .ok spec

def stepTarget (ports : SessionPorts) (rootLimits : WorkflowBudgets)
    (bundle : WorkflowDefinitionBundle β) (compiled : CompiledWorkflow β)
    (kind : WorkflowStepKind) :
    Except WorkflowRunError (WorkflowPolicyTarget × List String × List String) :=
  match kind with
  | .tool tool _ capabilities => .ok (.tool tool, capabilities, [])
  | .agent agent _ capabilities => do
    let spec ← resolveAgent ports agent
    if (rootLimits.maxCostMicros.isSome || compiled.definition.budgets.maxCostMicros.isSome) &&
        !spec.costSupported then
      .error .unsupportedMonetaryBudget
    else if !capabilities.all (fun capability => capability ∈ spec.allowedCapabilities) then
      .error (.preflight ("agent '" ++ agent ++ "' capability expansion denied"))
    else .ok (.agent agent, capabilities, [])
  | .workflow workflowId revision _ => do
    let nested ← checkNested (fun key => "missing pinned workflow " ++ key) bundle compiled kind
    .ok (.workflow workflowId revision, [], nested)

def preflightStep (ports : SessionPorts) (allowed : Finset String) (rootLimits : WorkflowBudgets)
    (bundle : WorkflowDefinitionBundle β) (compiled : CompiledWorkflow β)
    (step : WorkflowStepDefinition) : Except WorkflowRunError (List String) := do
  let (target, capabilities, nested) ← stepTarget ports rootLimits bundle compiled step.kind
  if ¬ capabilities.toFinset ⊆ allowed then
    .error (.preflight ("step '" ++ step.id ++ "' exceeds root capabilities"))
  else
    match ports.authorize target capabilities.toFinset with
    | .deny _ => .error (.preflight "workflow policy denied this step")
    | .allow => .ok nested

def preflightTargets (compiler : Compiler β) (ports : SessionPorts) (allowed : Finset String)
    (rootLimits : WorkflowBudgets) (bundle : WorkflowDefinitionBundle β) (here : String) :
    Except WorkflowRunError (List String) :=
  match bundle.getKey here with
  | none => .error (.preflight "pinned workflow definition missing")
  | some definition =>
    match enforceBudgetWithin definition.budgets rootLimits with
    | .error message =>
      .error (.preflight ("nested workflow budget expands root: " ++ message))
    | .ok () => do
      let compiled ← compiler.compile definition
      let nested ← compiled.steps.mapM (fun step =>
        preflightStep ports allowed rootLimits bundle compiled step.2)
      .ok nested.flatten

def withinDepth (rootLimits : WorkflowBudgets) (_here : String) (depth : Nat) :
    Except WorkflowRunError Unit :=
  if depth ≥ rootLimits.maxNestingDepth then
    .error (.preflight "nested workflow depth exceeded shared root limit")
  else .ok ()

def preflightVisits (inspect : String → Nat → Except WorkflowRunError Unit)
    (compiler : Compiler β) (ports : SessionPorts) (allowed : Finset String)
    (rootLimits : WorkflowBudgets) (bundle : WorkflowDefinitionBundle β) :
    Except WorkflowRunError (List (String × Nat)) :=
  Traversals.search (bundle.definitions.map Prod.fst)
    (fun _ => .preflight "pinned workflow definition missing") inspect
    (Traversals.spread (preflightTargets compiler ports allowed rootLimits bundle)
      (fun _ depth => depth + 1))
    [] [(bundle.rootKey, 0)]

def pinnedAgents (compiler : Compiler β) (ports : SessionPorts)
    (bundle : WorkflowDefinitionBundle β) (visits : List (String × Nat)) :
    List (String × NamedAgentSpec) :=
  visits.reverse.flatMap (fun visit =>
    ((bundle.getKey visit.1).elim [] compiler.order).filterMap (fun step =>
      match step.2.kind with
      | .agent agent _ _ => (resolveAgent ports agent).toOption.map (fun spec => (agent, spec))
      | .tool _ _ _ | .workflow _ _ _ => none))

def preflightBundle (compiler : Compiler β) (ports : SessionPorts) (allowed : Finset String)
    (rootLimits : WorkflowBudgets) (bundle : WorkflowDefinitionBundle β) :
    Except WorkflowRunError (List (String × NamedAgentSpec)) :=
  (preflightVisits (withinDepth rootLimits) compiler ports allowed rootLimits bundle).map
    (pinnedAgents compiler ports bundle)

/- Dispatch. -/

inductive WorkflowFailureCode where
  | budgetExceeded
  | unknownReference

structure WorkflowFailure where
  code : WorkflowFailureCode
  message : String
  retryable : Bool

def depthExceeded : WorkflowFailure :=
  ⟨.budgetExceeded, "nested workflow depth exceeded", false⟩

def dispatchWorkflow (rootLimits : WorkflowBudgets) (bundle : WorkflowDefinitionBundle β)
    (depth : Nat) (workflowId : String) (revision : Nat) :
    Except WorkflowFailure (WorkflowRunDefinition β × Nat) :=
  if depth + 1 ≥ rootLimits.maxNestingDepth then .error depthExceeded
  else
    match bundle.get workflowId revision with
    | none =>
      .error ⟨.unknownReference,
        "persisted bundle missing workflow " ++ key workflowId revision, false⟩
    | some definition => .ok (definition, depth + 1)

/-- The runs of a bundle: any of its steps may be executed by a run. -/
inductive Started (rootLimits : WorkflowBudgets) (bundle : WorkflowDefinitionBundle β) :
    WorkflowRunDefinition β → Nat → Prop where
  | root {definition} (pinned : bundle.root = some definition) :
      Started rootLimits bundle definition 0
  | nested {definition depth step workflowId revision args target later}
      (caller : Started rootLimits bundle definition depth) (held : step ∈ definition.steps)
      (kind : step.kind = .workflow workflowId revision args)
      (dispatched :
        dispatchWorkflow rootLimits bundle depth workflowId revision = .ok (target, later)) :
      Started rootLimits bundle target later

/-- Some run fails since it would start a nested one too deep. -/
def FailsTooDeep (rootLimits : WorkflowBudgets) (bundle : WorkflowDefinitionBundle β) : Prop :=
  ∃ definition depth, Started rootLimits bundle definition depth ∧
    ∃ step ∈ definition.steps, ∃ workflowId revision args,
      step.kind = .workflow workflowId revision args ∧
        dispatchWorkflow rootLimits bundle depth workflowId revision = .error depthExceeded

end Workflows
