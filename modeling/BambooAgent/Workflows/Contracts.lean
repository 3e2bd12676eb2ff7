import BambooAgent.Workflows.Schemas

/- What a nested workflow is given: the template of its input, what the template is resolved to,
   and the contract that is checked before. -/
namespace Workflows
open JsonValues

structure WorkflowBudgets where
  maxConcurrency : Nat
  maxAgents : Nat
  maxSteps : Nat
  maxRetries : Nat
  maxNestingDepth : Nat
  wallTimeMs : Nat
  maxTokens : Option Nat
  maxCostMicros : Option Nat
  deriving DecidableEq

inductive WorkflowStepKind where
  | tool (tool : String) (args : Json) (capabilities : List String)
  | agent (agent : String) (prompt : Json) (capabilities : List String)
  | workflow (workflowId : String) (revision : Nat) (args : Json)
  deriving DecidableEq

structure WorkflowStepDefinition where
  id : String
  kind : WorkflowStepKind
  outputSchema : Option Json
  deriving DecidableEq

/-- `rest` is what neither the contract nor the bundle looks at. -/
structure WorkflowRunDefinition (β : Type) where
  id : String
  revision : Nat
  inputSchema : Json
  steps : List WorkflowStepDefinition
  budgets : WorkflowBudgets
  rest : β
  deriving DecidableEq

/-- The steps by id, in the order in which the map gives them. -/
structure CompiledWorkflow (β : Type) where
  definition : WorkflowRunDefinition β
  steps : List (String × WorkflowStepDefinition)

inductive ValueRef where
  | args (pointer : String)
  | step (step pointer : String)
  | item (name pointer : String)
  | literal (value : Json)

variable {β : Type}

/- References. -/

def pointerField (named : List String) (fields : List (String × Json)) : Option String :=
  if fields.all (fun field => (named ++ ["from", "pointer"]).contains field.1) then
    (fields.lookup "pointer").elim (some "") Json.asString
  else none

def parseRef : Json → Option ValueRef
  | .object fields =>
    match (fields.lookup "from").bind Json.asString with
    | some "args" => (pointerField [] fields).map ValueRef.args
    | some "step" =>
      ((fields.lookup "step").bind Json.asString).bind (fun step =>
        (pointerField ["step"] fields).map (ValueRef.step step))
    | some "item" =>
      ((fields.lookup "name").bind Json.asString).bind (fun name =>
        (pointerField ["name"] fields).map (ValueRef.item name))
    | some "literal" =>
      if fields.all (fun field => ["from", "value"].contains field.1) then
        (fields.lookup "value").map ValueRef.literal
      else none
    | _ => none
  | .array [.string "args"] => some (.args "")
  | .array [.string "args", .string pointer] => some (.args pointer)
  | .array [.string "step", .string step] => some (.step step "")
  | .array [.string "step", .string step, .string pointer] => some (.step step pointer)
  | .array [.string "item", .string name] => some (.item name "")
  | .array [.string "item", .string name, .string pointer] => some (.item name pointer)
  | .array [.string "literal", value] => some (.literal value)
  | _ => none

def pointerTokens (pointer : String) : Option (List String) :=
  if pointer = "" then some []
  else
    match pointer.splitOn "/" with
    | "" :: tokens => some (tokens.map (fun token => (token.replace "~1" "/").replace "~0" "~"))
    | _ => none

/-- An index of a pointer has no sign and no leading zero. -/
def pointerIndex (token : String) : Option Nat :=
  if token.startsWith "+" || (token.startsWith "0" && token.length ≠ 1) then none
  else parseIndex token

def child (target : Json) (token : String) : Option Json :=
  match target with
  | .object fields => fields.lookup token
  | .array items => (pointerIndex token).bind (fun index => items[index]?)
  | _ => none

def valuePointer (root : Json) (pointer : String) : Option Json :=
  (pointerTokens pointer).bind (fun tokens => tokens.foldlM child root)

/- Resolution. -/

/-- The validated input, the outputs of the steps as they are looked up, and the map items. -/
structure RunScope where
  args : Json
  outputs : String → Option Json
  items : String → Option Json

def resolveRef (scope : RunScope) : ValueRef → Except String Json
  | .literal value => .ok value
  | .args pointer => at_ scope.args pointer
  | .step step pointer =>
    match scope.outputs step with
    | none => .error ("step output '" ++ step ++ "' unavailable in execution scope")
    | some output => at_ output pointer
  | .item name pointer =>
    match scope.items name with
    | none => .error ("map item '" ++ name ++ "' unavailable")
    | some item => at_ item pointer
where
  at_ (root : Json) (pointer : String) : Except String Json :=
    if pointer = "" then .ok root
    else
      match valuePointer root pointer with
      | none => .error ("JSON pointer '" ++ pointer ++ "' not found")
      | some value => .ok value

mutual
def resolveTemplate (scope : RunScope) : Json → Except String Json
  | .object fields =>
    if (fields.lookup "from").isSome then
      match parseRef (.object fields) with
      | none => .error "malformed value reference"
      | some reference => resolveRef scope reference
    else (resolveFields scope fields).map Json.object
  | .array items => (resolveItems scope items).map Json.array
  | .null => .ok .null
  | .bool value => .ok (.bool value)
  | .number value => .ok (.number value)
  | .string value => .ok (.string value)
def resolveFields (scope : RunScope) :
    List (String × Json) → Except String (List (String × Json))
  | [] => .ok []
  | (key, child) :: rest => do
    let first ← resolveTemplate scope child
    let later ← resolveFields scope rest
    .ok ((key, first) :: later)
def resolveItems (scope : RunScope) : List Json → Except String (List Json)
  | [] => .ok []
  | child :: rest => do
    let first ← resolveTemplate scope child
    let later ← resolveItems scope rest
    .ok (first :: later)
end

/- The contract. -/

mutual
def containsRef : Json → Bool
  | .object fields => (fields.lookup "from").isSome || fieldsContainRef fields
  | .array items => itemsContainRef items
  | .null | .bool _ | .number _ | .string _ => false
def fieldsContainRef : List (String × Json) → Bool
  | [] => false
  | (_, child) :: rest => containsRef child || fieldsContainRef rest
def itemsContainRef : List Json → Bool
  | [] => false
  | child :: rest => containsRef child || itemsContainRef rest
end

def schemaChild (current : Json) (token : String) : Option Json :=
  if (parseIndex token).isSome then current.get "items"
  else (current.get "properties").bind (fun properties => properties.get token)

def schemaAtPointer (schema : Json) (pointer : String) : Option Json :=
  (pointerTokens pointer).bind (fun tokens => tokens.foldlM schemaChild schema)

def schemaType (schema : Json) : Option String := (schema.get "type").bind Json.asString

def schemaCompatible (source target : Json) : Bool :=
  source = target ||
    ((schemaType source).isSome && schemaType source = schemaType target &&
      schemaType target ≠ some "object")

def sourceSchema (compiled : CompiledWorkflow β) : ValueRef → Option Json
  | .args pointer => schemaAtPointer compiled.definition.inputSchema pointer
  | .step step pointer =>
    ((compiled.steps.lookup step).bind (·.outputSchema)).bind (fun schema =>
      schemaAtPointer schema pointer)
  | .literal _ | .item _ _ => none

def validateNestedInputContract (template targetSchema : Json) (compiled : CompiledWorkflow β) :
    Except String Unit :=
  let incompatible (checked : Except String Unit) : Except String Unit :=
    checked.mapError (fun error => "nested workflow input is incompatible: " ++ error)
  if !containsRef template then incompatible (validateSchema targetSchema template)
  else
    match parseRef template with
    | none => .error "nested dynamic input schema cannot be proven compatible in phase 1"
    | some (.literal value) => incompatible (validateSchema targetSchema value)
    | some reference =>
      match sourceSchema compiled reference with
      | none => .error "nested dynamic input source schema is missing or pointer is invalid"
      | some source =>
        if schemaCompatible source targetSchema then .ok ()
        else .error "nested workflow input schema is not compatible with its pinned target"

end Workflows
