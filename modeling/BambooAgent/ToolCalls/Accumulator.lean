import BambooAgent.Compression.Texts

/- The reconstruction of tool calls from streamed chunks. -/
namespace ToolCalls

structure FunctionCall where
  name : String
  arguments : String

structure ToolCall where
  id : String
  toolType : String
  function : FunctionCall

structure PartialToolCall where
  id : String
  toolType : String
  name : String
  arguments : String
  index : Option Nat

/-- The first element that matches is changed; none when there is none. -/
def modifyFirst {α : Type} (p : α → Bool) (f : α → α) : List α → Option (List α)
  | [] => none
  | x :: rest => if p x then some (f x :: rest) else (modifyFirst p f rest).map (x :: ·)

def modifyLast {α : Type} (f : α → α) : List α → Option (List α)
  | [] => none
  | [x] => some [f x]
  | x :: y :: rest => (modifyLast f (y :: rest)).map (x :: ·)

/-- The part that a chunk begins. -/
def newPart (index : Option Nat) (call : ToolCall) : PartialToolCall :=
  { id := call.id, toolType := call.toolType, name := call.function.name,
    arguments := call.function.arguments, index }

def appendArguments (call : ToolCall) (part : PartialToolCall) : PartialToolCall :=
  { part with arguments := part.arguments ++ call.function.arguments }

def mergePositional (call : ToolCall) (part : PartialToolCall) : PartialToolCall :=
  { part with
    arguments := part.arguments ++ call.function.arguments,
    name := if call.function.name = "" then part.name else call.function.name,
    toolType := if call.toolType = "" then part.toolType else call.toolType }

def mergeIndexed (call : ToolCall) (part : PartialToolCall) : PartialToolCall :=
  { part with
    arguments := part.arguments ++ call.function.arguments,
    id := if call.id = "" then part.id else call.id,
    name := if call.function.name = "" then part.name else call.function.name,
    toolType := if call.toolType = "" then part.toolType else call.toolType }

def updatePartialToolCall (parts : List PartialToolCall) (call : ToolCall) :
    List PartialToolCall :=
  if call.id = "" && call.function.name = "" && call.function.arguments = "" then parts
  else if call.id = "" && call.function.name = "" then
    (modifyLast (appendArguments call) parts).getD
      [{ id := "", toolType := call.toolType, name := "",
         arguments := call.function.arguments, index := none }]
  else
    let matching (part : PartialToolCall) : Bool :=
      if call.id ≠ "" then part.id = call.id
      else (part.id = "" && part.name = call.function.name) || (part.id = "" && part.name = "")
    (modifyFirst matching (mergePositional call) parts).getD (parts ++ [newPart none call])

def updatePartialToolCallIndexed (parts : List PartialToolCall) (index : Nat)
    (call : ToolCall) : List PartialToolCall :=
  (modifyFirst (fun part => part.index = some index) (mergeIndexed call) parts).getD
    (parts ++ [newPart (some index) call])

/-- The calls of the parts that have a name; `uuid` gives the generated ids, from `next` on. -/
def finalizeToolCalls (uuid : Nat → String) : Nat → List PartialToolCall → List ToolCall
  | _, [] => []
  | next, part :: rest =>
    if (Compression.trim part.name).isEmpty then finalizeToolCalls uuid next rest
    else
      let toolType := if part.toolType = "" then "function" else part.toolType
      let function := { name := part.name, arguments := part.arguments }
      if part.id = "" then
        { id := "call_" ++ uuid next, toolType, function } ::
          finalizeToolCalls uuid (next + 1) rest
      else { id := part.id, toolType, function } :: finalizeToolCalls uuid next rest

/- Runs. -/

inductive Update where
  | positional (call : ToolCall)
  | indexed (index : Nat) (call : ToolCall)

def apply_ (parts : List PartialToolCall) : Update → List PartialToolCall
  | .positional call => updatePartialToolCall parts call
  | .indexed index call => updatePartialToolCallIndexed parts index call

/-- What an accumulator holds after updates of both kinds. -/
def accumulate (parts : List PartialToolCall) (updates : List Update) : List PartialToolCall :=
  updates.foldl apply_ parts

def extendIndexed (parts : List PartialToolCall) (calls : List (Nat × ToolCall)) :
    List PartialToolCall :=
  calls.foldl (fun parts call => updatePartialToolCallIndexed parts call.1 call.2) parts

def fragmentsOf (index : Nat) (calls : List (Nat × ToolCall)) : List ToolCall :=
  (calls.filter (fun call => call.1 = index)).map (·.2)

/-- The arguments of the chunks, one after the other. -/
def joined (calls : List ToolCall) : String :=
  calls.foldl (fun text call => text ++ call.function.arguments) ""

def Update.call : Update → ToolCall
  | .positional call => call
  | .indexed _ call => call

/-- The chunks of an index among updates of both kinds. -/
def indexedCalls (index : Nat) (updates : List Update) : List ToolCall :=
  updates.filterMap (fun
    | .indexed other call => if other = index then some call else none
    | .positional _ => none)

end ToolCalls
