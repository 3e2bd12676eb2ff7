import Mathlib.Algebra.Order.Ring.Int
import BambooAgent.Compression.Texts
import BambooAgent.Library.Json

/- Schemas, and the values that they accept. -/
namespace Workflows
open JsonValues

/-- Where below the root a check fails, and why. -/
structure Flaw where
  path : String
  message : String

def flaw (message : String) : Except Flaw Unit := .error { path := "", message }

def under (place : String) (checked : Except Flaw Unit) : Except Flaw Unit :=
  checked.mapError (fun flaw => { flaw with path := place ++ flaw.path })

def Flaw.text (path : String) (flaw : Flaw) : String := path ++ flaw.path ++ ": " ++ flaw.message

/-- The nearest float, ties to even, of a natural number. -/
def roundNat (n : Nat) : Nat :=
  let bits := Nat.log2 n
  if bits < 53 then n
  else
    let unit := 2 ^ (bits - 52)
    let down := n / unit
    let rest := n % unit
    (if unit < 2 * rest || (2 * rest = unit && down % 2 = 1) then down + 1 else down) * unit

def asF64 : Json → Option Rat
  | .number (.float value) => some value
  | .number (.int value) =>
    some (if 0 ≤ value then (roundNat value.natAbs : Rat) else -(roundNat value.natAbs : Rat))
  | _ => none

/-- `as_i64` or `as_u64` gives something. -/
def isInteger : Json → Bool
  | .number (.int value) => -2 ^ 63 ≤ value && value < 2 ^ 64
  | _ => false

def isNumber : Json → Bool
  | .number _ => true
  | _ => false

def isBoolean : Json → Bool
  | .bool _ => true
  | _ => false

def validKind (kind : String) : Bool :=
  kind = "null" || kind = "boolean" || kind = "object" || kind = "array" || kind = "number" ||
    kind = "integer" || kind = "string"

def supported : List String :=
  ["type", "enum", "required", "properties", "additionalProperties", "items", "minimum",
    "maximum", "x-bamboo-secret"]

def validType : Json → Bool
  | .string kind => validKind kind
  | .array kinds => !kinds.isEmpty && kinds.all (fun kind => kind.asString.any validKind)
  | _ => false

/-- What a schema's own keywords must be. -/
def keywordsShape (object : List (String × Json)) : Except Flaw Unit :=
  match object.find? (fun field => !supported.contains field.1) with
  | some field => flaw ("unsupported schema keyword '" ++ field.1 ++ "'")
  | none =>
    if (object.lookup "x-bamboo-secret").any (fun value => !isBoolean value) then
      flaw "x-bamboo-secret must be boolean"
    else if (object.lookup "type").any (fun kind => !validType kind) then
      flaw "invalid or unsupported type"
    else if (object.lookup "enum").any (fun value => value.asArray.isNone) then
      flaw "enum must be an array"
    else if (object.lookup "required").any (fun required =>
        !required.asArray.any (fun values => values.all (fun value => value.asString.isSome))) then
      flaw "required must be an array of strings"
    else .ok ()

def boundsShape (object : List (String × Json)) : Except Flaw Unit :=
  if (object.lookup "minimum").any (fun value => !isNumber value) then
    flaw "minimum must be numeric"
  else if (object.lookup "maximum").any (fun value => !isNumber value) then
    flaw "maximum must be numeric"
  else .ok ()

def additionalShape (object : List (String × Json)) : Except Flaw Unit :=
  if (object.lookup "additionalProperties").any (fun value => !isBoolean value) then
    flaw "additionalProperties must be boolean"
  else .ok ()

mutual
def schemaShape : Json → Except Flaw Unit
  | .object object => do
    keywordsShape object
    propertiesShape object
    additionalShape object
    itemsShape object
    boundsShape object
  | .null | .bool _ | .number _ | .string _ | .array _ => flaw "schema must be an object"
def propertiesShape : List (String × Json) → Except Flaw Unit
  | [] => .ok ()
  | (key, value) :: rest =>
    if key = "properties" then
      match value with
      | .object children => childrenShape children
      | .null | .bool _ | .number _ | .string _ | .array _ => flaw "properties must be an object"
    else propertiesShape rest
def childrenShape : List (String × Json) → Except Flaw Unit
  | [] => .ok ()
  | (key, child) :: rest => do
    under ("/properties/" ++ key) (schemaShape child)
    childrenShape rest
/-- The first `items` among the keywords. -/
def itemsShape : List (String × Json) → Except Flaw Unit
  | [] => .ok ()
  | (key, value) :: rest =>
    if key = "items" then under "/items" (schemaShape value) else itemsShape rest
end

def validateSchemaShape (schema : Json) (path : String) : Except String Unit :=
  (schemaShape schema).mapError (Flaw.text path)

def matchesType (kind : String) (value : Json) : Bool :=
  match kind with
  | "null" => value = .null
  | "boolean" => isBoolean value
  | "object" => value.asObject.isSome
  | "array" => value.asArray.isSome
  | "number" => isNumber value
  | "integer" => isInteger value
  | "string" => value.asString.isSome
  | _ => false

def matchesTypes : Json → Json → Bool
  | .string kind, value => matchesType kind value
  | .array kinds, value => (kinds.filterMap Json.asString).any (fun kind => matchesType kind value)
  | _, _ => false

/-- A typed capability handle. -/
def isSecretHandle (value : Json) : Bool :=
  value.asObject.any (fun handle =>
    handle.length = 1 && (((handle.lookup "$secret").bind Json.asString).any (fun text =>
      !(Compression.trim text).isEmpty)))

def isSecret (object : List (String × Json)) : Bool :=
  object.lookup "x-bamboo-secret" = some (.bool true)

/-- The keywords about the value as a whole, in the order in which they are checked. -/
def checkValue (object : List (String × Json)) (value : Json) : Except Flaw Unit :=
  if (object.lookup "type").any (fun types => !matchesTypes types value) then
    flaw "value does not match schema type"
  else if ((object.lookup "enum").bind Json.asArray).any (fun values =>
      !values.contains value) then
    flaw "value is not in enum"
  else
    match (object.lookup "required").bind Json.asArray with
    | none => .ok ()
    | some required =>
      match value.asObject with
      | none => flaw "required applies to an object"
      | some fields =>
        match (required.filterMap Json.asString).find? (fun key =>
            (fields.lookup key).isNone) with
        | some key => flaw ("required property '" ++ key ++ "' is missing")
        | none => .ok ()

def checkBounds (object : List (String × Json)) (value : Json) : Except Flaw Unit :=
  if ((object.lookup "minimum").bind asF64).any (fun minimum =>
      !(asF64 value).any (fun number => minimum ≤ number)) then
    flaw "value is below minimum"
  else if ((object.lookup "maximum").bind asF64).any (fun maximum =>
      !(asF64 value).any (fun number => number ≤ maximum)) then
    flaw "value is above maximum"
  else .ok ()

def checked (schema value : Json) (children : List (String × Json) → Except Flaw Unit) :
    Except Flaw Unit :=
  match schema.asObject with
  | none => flaw "schema must be an object"
  | some object =>
    if isSecret object then
      if isSecretHandle value then .ok ()
      else flaw "secret input must be a typed capability handle"
    else do
      checkValue object value
      children object
      checkBounds object value

mutual
def validateAt : Json → Json → Except Flaw Unit
  | .object fields, schema =>
    checked schema (.object fields) (fun object => validateFields fields object)
  | .array items, schema =>
    checked schema (.array items) (fun object =>
      (object.lookup "items").elim (.ok ()) (validateItems items 0))
  | .null, schema => checked schema .null (fun _ => .ok ())
  | .bool value, schema => checked schema (.bool value) (fun _ => .ok ())
  | .number value, schema => checked schema (.number value) (fun _ => .ok ())
  | .string value, schema => checked schema (.string value) (fun _ => .ok ())
def validateFields : List (String × Json) → List (String × Json) → Except Flaw Unit
  | [], _ => .ok ()
  | (key, child) :: rest, object =>
    let field : Except Flaw Unit :=
      match ((object.lookup "properties").bind Json.asObject).bind (fun schemas =>
          schemas.lookup key) with
      | some childSchema => under ("/" ++ key) (validateAt child childSchema)
      | none =>
        if object.lookup "additionalProperties" = some (.bool false) then
          flaw ("additional property '" ++ key ++ "' is not allowed")
        else .ok ()
    field >>= fun _ => validateFields rest object
def validateItems : List Json → Nat → Json → Except Flaw Unit
  | [], _, _ => .ok ()
  | child :: rest, index, schema => do
    under ("/" ++ toString index) (validateAt child schema)
    validateItems rest (index + 1) schema
end

def validateSchema (schema value : Json) : Except String Unit := do
  validateSchemaShape schema "$"
  (validateAt value schema).mapError (Flaw.text "$")

end Workflows
