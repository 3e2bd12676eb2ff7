import Mathlib.Algebra.Ring.Nat

/- JSON values. A number is an integer or a float, a float its value; an object is the list of
   its fields, by key. -/
namespace JsonValues

inductive Number where
  | int (value : Int)
  | float (value : Rat)
  deriving DecidableEq

inductive Json where
  | null
  | bool (value : Bool)
  | number (value : Number)
  | string (value : String)
  | array (items : List Json)
  | object (fields : List (String × Json))

namespace Json

mutual
def decEq : (a b : Json) → Decidable (a = b)
  | .null, .null => .isTrue rfl
  | .bool a, .bool b =>
    if h : a = b then .isTrue (h ▸ rfl) else .isFalse (fun same => h (Json.bool.inj same))
  | .number a, .number b =>
    if h : a = b then .isTrue (h ▸ rfl) else .isFalse (fun same => h (Json.number.inj same))
  | .string a, .string b =>
    if h : a = b then .isTrue (h ▸ rfl) else .isFalse (fun same => h (Json.string.inj same))
  | .array a, .array b =>
    match decEqItems a b with
    | .isTrue h => .isTrue (h ▸ rfl)
    | .isFalse h => .isFalse (fun same => h (Json.array.inj same))
  | .object a, .object b =>
    match decEqFields a b with
    | .isTrue h => .isTrue (h ▸ rfl)
    | .isFalse h => .isFalse (fun same => h (Json.object.inj same))
  | .null, .bool _ | .null, .number _ | .null, .string _ | .null, .array _ | .null, .object _
  | .bool _, .null | .bool _, .number _ | .bool _, .string _ | .bool _, .array _
  | .bool _, .object _ | .number _, .null | .number _, .bool _ | .number _, .string _
  | .number _, .array _ | .number _, .object _ | .string _, .null | .string _, .bool _
  | .string _, .number _ | .string _, .array _ | .string _, .object _ | .array _, .null
  | .array _, .bool _ | .array _, .number _ | .array _, .string _ | .array _, .object _
  | .object _, .null | .object _, .bool _ | .object _, .number _ | .object _, .string _
  | .object _, .array _ => .isFalse nofun
def decEqItems : (a b : List Json) → Decidable (a = b)
  | [], [] => .isTrue rfl
  | x :: xs, y :: ys =>
    match decEq x y, decEqItems xs ys with
    | .isTrue h, .isTrue t => .isTrue (h ▸ t ▸ rfl)
    | .isFalse h, _ => .isFalse (fun same => h (List.cons.inj same).1)
    | _, .isFalse t => .isFalse (fun same => t (List.cons.inj same).2)
  | [], _ :: _ | _ :: _, [] => .isFalse nofun
def decEqFields : (a b : List (String × Json)) → Decidable (a = b)
  | [], [] => .isTrue rfl
  | (k, x) :: xs, (l, y) :: ys =>
    if same : k = l then
      match decEq x y, decEqFields xs ys with
      | .isTrue h, .isTrue t => .isTrue (same ▸ h ▸ t ▸ rfl)
      | .isFalse h, _ => .isFalse (fun eq => h (Prod.mk.inj (List.cons.inj eq).1).2)
      | _, .isFalse t => .isFalse (fun eq => t (List.cons.inj eq).2)
    else .isFalse (fun eq => same (Prod.mk.inj (List.cons.inj eq).1).1)
  | [], _ :: _ | _ :: _, [] => .isFalse nofun
end

instance : DecidableEq Json := decEq

def asString : Json → Option String
  | .string text => some text
  | _ => none

def asArray : Json → Option (List Json)
  | .array items => some items
  | _ => none

def asObject : Json → Option (List (String × Json))
  | .object fields => some fields
  | _ => none

/-- The field of an object. -/
def get (value : Json) (key : String) : Option Json :=
  value.asObject.bind (fun fields => fields.lookup key)

/-- The item of an array. -/
def at_ (value : Json) (index : Nat) : Option Json :=
  value.asArray.bind (fun items => items[index]?)

mutual
/-- An induction over the members of objects. -/
theorem member_induction {motive : Json → Prop} (leaf : ∀ value, value.asObject = none → motive value)
    (object : ∀ fields, (∀ field ∈ fields, motive field.2) → motive (.object fields)) :
    ∀ value, motive value
  | .object fields => object fields (members_induction leaf object fields)
  | .null | .bool _ | .number _ | .string _ | .array _ => leaf _ rfl
theorem members_induction {motive : Json → Prop} (leaf : ∀ value, value.asObject = none → motive value)
    (object : ∀ fields, (∀ field ∈ fields, motive field.2) → motive (.object fields)) :
    ∀ fields : List (String × Json), ∀ field ∈ fields, motive field.2
  | [] => nofun
  | (_, value) :: rest => List.forall_mem_cons.2
    ⟨member_induction leaf object value, members_induction leaf object rest⟩
end

end Json

/-- An index as an unsigned 64-bit number is parsed: digits, after a plus sign or not. -/
def parseIndex (text : String) : Option Nat :=
  let digits := match text.toList with
    | '+' :: rest => rest
    | all => all
  if digits ≠ [] && digits.all Char.isDigit then
    let value := digits.foldl (fun value c => value * 10 + (c.toNat - '0'.toNat)) 0
    if value < 2 ^ 64 then some value else none
  else none

end JsonValues
