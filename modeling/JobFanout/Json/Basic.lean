import JobFanout.Json.Decimal
import JobFanout.Json.Entries
/-!
JSON values. Whole numbers and decimals are different values even where they are equal as numbers;
among decimals the two zeros are the same.
-/
namespace JobFanout

inductive Json where
  | null
  | bool (value : Bool)
  | int (value : Int)
  | float (value : Decimal)
  | string (value : String)
  | array (items : List Json)
  | object (fields : List (String × Json))
deriving Inhabited

abbrev Record := Entries Json

namespace Json

mutual

def same : Json → Json → Bool
  | .null, .null => true
  | .bool a, .bool b => a == b
  | .int a, .int b => a == b
  | .float a, .float b => a.same b
  | .string a, .string b => a == b
  | .array a, .array b => sameItems a b
  | .object a, .object b => sameFields a b
  | _, _ => false

def sameItems : List Json → List Json → Bool
  | [], [] => true
  | x :: xs, y :: ys => x.same y && sameItems xs ys
  | _, _ => false

def sameFields : List (String × Json) → List (String × Json) → Bool
  | [], [] => true
  | (k, x) :: xs, (l, y) :: ys => k == l && x.same y && sameFields xs ys
  | _, _ => false

end

mutual

def depth : Json → Nat
  | .array items => itemsDepth items + 1
  | .object fields => fieldsDepth fields + 1
  | _ => 0

def itemsDepth : List Json → Nat
  | [] => 0
  | item :: rest => max item.depth (itemsDepth rest)

def fieldsDepth : List (String × Json) → Nat
  | [] => 0
  | (_, value) :: rest => max value.depth (fieldsDepth rest)

end

mutual

/-- Every object inside has its keys ascending. -/
def WellFormed : Json → Prop
  | .array items => ItemsWellFormed items
  | .object fields => Entries.Ascending fields ∧ FieldsWellFormed fields
  | _ => True

def ItemsWellFormed : List Json → Prop
  | [] => True
  | item :: rest => item.WellFormed ∧ ItemsWellFormed rest

def FieldsWellFormed : List (String × Json) → Prop
  | [] => True
  | (_, value) :: rest => value.WellFormed ∧ FieldsWellFormed rest

end

inductive Kind where
  | null | boolean | number | string | array | object
deriving DecidableEq

def Kind.text : Kind → String
  | .null => "null"
  | .boolean => "boolean"
  | .number => "number"
  | .string => "string"
  | .array => "array"
  | .object => "object"

def kind : Json → Kind
  | .null => .null
  | .bool _ => .boolean
  | .int _ => .number
  | .float _ => .number
  | .string _ => .string
  | .array _ => .array
  | .object _ => .object

/-- The field under `key`; a value that is no object has none. -/
def field? (key : String) : Json → Option Json
  | .object fields => Entries.valueAt? key fields
  | _ => none

def optionalField {α : Type} (name : String) (write : α → Json) : Option α → List (String × Json)
  | none => []
  | some value => [(name, write value)]

def text? : Json → Option String
  | .string value => some value
  | _ => none

def isString (json : Json) : Bool := json.kind == .string
def isArray (json : Json) : Bool := json.kind == .array
def isObject (json : Json) : Bool := json.kind == .object

end Json
end JobFanout
