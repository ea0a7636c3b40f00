import JobFanout.Json.Basic
/-!
Parameter vectors: expressions for the records that a job is called with.
-/
namespace JobFanout

inductive ParamVector where
  | set (values : List Json)
  | crossProduct (items : List ParamVector)
  | fetchObjects (pattern : Record)
  /-- The node `iteratee` with its arguments, once for each member of the collection. -/
  | map (collection : ParamVector) (iteratee : String) (iterateeArgs : Record)
  /-- Fields of `value` under new names: the pattern gives the source of each output. -/
  | extractProperties (pattern : Entries String) (value : Record)
  | call (method : String) (params : Json) (property : Option String)

namespace ParamVector

inductive Tag where
  | set | crossProduct | fetchObjects | map | extractProperties | call
deriving DecidableEq

def Tag.text : Tag → String
  | .set => "set"
  | .crossProduct => "crossProduct"
  | .fetchObjects => "fetchObjects"
  | .map => "map"
  | .extractProperties => "extractProperties"
  | .call => "call"

def Tag.ofText? (text : String) : Option Tag :=
  [.set, .crossProduct, .fetchObjects, .map, .extractProperties, .call].find? fun tag : Tag =>
    tag.text = text

def tag : ParamVector → Tag
  | .set _ => .set
  | .crossProduct _ => .crossProduct
  | .fetchObjects _ => .fetchObjects
  | .map _ _ _ => .map
  | .extractProperties _ _ => .extractProperties
  | .call _ _ _ => .call

def isCallNode (fields : Record) : Bool :=
  (Entries.valueAt? "type" fields).bind Json.text? = some Tag.call.text

mutual

def namesCall : Json → Bool
  | .array items => itemsNameCall items
  | .object fields => isCallNode fields || fieldsNameCall fields
  | _ => false

def itemsNameCall : List Json → Bool
  | [] => false
  | item :: rest => namesCall item || itemsNameCall rest

def fieldsNameCall : List (String × Json) → Bool
  | [] => false
  | (_, value) :: rest => namesCall value || fieldsNameCall rest

end

mutual

/-- Whether evaluation may call the API. -/
def containsCall : ParamVector → Bool
  | .call _ _ _ => true
  | .crossProduct items => someContainsCall items
  | .map collection iteratee iterateeArgs =>
    iteratee == Tag.call.text || collection.containsCall || fieldsNameCall iterateeArgs
  | _ => false

def someContainsCall : List ParamVector → Bool
  | [] => false
  | item :: rest => item.containsCall || someContainsCall rest

end

mutual

/-- How deeply evaluation can nest, whatever objects and answers it meets. -/
def nesting : ParamVector → Nat
  | .crossProduct items => greatestNesting items + 1
  | .map collection _ iterateeArgs =>
    max collection.nesting (Json.fieldsDepth iterateeArgs + 1) + 1
  | _ => 1

def greatestNesting : List ParamVector → Nat
  | [] => 0
  | item :: rest => max item.nesting (greatestNesting rest)

end

end ParamVector
end JobFanout
