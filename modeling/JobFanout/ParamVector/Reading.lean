import JobFanout.Json.Shape
import JobFanout.ParamVector.Basic
/-!
Parameter vectors from JSON. The items of a cross product and the collection of a map are nodes
themselves and are read with it; the arguments of a map's iteratee stay as they are, for their node
is complete only when an item of the collection is known.
-/
namespace JobFanout

inductive VectorError where
  | missingType
  | unsupportedType (name : String)
  | invalid (tag : ParamVector.Tag) (misfit : Misfit)
deriving DecidableEq

def VectorError.message : VectorError → String
  | .missingType => "params vector node has no type"
  | .unsupportedType name => "unknown vector type: " ++ name
  | .invalid tag misfit => "invalid '" ++ tag.text ++ "' vector: " ++ misfit.message

namespace ParamVector

open Json (readAny readText readSequence readMap readOptional readMapOf readField required)

def readValues (fields : Record) : Except Misfit (List Json) := do
  required "values" (← readField fields "values" readSequence)

def readItems (fields : Record) : Except Misfit (List Json) := do
  required "items" (← readField fields "items" readSequence)

def readPattern (fields : Record) : Except Misfit Record := do
  return (← readField fields "pattern" readMap).getD []

structure MapFields where
  collection : Json
  iteratee : String
  iterateeArgs : Record

def readMapFields (fields : Record) : Except Misfit MapFields := do
  let collection ← readField fields "collection" readAny
  let iteratee ← readField fields "iteratee" readText
  let iterateeArgs ← readField fields "iterateeArgs" readMap
  return {
    collection := ← required "collection" collection
    iteratee := ← required "iteratee" iteratee
    iterateeArgs := iterateeArgs.getD [] }

def readProjection (fields : Record) : Except Misfit ParamVector := do
  let pattern ← readField fields "pattern" (readMapOf readText)
  let value ← readField fields "value" readMap
  return .extractProperties (← required "pattern" pattern) (← required "value" value)

-- `value` is another name of `params`; the two may not stand together.
def readCall (fields : Record) : Except Misfit ParamVector := do
  let method ← readField fields "method" readText
  let params ← readField fields "params" readAny
  let property ← readField fields "property" (readOptional readText)
  let value ← readField fields "value" readAny
  if params.isSome ∧ value.isSome then throw (.duplicateField "params")
  return .call (← required "method" method) ((params.or value).getD .null) property.join

def tagText (fields : Record) : Except VectorError String :=
  match (Entries.valueAt? "type" fields).bind Json.text? with
  | some text => .ok text
  | none => .error .missingType

def ofFields (fields : Record) (items : Except VectorError (List ParamVector))
    (collection : Except VectorError ParamVector) : Except VectorError ParamVector := do
  let text ← tagText fields
  match Tag.ofText? text with
  | none => throw (.unsupportedType text)
  | some .set => return .set (← (readValues fields).mapError (.invalid .set))
  | some .crossProduct =>
    discard <| (readItems fields).mapError (.invalid .crossProduct)
    return .crossProduct (← items)
  | some .fetchObjects =>
    return .fetchObjects (← (readPattern fields).mapError (.invalid .fetchObjects))
  | some .map =>
    let read ← (readMapFields fields).mapError (.invalid .map)
    return .map (← collection) read.iteratee read.iterateeArgs
  | some .extractProperties => (readProjection fields).mapError (.invalid .extractProperties)
  | some .call => (readCall fields).mapError (.invalid .call)

mutual

/-- The node that a value stands for. The fault of the first bad node counts, outer before inner. -/
def ofJson : Json → Except VectorError ParamVector
  | .object fields =>
    ofFields fields ((itemsOf fields).getD (.ok [])) ((collectionOf fields).getD (.error .missingType))
  | _ => .error .missingType

def ofJsonList : List Json → Except VectorError (List ParamVector)
  | [] => .ok []
  | value :: rest => do
    let first ← ofJson value
    let others ← ofJsonList rest
    return first :: others

def itemsOf : List (String × Json) → Option (Except VectorError (List ParamVector))
  | [] => none
  | (key, value) :: rest =>
    (itemsOf rest).or <|
      if key = "items" then
        match value with
        | .array nodes => some (ofJsonList nodes)
        | _ => some (.ok [])
      else none

def collectionOf : List (String × Json) → Option (Except VectorError ParamVector)
  | [] => none
  | (key, value) :: rest =>
    (collectionOf rest).or <| if key = "collection" then some (ofJson value) else none

end

end ParamVector
end JobFanout
