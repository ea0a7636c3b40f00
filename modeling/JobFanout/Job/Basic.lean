import JobFanout.ParamVector.Reading
/-!
Jobs: one API method, called once for each record of a parameter vector. A job keeps its vector as
plain JSON, so that one with an unknown vector can still be loaded.
-/
namespace JobFanout

structure Job where
  id : String
  name : Option String
  userId : String
  key : String
  method : String
  type : String
  paramsVector : Option Json

namespace Job

open Json (readAny readText readOptional readField readElement noMoreThan required optionalField)

def callType : String := "call"

def isCall (job : Job) : Bool := job.type == callType

def vector (job : Job) : Except VectorError (Option ParamVector) :=
  match job.paramsVector with
  | none => .ok none
  | some json => (ParamVector.ofJson json).map some

structure Draft where
  id : Option String := none
  name : Option (Option String) := none
  userId : Option String := none
  key : Option String := none
  method : Option String := none
  type : Option String := none
  paramsVector : Option (Option Json) := none

def Draft.finish (draft : Draft) : Except Misfit Job := do
  return {
    id := ← required "id" draft.id
    name := draft.name.join
    userId := ← required "userId" draft.userId
    key := ← required "key" draft.key
    method := ← required "method" draft.method
    type := ← required "type" draft.type
    paramsVector := draft.paramsVector.join }

def readFields (fields : Record) : Except Misfit Job := do
  let id ← readField fields "id" readText
  let key ← readField fields "key" readText
  let method ← readField fields "method" readText
  let name ← readField fields "name" (readOptional readText)
  let paramsVector ← readField fields "paramsVector" (readOptional readAny)
  let type ← readField fields "type" readText
  let userId ← readField fields "userId" readText
  Draft.finish { id, name, userId, key, method, type, paramsVector }

def optionalElement {α : Type} (items : List Json) (place : Nat)
    (read : Json → Except Misfit α) : Except Misfit (Option α) :=
  match items[place]? with
  | none => .ok none
  | some value => (readOptional read) value

/-- The fields in the order of the structure. Only the vector may be missing at the end. -/
def readItems (items : List Json) : Except Misfit Job := do
  let id ← readElement items 0 .job readText
  let name ← optionalElement items 1 readText
  let userId ← readElement items 2 .job readText
  let key ← readElement items 3 .job readText
  let method ← readElement items 4 .job readText
  let type ← readElement items 5 .job readText
  let paramsVector ← optionalElement items 6 readAny
  noMoreThan 7 items
  return { id, name, userId, key, method, type, paramsVector }

def ofJson : Json → Except Misfit Job
  | .object fields => readFields fields
  | .array items => readItems items
  | other => .error (other.misfit .job)

/-- Several jobs; one that does not fit keeps all of them from being read. -/
def listOfJson (json : Json) : Except Misfit (List Job) := do
  (← json.readSequence).mapM ofJson

def toJson (job : Job) : Json :=
  .object <|
    [("id", .string job.id), ("key", .string job.key), ("method", .string job.method)]
    ++ optionalField "name" .string job.name
    ++ optionalField "paramsVector" (fun value => value) job.paramsVector
    ++ [("type", .string job.type), ("userId", .string job.userId)]

end Job
end JobFanout
