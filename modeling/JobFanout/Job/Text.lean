import JobFanout.Job.Basic
import JobFanout.Json.Reader
/-!
Jobs straight from JSON text. Fields are read as they come, so a field that does not fit is reported
before a fault of the text behind it.
-/
namespace JobFanout.Job

inductive Field where
  | id | name | userId | key | method | type | paramsVector
deriving DecidableEq

def Field.all : List Field := [.id, .name, .userId, .key, .method, .type, .paramsVector]

def Field.label : Field → String
  | .id => "id"
  | .name => "name"
  | .userId => "userId"
  | .key => "key"
  | .method => "method"
  | .type => "type"
  | .paramsVector => "paramsVector"

def Field.ofLabel? (label : String) : Option Field := all.find? fun field => field.label = label

def Draft.has (draft : Draft) : Field → Bool
  | .id => draft.id.isSome
  | .name => draft.name.isSome
  | .userId => draft.userId.isSome
  | .key => draft.key.isSome
  | .method => draft.method.isSome
  | .type => draft.type.isSome
  | .paramsVector => draft.paramsVector.isSome

def innerLevels : Nat := depthLimit - 1

def Draft.read (draft : Draft) : Field → Reader Draft
  | .id => return { draft with id := some (← Reader.text) }
  | .name => return { draft with name := some (← Reader.optional Reader.text) }
  | .userId => return { draft with userId := some (← Reader.text) }
  | .key => return { draft with key := some (← Reader.text) }
  | .method => return { draft with method := some (← Reader.text) }
  | .type => return { draft with type := some (← Reader.text) }
  | .paramsVector =>
    return { draft with paramsVector := some (← Reader.optional (Reader.anyValue innerLevels)) }

/-- The fields of an object. A field that comes again is a fault even before its value. -/
def readEntries : (fuel : Nat) → (first : Bool) → Draft → Reader Draft
  | 0, _, _ => Reader.fail .tooDeep
  | fuel + 1, first, draft => do
    match ← Reader.nextKey first with
    | none => return draft
    | some label =>
      match Field.ofLabel? label with
      | none =>
        Reader.colon
        Reader.pass
        readEntries fuel false draft
      | some field =>
        if draft.has field then Reader.fail (.misfit (.duplicateField label))
        Reader.colon
        readEntries fuel false (← draft.read field)

def readObject : Reader Job := do
  Reader.advance
  let draft ← readEntries (Reader.fuelFor (← get)) true {}
  match draft.finish with
  | .error misfit => Reader.fail (.misfit misfit)
  | .ok job =>
    Reader.closeObject
    return job

def readPlace {α : Type} (place : Nat) (read : Reader α) : Reader α := do
  if ← Reader.nextItem (place = 0) then read
  else Reader.fail (.misfit (.tooShort place .job))

def readOptionalPlace {α : Type} (read : Reader α) : Reader (Option α) := do
  if ← Reader.nextItem false then Reader.optional read else return none

def readList : Reader Job := do
  Reader.advance
  let id ← readPlace 0 Reader.text
  let name ← readOptionalPlace Reader.text
  let userId ← readPlace 2 Reader.text
  let key ← readPlace 3 Reader.text
  let method ← readPlace 4 Reader.text
  let type ← readPlace 5 Reader.text
  let paramsVector ← readOptionalPlace (Reader.anyValue innerLevels)
  Reader.closeList
  return { id, name, userId, key, method, type, paramsVector }

def read : Reader Job := do
  match ← Reader.peekValue with
  | some '[' => readList
  | some '{' => readObject
  | _ => Reader.misfit .job

def ofText (text : String) : Except TextError Job := read.runOn text

end JobFanout.Job
