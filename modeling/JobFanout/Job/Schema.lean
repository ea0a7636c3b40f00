import JobFanout.ParamVector.Basic
/-!
The schema of stored jobs. Every violation is reported, in the order of the document. A stored vector
is one level of `set` and `map` items.
-/
namespace JobFanout.Job

/-- A part of a job definition and what is wrong with it. -/
structure Problem where
  path : String
  text : String
deriving DecidableEq

def Problem.message (problem : Problem) : String := problem.path ++ ": " ++ problem.text

structure SchemaError where
  problems : List Problem

def SchemaError.message (error : SchemaError) : String :=
  "invalid job definition: " ++ "; ".intercalate (error.problems.map Problem.message)

namespace Schema

def requiredText (fields : Record) (name : String) : List Problem :=
  match Entries.valueAt? name fields with
  | some (.string _) => []
  | some _ => [⟨"job." ++ name, "not a string"⟩]
  | none => [⟨"job." ++ name, "missing"⟩]

def optionalText (fields : Record) (name : String) : List Problem :=
  match Entries.valueAt? name fields with
  | some (.string _) => []
  | some _ => [⟨"job." ++ name, "not a string"⟩]
  | none => []

def itemPath (index : Nat) : String := "job.paramsVector.items[" ++ toString index ++ "]"

def hasArray (fields : Record) (name : String) : Bool :=
  (Entries.valueAt? name fields).any Json.isArray

def hasString (fields : Record) (name : String) : Bool :=
  (Entries.valueAt? name fields).any Json.isString

def hasObject (fields : Record) (name : String) : Bool :=
  (Entries.valueAt? name fields).any Json.isObject

def itemFault : Json → Option String
  | .object fields =>
    match (Entries.valueAt? "type" fields).bind Json.text? with
    | some "set" => if hasArray fields "values" then none else some "values is not an array"
    | some "map" =>
      if !hasString fields "iteratee" then some "iteratee is not a string"
      else if !hasObject fields "collection" then some "collection is not an object"
      else none
    | _ => some "no type defined"
  | _ => some "not an object"

def itemProblems (index : Nat) (item : Json) : List Problem :=
  (itemFault item).toList.map fun text => ⟨itemPath index, text⟩

def itemsProblems : Json → List Problem
  | .array items => (items.mapIdx itemProblems).flatten
  | _ => [⟨"job.paramsVector.items", "not an array"⟩]

def vectorProblems : Json → List Problem
  | .object fields =>
    (if hasString fields "type" then [] else [⟨"job.paramsVector.type", "not a string"⟩])
      ++ ((Entries.valueAt? "items" fields).map itemsProblems).getD []
  | _ => [⟨"job.paramsVector", "not an object"⟩]

def problems : Json → List Problem
  | .object fields =>
    ["id", "type", "key", "method"].flatMap (requiredText fields)
      ++ optionalText fields "name"
      ++ ((Entries.valueAt? "paramsVector" fields).map vectorProblems).getD []
  | _ => [⟨"job", "not an object"⟩]

end Schema

def validate (json : Json) : Except SchemaError Unit :=
  match Schema.problems json with
  | [] => .ok ()
  | problems => .error ⟨problems⟩

end JobFanout.Job
