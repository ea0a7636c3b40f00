import JobFanout.Fleet.Pattern
import JobFanout.ParamVector.Reading
import JobFanout.Record.Merge
import JobFanout.Record.Product
/-!
Evaluation of parameter vectors against the live objects and, for call nodes, an API. Both answer
from a state `σ` that evaluation threads through, failures included. `evaluateWithin` allows for a
number of nodes inside one another; `evaluate` for as many as a vector can reach.
-/
namespace JobFanout

inductive ResolveError where
  | vector (error : VectorError)
  | notAVector (tag : ParamVector.Tag) (found : Json.Kind)
  | notARecord (found : Json.Kind)
  | repository (message : String)
  | callsUnavailable
  | call (method message : String)
  | tooDeep
deriving DecidableEq

def ResolveError.message : ResolveError → String
  | .vector error => error.message
  | .notAVector tag found => "'" ++ tag.text ++ "' vector must resolve to an array, got " ++ found.text
  | .notARecord found => "expected a parameter record, got " ++ found.text
  | .repository message => "object repository query failed: " ++ message
  | .callsUnavailable => "'call' vectors need an API to resolve against"
  | .call method message => "call to '" ++ method ++ "' failed: " ++ message
  | .tooDeep => "params vector nests too deeply"

/-- An API method called with a record: its value, or the text of its failure. -/
abbrev CallSource (σ : Type) := String → Record → σ → Except String Json × σ

/-- What evaluation can ask: for the live objects, which may fail, and perhaps an API. -/
structure Surroundings (σ : Type) where
  objects : StateM σ (Except String (List Json))
  calls : Option (CallSource σ)

abbrev Evaluation (σ : Type) := ExceptT ResolveError (StateM σ)

namespace ParamVector
variable {σ : Type}

def asVector (node : ParamVector) : Json → Evaluation σ (List Json)
  | .array items => pure items
  | other => throw (.notAVector node.tag other.kind)

def asRecord : Json → Except ResolveError Record
  | .object fields => .ok fields
  | other => .error (.notARecord other.kind)

/-- Call parameters: null stands for the empty record. -/
def callParams : Json → Except ResolveError Record
  | .null => .ok []
  | other => asRecord other

/-- The node of a map's iteratee: the arguments win over the type, the item over the arguments. -/
def iterateeNode (iteratee : String) (iterateeArgs : Record) (item : Json) : Json :=
  .object (Entries.put "value" item (Entries.putAll iterateeArgs [("type", .string iteratee)]))

/-- The answer or one property of it, in a list of its own unless it is a list. -/
def answerVector (property : Option String) (answer : Json) : Json :=
  let chosen := match property with
    | some key => (answer.field? key).getD .null
    | none => answer
  if chosen.isArray then chosen else .array [chosen]

def ofExcept {ε α : Type} (wrap : ε → ResolveError) (result : Except ε α) : Evaluation σ α :=
  match result with
  | .ok value => pure value
  | .error error => throw (wrap error)

def liveObjects (around : Surroundings σ) : Evaluation σ (List Json) := do
  ofExcept .repository (← around.objects)

def evaluateCall (around : Surroundings σ) (method : String) (params : Json)
    (property : Option String) : Evaluation σ Json := do
  let some source := around.calls | throw .callsUnavailable
  let record ← ofExcept id (callParams params)
  let answer ← (modifyGet (source method record) : StateM σ _)
  answerVector property <$> ofExcept (.call method) answer

def evaluateWithin (around : Surroundings σ) : Nat → ParamVector → Evaluation σ Json
  | 0, _ => throw .tooDeep
  | _ + 1, .set values => pure (.array values)
  | levels + 1, .crossProduct items => do
    let vectors ← items.mapM fun item => do asVector item (← evaluateWithin around levels item)
    return .array ((product vectors).map fun records => .object (Record.merge records))
  | _ + 1, .fetchObjects pattern => do
    let objects ← liveObjects around
    return .array (Fleet.select pattern objects)
  | levels + 1, .map collection iteratee iterateeArgs => do
    let items ← asVector collection (← evaluateWithin around levels collection)
    let results ← items.mapM fun item => do
      let node ← ofExcept .vector (ofJson (iterateeNode iteratee iterateeArgs item))
      evaluateWithin around levels node
    return .array results
  | _ + 1, .extractProperties pattern value => pure (.object (Record.project pattern value))
  | _ + 1, .call method params property => evaluateCall around method params property

def evaluate (around : Surroundings σ) (vector : ParamVector) : Evaluation σ Json :=
  evaluateWithin around vector.nesting vector

/-- The records a job is called with: one without fields if there is no vector. -/
def records (around : Surroundings σ) : Option ParamVector → Evaluation σ (List Record)
  | none => pure [[]]
  | some vector => do
    let items ← asVector vector (← evaluate around vector)
    ofExcept id (items.mapM asRecord)

end ParamVector
end JobFanout
