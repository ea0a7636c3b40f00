import JobFanout.Json.Basic
import JobFanout.Text.Quoted
import JobFanout.Time.Stamp
/-!
Reading JSON values as typed data. A value that does not fit its place is a `Misfit`. The fields of
an object are read in key order and the first misfit counts; only then are missing fields looked for,
in the order in which a type lists them. Unknown fields are passed over.
-/
namespace JobFanout

inductive Found where
  | null
  | bool (value : Bool)
  | int (value : Int)
  | float (value : Decimal)
  | string (value : String)
  | sequence
  | map
deriving DecidableEq

inductive Wanted where
  | string | sequence | map | timestamp | unit
  | job | callRecord | report | event | eventTag | eventName | singleKeyMap
deriving DecidableEq

inductive Misfit where
  | wrongType (found : Found) (wanted : Wanted)
  | wrongValue (found : Found) (wanted : Wanted)
  | missingField (name : String)
  | duplicateField (name : String)
  | tooShort (present : Nat) (wanted : Wanted)
  | tooLong (present : Nat)
  | unknownVariant (name known : String)
  | badTimestamp (fault : Instant.StampFault)
deriving DecidableEq

def Found.text : Found → String
  | .null => "null"
  | .bool value => "boolean `" ++ (if value then "true" else "false") ++ "`"
  | .int value => "integer `" ++ toString value ++ "`"
  | .float value => "floating point `" ++ value.text ++ "`"
  | .string value => "string " ++ Quoted.quote value
  | .sequence => "sequence"
  | .map => "map"

def Wanted.text : Wanted → String
  | .string => "a string"
  | .sequence => "a sequence"
  | .map => "a map"
  | .timestamp => "an RFC 3339 formatted date and time string"
  | .unit => "unit"
  | .job => "struct Job"
  | .callRecord => "struct CallRecord"
  | .report => "struct ExecutionStatus"
  | .event => "adjacently tagged enum JobEvent"
  | .eventTag => "string or map"
  | .eventName => "variant identifier"
  | .singleKeyMap => "map with a single key"

/-- How many elements the list form of a type has, where its name alone does not say. -/
def Wanted.elements : Wanted → Option Nat
  | .job => some 7
  | .callRecord => some 6
  | .report => some 4
  | _ => none

def Wanted.textWithElements (wanted : Wanted) : String :=
  match wanted.elements with
  | some count => wanted.text ++ " with " ++ toString count ++ " elements"
  | none => wanted.text

def Misfit.message : Misfit → String
  | .wrongType found wanted => "invalid type: " ++ found.text ++ ", expected " ++ wanted.text
  | .wrongValue found wanted => "invalid value: " ++ found.text ++ ", expected " ++ wanted.text
  | .missingField name => "missing field `" ++ name ++ "`"
  | .duplicateField name => "duplicate field `" ++ name ++ "`"
  | .tooShort present wanted =>
    "invalid length " ++ toString present ++ ", expected " ++ wanted.textWithElements
  | .tooLong present =>
    "invalid length " ++ toString present ++ ", expected fewer elements in array"
  | .unknownVariant name known => "unknown variant `" ++ name ++ "`, expected `" ++ known ++ "`"
  | .badTimestamp fault => fault.message

namespace Json

def found : Json → Found
  | .null => .null
  | .bool value => .bool value
  | .int value => .int value
  | .float value => .float value
  | .string value => .string value
  | .array _ => .sequence
  | .object _ => .map

def misfit (json : Json) (wanted : Wanted) : Misfit := .wrongType json.found wanted

def readAny (json : Json) : Except Misfit Json := .ok json

def readText : Json → Except Misfit String
  | .string value => .ok value
  | other => .error (other.misfit .string)

def readSequence : Json → Except Misfit (List Json)
  | .array items => .ok items
  | other => .error (other.misfit .sequence)

def readMap : Json → Except Misfit Record
  | .object fields => .ok fields
  | other => .error (other.misfit .map)

def readInstant : Json → Except Misfit Instant
  | .string value => (Instant.ofText value).mapError .badTimestamp
  | other => .error (other.misfit .timestamp)

def readOptional {α : Type} (read : Json → Except Misfit α) : Json → Except Misfit (Option α)
  | .null => .ok none
  | other => (read other).map some

def readEntries {α : Type} (read : Json → Except Misfit α) :
    List (String × Json) → Except Misfit (Entries α)
  | [] => .ok []
  | (key, value) :: rest => do
    let first ← read value
    let others ← readEntries read rest
    return (key, first) :: others

def readMapOf {α : Type} (read : Json → Except Misfit α) (json : Json) :
    Except Misfit (Entries α) := do
  readEntries read (← json.readMap)

def readField {α : Type} (fields : Record) (name : String) (read : Json → Except Misfit α) :
    Except Misfit (Option α) :=
  match Entries.valueAt? name fields with
  | none => .ok none
  | some value => (read value).map some

def required {α : Type} (name : String) : Option α → Except Misfit α
  | some value => .ok value
  | none => .error (.missingField name)

def readElement {α : Type} (items : List Json) (place : Nat) (wanted : Wanted)
    (read : Json → Except Misfit α) : Except Misfit α :=
  match items[place]? with
  | none => .error (.tooShort place wanted)
  | some value => read value

def noMoreThan (most : Nat) (items : List Json) : Except Misfit Unit :=
  if items.length ≤ most then .ok () else .error (.tooLong items.length)

end Json
end JobFanout
