import JobFanout.Json.Shape
/-!
Reports: what became of each call of a run, and the event that carries a finished report. Reports are
written with their fields in the order of the structures, calls by id.
-/
namespace JobFanout

/-- A call in flight has neither end nor outcome; a settled one has an end and one outcome. -/
structure CallRecord where
  method : String
  params : Record
  start : Instant
  finish : Option Instant
  returnedValue : Option Json
  error : Option String

namespace CallRecord

def started (method : String) (params : Record) (start : Instant) : CallRecord :=
  { method, params, start, finish := none, returnedValue := none, error := none }

def succeed (call : CallRecord) (value : Json) (finish : Instant) : CallRecord :=
  { call with finish := some finish, returnedValue := some value }

def fail (call : CallRecord) (error : String) (finish : Instant) : CallRecord :=
  { call with finish := some finish, error := some error }

def isSettled (call : CallRecord) : Bool := call.finish.isSome
def isFailed (call : CallRecord) : Bool := call.error.isSome
def isSucceeded (call : CallRecord) : Bool := call.returnedValue.isSome

end CallRecord

structure Report where
  runJobId : String
  start : Instant
  finish : Option Instant
  calls : Entries CallRecord

namespace Report

def started (runJobId : String) (start : Instant) : Report :=
  { runJobId, start, finish := none, calls := [] }

def failedCalls (report : Report) : Entries CallRecord :=
  report.calls.filter fun (_, call) => call.isFailed

def succeededCount (report : Report) : Nat :=
  report.calls.countP fun (_, call) => call.isSucceeded

end Report

inductive JobEvent where
  | terminated (report : Report)

def JobEvent.terminatedName : String := "job:terminated"

def JobEvent.name : JobEvent → String
  | .terminated _ => terminatedName

def JobEvent.report : JobEvent → Report
  | .terminated report => report

section Writing

open Json (optionalField)

def Instant.toJson (instant : Instant) : Json := .string instant.text

def CallRecord.toJson (call : CallRecord) : Json :=
  .object <|
    [("method", .string call.method), ("params", .object call.params),
      ("start", call.start.toJson)]
    ++ optionalField "end" Instant.toJson call.finish
    ++ optionalField "returnedValue" id call.returnedValue
    ++ optionalField "error" .string call.error

def Report.toJson (report : Report) : Json :=
  .object <|
    [("runJobId", .string report.runJobId), ("start", report.start.toJson)]
    ++ optionalField "end" Instant.toJson report.finish
    ++ [("calls", .object (report.calls.map fun (id, call) => (id, call.toJson)))]

def JobEvent.toJson (event : JobEvent) : Json :=
  .object [("event", .string event.name), ("payload", event.report.toJson)]

end Writing

section Reading

open Json (readAny readText readMap readMapOf readOptional readInstant readField readElement
  noMoreThan required)

namespace CallRecord

-- An outcome that is absent or null is none; so is an end.
def readFields (fields : Record) : Except Misfit CallRecord := do
  let finish ← readField fields "end" (readOptional readInstant)
  let error ← readField fields "error" (readOptional readText)
  let method ← readField fields "method" readText
  let params ← readField fields "params" readMap
  let returnedValue ← readField fields "returnedValue" (readOptional readAny)
  let start ← readField fields "start" readInstant
  return {
    method := ← required "method" method
    params := ← required "params" params
    start := ← required "start" start
    finish := finish.join
    returnedValue := returnedValue.join
    error := error.join }

def readItems (items : List Json) : Except Misfit CallRecord := do
  let method ← readElement items 0 .callRecord readText
  let params ← readElement items 1 .callRecord readMap
  let start ← readElement items 2 .callRecord readInstant
  let finish ← readElement items 3 .callRecord (readOptional readInstant)
  let returnedValue ← readElement items 4 .callRecord (readOptional readAny)
  let error ← readElement items 5 .callRecord (readOptional readText)
  noMoreThan 6 items
  return { method, params, start, finish, returnedValue, error }

def ofJson : Json → Except Misfit CallRecord
  | .object fields => readFields fields
  | .array items => readItems items
  | other => .error (other.misfit .callRecord)

end CallRecord

namespace Report

def readFields (fields : Record) : Except Misfit Report := do
  let calls ← readField fields "calls" (readMapOf CallRecord.ofJson)
  let finish ← readField fields "end" (readOptional readInstant)
  let runJobId ← readField fields "runJobId" readText
  let start ← readField fields "start" readInstant
  return {
    runJobId := ← required "runJobId" runJobId
    start := ← required "start" start
    calls := ← required "calls" calls
    finish := finish.join }

def readItems (items : List Json) : Except Misfit Report := do
  let runJobId ← readElement items 0 .report readText
  let start ← readElement items 1 .report readInstant
  let finish ← readElement items 2 .report (readOptional readInstant)
  let calls ← readElement items 3 .report (readMapOf CallRecord.ofJson)
  noMoreThan 4 items
  return { runJobId, start, finish, calls }

def ofJson : Json → Except Misfit Report
  | .object fields => readFields fields
  | .array items => readItems items
  | other => .error (other.misfit .report)

end Report

namespace JobEvent

def readName (name : String) : Except Misfit Unit :=
  if name = terminatedName then .ok () else .error (.unknownVariant name terminatedName)

def readListedName : Json → Except Misfit Unit
  | .string name => readName name
  | other => .error (other.misfit .eventName)

/-- In the object form the name is text, or the one key of an object that holds nothing. -/
def readTag : Json → Except Misfit Unit
  | .string name => readName name
  | .object [(name, content)] => do
    readName name
    match content with
    | .null => return
    | other => throw (other.misfit .unit)
  | .object _ => .error (.wrongValue .map .singleKeyMap)
  | other => .error (other.misfit .eventTag)

def readFields (fields : Record) : Except Misfit JobEvent := do
  let tag ← readField fields "event" readTag
  required "event" tag
  let payload ← readField fields "payload" Report.ofJson
  return .terminated (← required "payload" payload)

def readItems (items : List Json) : Except Misfit JobEvent := do
  readElement items 0 .event readListedName
  let report ← readElement items 1 .event Report.ofJson
  noMoreThan 2 items
  return .terminated report

def ofJson : Json → Except Misfit JobEvent
  | .object fields => readFields fields
  | .array items => readItems items
  | other => .error (other.misfit .event)

end JobEvent
end Reading
end JobFanout
