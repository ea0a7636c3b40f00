import JobFanout.Job.Basic
import JobFanout.ParamVector.Evaluation
import JobFanout.Run.Journal
/-!
Running jobs. A run resolves its vector, issues one call per record under one identity, closes the
identity, and then enters each call's outcome into the report as the call ends. A failed call never
ends its run; only a job of another type or a vector that does not resolve does.
-/
namespace JobFanout

inductive JobError where
  | unsupportedType (type : String)
  | resolve (error : ResolveError)
deriving DecidableEq

def JobError.message : JobError → String
  | .unsupportedType type => "unknown job type: " ++ type
  | .resolve error => "failed to resolve params vector: " ++ error.message

inductive Outcome where
  | terminated (report : Report)
  | failed (runJobId : String) (error : JobError)

def Outcome.runJobId : Outcome → String
  | .terminated report => report.runJobId
  | .failed runJobId _ => runJobId

def Outcome.error? : Outcome → Option JobError
  | .terminated _ => none
  | .failed _ error => some error

namespace Note
variable (job : Job)

def runStarted : Note where
  level := .notice
  message := "job " ++ job.id ++ " started"
  data := .object
    [("event", .string "job.start"), ("jobId", .string job.id), ("key", .string job.key),
      ("userId", .string job.userId)]

def callStarted (runJobId : String) (params : Record) : Note where
  level := .notice
  message := "job " ++ job.id ++ " calling " ++ job.method
  data := .object
    [("event", .string "jobCall.start"), ("method", .string job.method),
      ("params", .object params), ("runJobId", .string runJobId)]

def callEnded (runJobId callId : String) : Except CallError Json → Note
  | .ok value => {
      level := .notice
      message := "job " ++ job.id ++ " call " ++ callId ++ " succeeded"
      data := .object
        [("event", .string "jobCall.end"), ("returnedValue", value),
          ("runCallId", .string callId), ("runJobId", .string runJobId)] }
  | .error error => {
      level := .error
      message := "job " ++ job.id ++ " call " ++ callId ++ " failed"
      data := .object
        [("error", .string error.message), ("event", .string "jobCall.end"),
          ("runCallId", .string callId), ("runJobId", .string runJobId)] }

def runTerminated (runJobId : String) : Note where
  level := .notice
  message := "job " ++ job.id ++ " terminated"
  data := .object [("event", .string "job.end"), ("runJobId", .string runJobId)]

def runFailed (runJobId : String) (error : JobError) : Note where
  level := .error
  message := "job " ++ job.id ++ " failed"
  data := .object
    [("error", .string error.message), ("event", .string "job.end"),
      ("runJobId", .string runJobId)]

end Note

def CallRecord.settle (call : CallRecord) (result : Except CallError Json) (finish : Instant) :
    CallRecord :=
  match result with
  | .ok value => call.succeed value finish
  | .error error => call.fail error.message finish

def Report.enter (report : Report) (callId : String) (call : CallRecord) : Report :=
  { report with calls := Entries.put callId call report.calls }

structure PendingCall where
  callId : String
  params : Record

structure EndedCall where
  callId : String
  result : Except CallError Json

def numberedId (loggedId : String) (number : Nat) : String := loggedId ++ "-" ++ toString number

/-- The logged id, or with the least number from 2 on that makes it new. -/
def unusedCallId {α : Type} (calls : Entries α) (loggedId : String) : String :=
  if !Entries.hasKey loggedId calls then loggedId
  else
    let candidates := (List.range calls.length).map fun k => numberedId loggedId (k + 2)
    (candidates.find? fun id => !Entries.hasKey id calls).getD ""

/-- The places below `count` that `first` names, once each, then the others in ascending order. -/
def settlingOrder (first : List Nat) (count : Nat) : List Nat :=
  let named := (first.filter (· < count)).eraseDups
  named ++ (List.range count).filter fun place => !named.contains place

namespace Execution
variable (env : Environment) (job : Job)

/-- Call nodes go to the API under one identity and end at once. -/
def callSource (identity : Identity) : CallSource Progress := fun method params =>
  (do
    let result ← invoke env.api identity method params
    finishCall
    return result.mapError CallError.message : Execution _).run

def surroundings (identity : Option Identity) : Surroundings Progress where
  objects := query env
  calls := identity.map (callSource env)

/-- The job's records. An identity is open meanwhile only if the vector may call the API. -/
def resolveRecords : Execution (Except JobError (List Record)) := do
  match job.vector with
  | .error error => return .error (.resolve (.vector error))
  | .ok vector =>
    if vector.any ParamVector.containsCall then
      let identity ← openIdentity env job.userId
      let resolved ← (ParamVector.records (surroundings env (some identity)) vector).run
      closeIdentity identity
      return resolved.mapError .resolve
    else
      let resolved ← (ParamVector.records (surroundings env none) vector).run
      return resolved.mapError .resolve

def issueCalls (runJobId : String) : List Record → Report → Execution (List PendingCall × Report)
  | [], report => return ([], report)
  | params :: rest, report => do
    let loggedId ← log env (.callStarted job runJobId params)
    let callId := unusedCallId report.calls loggedId
    let call := CallRecord.started job.method params (← now env)
    let (pending, final) ← issueCalls runJobId rest (report.enter callId call)
    return (⟨callId, params⟩ :: pending, final)

def makeCalls (identity : Identity) : List PendingCall → Execution (List EndedCall)
  | [] => return []
  | call :: rest => do
    let result ← spawn env identity job.method call.params
    let others ← makeCalls identity rest
    return ⟨call.callId, result⟩ :: others

/-- Enters how one call ended. A call that the report does not know would be passed over. -/
def settleCall (runJobId : String) (report : Report) (ended : EndedCall) : Execution Report := do
  finishCall
  match Entries.valueAt? ended.callId report.calls with
  | none => return report
  | some call =>
    discard <| log env (.callEnded job runJobId ended.callId ended.result)
    return report.enter ended.callId (call.settle ended.result (← now env))

def inSettlingOrder (run : Nat) (ended : List EndedCall) : List EndedCall :=
  (settlingOrder (env.settling run) ended.length).filterMap (ended[·]?)

def joinCalls (runJobId : String) (ended : List EndedCall) (report : Report) :
    Execution Report := do
  let run := (← get).joined
  modify fun progress => { progress with joined := progress.joined + 1 }
  (inSettlingOrder env run ended).foldlM (settleCall env job runJobId) report

def launch (records : List Record) (report : Report) : Execution (List EndedCall × Report) := do
  let identity ← openIdentity env job.userId
  let (pending, issued) ← issueCalls env job report.runJobId records report
  closeIdentity identity
  let ended ← makeCalls env job identity pending
  return (ended, issued)

def dispatch (records : List Record) (report : Report) : Execution Report := do
  let (ended, issued) ← launch env job records report
  let joined ← joinCalls env job report.runJobId ended issued
  return { joined with finish := some (← now env) }

def beginRun : Execution Report := do
  let runJobId ← log env (.runStarted job)
  return .started runJobId (← now env)

def attempt (report : Report) : Execution (Except JobError Report) := do
  if !job.isCall then return .error (.unsupportedType job.type)
  match ← resolveRecords env job with
  | .error error => return .error error
  | .ok records => return .ok (← dispatch env job records report)

/-- Runs a job. It always ends in an outcome; an event is announced only if all calls have ended. -/
def exec : Execution Outcome := do
  let begun ← beginRun env job
  match ← attempt env job begun with
  | .ok report =>
    record (.announced (.terminated report))
    discard <| log env (.runTerminated job begun.runJobId)
    return .terminated report
  | .error error =>
    discard <| log env (.runFailed job begun.runJobId error)
    return .failed begun.runJobId error

def execAll : List Job → Execution (List Outcome)
  | [] => return []
  | job :: rest => do
    let outcome ← exec env job
    let others ← execAll rest
    return outcome :: others

inductive Step where
  | exec (job : Job)
  | sequence (jobs : List Job)
  | resolve (job : Job)

inductive StepAnswer where
  | outcome (outcome : Outcome)
  | outcomes (outcomes : List Outcome)
  | resolved (records : Except JobError (List Record))

def perform : Step → Execution StepAnswer
  | .exec job => return .outcome (← exec env job)
  | .sequence jobs => return .outcomes (← execAll env jobs)
  | .resolve job => return .resolved (← resolveRecords env job)

def performAll : List Step → Execution (List StepAnswer)
  | [] => return []
  | step :: rest => do
    let answer ← perform env step
    let others ← performAll rest
    return answer :: others

end Execution
end JobFanout
