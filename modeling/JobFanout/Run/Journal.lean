import JobFanout.Run.Identity
import JobFanout.Run.Report
/-!
What a run does to the world around it, in order: entries of the job log, identities opened and
closed, API calls made and events announced. The world answers by position and by history: the log
gives the n-th entry its id, the API knows which calls were made before.
-/
namespace JobFanout

inductive Level where
  | notice | error
deriving DecidableEq

structure Note where
  level : Level
  message : String
  data : Json

structure Invocation where
  identity : Identity
  method : String
  params : Record

inductive Entry where
  | logged (level : Level) (id message : String) (data : Json)
  | opened (identity : Identity)
  /-- `finished` counts the API calls that have ended by then, in whatever way. -/
  | closed (identity : Identity) (finished : Nat)
  | invoked (invocation : Invocation)
  | announced (event : JobEvent)

inductive CallError where
  | rejected (message : String)
  | aborted (message : String)
deriving DecidableEq

def CallError.message : CallError → String
  | .rejected message => message
  | .aborted message => "call aborted: " ++ message

inductive Loss where
  | cancelled
  /-- A panic shows its message if that is a text. -/
  | panicked (message : Option String)

def Loss.message (taskId : String) : Loss → String
  | .cancelled => "task " ++ taskId ++ " was cancelled"
  | .panicked none => "task " ++ taskId ++ " panicked"
  | .panicked (some text) => "task " ++ taskId ++ " panicked with message " ++ Quoted.quote text

/-- What a call comes to, given the calls before it, latest first. -/
abbrev Api := (earlier : List Invocation) → Invocation → Except CallError Json

/-- A call node waits for its call in place, where a panic would take the run with it; so `api`
returns or fails. A dispatched call has a task to itself, which may also be lost. -/
structure Environment where
  /-- What each query finds. -/
  snapshots : Nat → Except String (List Json)
  api : Api
  losses : (earlier : List Invocation) → Invocation → Option Loss
  taskIds : Nat → String
  logIds : Nat → String
  identityIds : Nat → String
  clock : Nat → Instant
  /-- For each run that dispatches, which of its calls end first. -/
  settling : Nat → List Nat

def Environment.dispatched (env : Environment) (task : Nat) : Api := fun earlier invocation =>
  match env.losses earlier invocation with
  | some loss => .error (.aborted (loss.message (env.taskIds task)))
  | none => env.api earlier invocation

/-- How far a sequence of runs has come. Entries are kept latest first. -/
structure Progress where
  latest : List Entry := []
  logged : Nat := 0
  opened : Nat := 0
  clockReads : Nat := 0
  queried : Nat := 0
  spawned : Nat := 0
  finished : Nat := 0
  joined : Nat := 0
  invocations : List Invocation := []

def Progress.journal (progress : Progress) : List Entry := progress.latest.reverse

abbrev Execution := StateM Progress

namespace Execution

def record (entry : Entry) : Execution Unit :=
  modify fun progress => { progress with latest := entry :: progress.latest }

def log (env : Environment) (note : Note) : Execution String := do
  let id := env.logIds (← get).logged
  modify fun progress => { progress with logged := progress.logged + 1 }
  record (.logged note.level id note.message note.data)
  return id

def openIdentity (env : Environment) (user : String) : Execution Identity := do
  let identity : Identity := ⟨env.identityIds (← get).opened, user⟩
  modify fun progress => { progress with opened := progress.opened + 1 }
  record (.opened identity)
  return identity

def closeIdentity (identity : Identity) : Execution Unit := do
  record (.closed identity (← get).finished)

def now (env : Environment) : Execution Instant := do
  let instant := env.clock (← get).clockReads
  modify fun progress => { progress with clockReads := progress.clockReads + 1 }
  return instant

def query (env : Environment) : Execution (Except String (List Json)) := do
  let snapshot := env.snapshots (← get).queried
  modify fun progress => { progress with queried := progress.queried + 1 }
  return snapshot

/-- What the call will come to is fixed here, whenever it ends. -/
def invoke (api : Api) (identity : Identity) (method : String) (params : Record) :
    Execution (Except CallError Json) := do
  let invocation : Invocation := ⟨identity, method, params⟩
  let result := api (← get).invocations invocation
  modify fun progress => { progress with invocations := invocation :: progress.invocations }
  record (.invoked invocation)
  return result

def spawn (env : Environment) (identity : Identity) (method : String) (params : Record) :
    Execution (Except CallError Json) := do
  let task := (← get).spawned
  modify fun progress => { progress with spawned := task + 1 }
  invoke (env.dispatched task) identity method params

def finishCall : Execution Unit :=
  modify fun progress => { progress with finished := progress.finished + 1 }

end Execution
end JobFanout
