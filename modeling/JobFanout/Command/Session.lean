import JobFanout.Command.Line
import JobFanout.Job.Schema
import JobFanout.Job.Text
import JobFanout.Json.Printer
import JobFanout.Run.Execution
/-!
The commands, as functions from what they can see to what they print. All job files are loaded before
anything is run, so that one that cannot be loaded keeps every job from running.
-/
namespace JobFanout.Command

inductive FileFault where
  | missing | notADirectory | isADirectory | nameTooLong | denied | notText
  | other (message : String)

def FileFault.message : FileFault → String
  | .missing => "No such file or directory (os error 2)"
  | .notADirectory => "Not a directory (os error 20)"
  | .isADirectory => "Is a directory (os error 21)"
  | .nameTooLong => "File name too long (os error 36)"
  | .denied => "Permission denied (os error 13)"
  | .notText => "stream did not contain valid UTF-8"
  | .other message => message

/-- A file may be there and not be readable, and whether it is there may not be found out. -/
structure Files where
  exists? : String → Except FileFault Bool
  read : String → Except FileFault String

/-- A test that fails counts as finding nothing. -/
def Files.has (files : Files) (path : String) : Bool := (files.exists? path).toOption.getD false

structure Session where
  home : Option String
  files : Files
  logIds : Nat → String
  identityIds : Nat → String
  clock : Nat → Instant

structure Failure where
  message : String
  causes : List String := []

/-- How far a command has come: what it has printed, and what its executor has done. -/
structure Course where
  out : String := ""
  err : String := ""
  runs : Progress := {}

/-- A command goes on up to a failure, and what it has done by then stays. -/
abbrev Task := ExceptT Failure (StateM Course)

namespace Task

def printOut (line : String) : Task Unit :=
  modify fun course => { course with out := course.out ++ line ++ "\n" }

def printErr (line : String) : Task Unit :=
  modify fun course => { course with err := course.err ++ line ++ "\n" }

def execute {α : Type} (execution : Execution α) : Task α :=
  modifyGet fun course =>
    let (value, runs) := execution.run course.runs
    (value, { course with runs })

end Task

section Failures

def indentLines (first later : String) (text : String) : String :=
  first ++ ("\n" ++ later).intercalate (text.splitOn "\n")

/-- Right-aligned to five places. -/
def causeNumber (number : Nat) : String :=
  let shown := toString number
  String.ofList (List.replicate (5 - shown.length) ' ') ++ shown ++ ": "

def causeLines (causes : List String) : List String :=
  match causes with
  | [] => []
  | [cause] => [indentLines "    " "    " cause]
  | causes => causes.mapIdx fun number cause => indentLines (causeNumber number) "       " cause

def Failure.text (failure : Failure) : String :=
  let causes := causeLines failure.causes
  "Error: " ++ failure.message
    ++ (if causes.isEmpty then "" else "\n\nCaused by:\n" ++ "\n".intercalate causes) ++ "\n"

end Failures

section Loading

def joinPath (folder name : String) : String :=
  if folder.isEmpty ∨ folder.endsWith "/" then folder ++ name else folder ++ "/" ++ name

def defaultDataDir : String := ".fleet-jobs"
def defaultObjects : String := "objects.json"

def objectsFile (home : Option String) (options : Options) : Except Failure String := do
  let dataDir ← match options.dataDir, home with
    | some folder, _ => pure folder
    | none, some home => pure (joinPath home defaultDataDir)
    | none, none => throw { message := "could not determine home directory" }
  return options.objects.getD (joinPath dataDir defaultObjects)

def readJobFile (files : Files) (path : String) : Except Failure String :=
  (files.read path).mapError fun fault =>
    { message := "failed to read job file: " ++ path, causes := [fault.message] }

def loadJob (files : Files) (path : String) : Except Failure Job := do
  let text ← readJobFile files path
  (Job.ofText text).mapError fun error =>
    { message := "failed to parse job file: " ++ path, causes := [error.message] }

/-- A fleet without a file is empty. -/
def loadObjects (files : Files) (path : String) : Except Failure (List Json) := do
  if !files.has path then return []
  let text ← (files.read path).mapError fun fault =>
    { message := "failed to read objects file: " ++ path, causes := [fault.message] }
  (Json.listOfText text).mapError fun error =>
    { message := "failed to parse objects file: " ++ path, causes := [error.message] }

end Loading

def echo : Api := fun _ invocation =>
  .ok <| .object
    [("method", .string invocation.method), ("params", .object invocation.params),
      ("userId", .string invocation.identity.user)]

def environment (session : Session) (objects : List Json) : Environment where
  snapshots := fun _ => .ok objects
  api := echo
  losses := fun _ _ => none
  taskIds := toString
  logIds := session.logIds
  identityIds := session.identityIds
  clock := session.clock
  settling := fun _ => []

def announcedEvents (journal : List Entry) : List JobEvent :=
  journal.filterMap fun entry =>
    match entry with
    | .announced event => some event
    | _ => none

def failureLine? : Outcome → Option String
  | .terminated _ => none
  | .failed runJobId error => some ("Run " ++ runJobId ++ " failed: " ++ error.message)

def terminatedLine (report : Report) : String :=
  "Run " ++ report.runJobId ++ " terminated: " ++ toString report.calls.length ++ " calls, "
    ++ toString report.failedCalls.length ++ " failed"

def loadFleet (session : Session) (objectsPath : String) : Task Environment := do
  let objects ← (loadObjects session.files objectsPath : Except Failure _)
  Task.printErr ("Loaded " ++ toString objects.length ++ " objects")
  return environment session objects

def runJobs (session : Session) (objectsPath : String) (jobFiles : List String) : Task Unit := do
  let jobs ← (jobFiles.mapM (loadJob session.files) : Except Failure _)
  let env ← loadFleet session objectsPath
  let outcomes ← Task.execute (Execution.execAll env jobs)
  for line in outcomes.filterMap failureLine? do
    Task.printErr line
  for event in announcedEvents (← get).runs.journal do
    Task.printErr (terminatedLine event.report)
    Task.printOut event.toJson.pretty
  let failed := outcomes.countP fun outcome => outcome.error?.isSome
  if 0 < failed then
    throw {
      message := toString failed ++ " of " ++ toString outcomes.length ++ " jobs failed" }

def errorChain (error : JobError) : List String :=
  match error with
  | .unsupportedType _ => [error.message]
  | .resolve cause => [error.message, cause.message]

def resolveJob (session : Session) (objectsPath jobFile : String) : Task Unit := do
  let job ← (loadJob session.files jobFile : Except Failure _)
  let env ← loadFleet session objectsPath
  match ← Task.execute (Execution.resolveRecords env job) with
  | .error error =>
    throw {
      message := "failed to resolve params of job: " ++ job.id, causes := errorChain error }
  | .ok records =>
    Task.printErr ("Resolved " ++ toString records.length ++ " parameter records")
    Task.printOut (Json.array (records.map .object)).pretty

def validateJob (session : Session) (jobFile : String) : Task Unit := do
  let text ← (readJobFile session.files jobFile : Except Failure _)
  let json ← ((Json.ofText text).mapError fun error =>
    { message := "failed to parse job file: " ++ jobFile, causes := [error.message] } :
    Except Failure _)
  ((Job.validate json).mapError fun error =>
    { message := "invalid job file: " ++ jobFile, causes := [error.message] } : Except Failure _)
  Task.printOut (jobFile ++ " is valid")

def hint : String := "fleet-jobs - use --help to see available commands"

def perform (session : Session) (options : Options) (action : Option Action) : Task Unit := do
  let objectsPath ← (objectsFile session.home options : Except Failure _)
  match action with
  | some (.run jobFiles) => runJobs session objectsPath jobFiles
  | some (.resolve jobFile) => resolveJob session objectsPath jobFile
  | some (.validate jobFile) => validateJob session jobFile
  | none => Task.printOut hint

def filesNeeded (home : Option String) (options : Options) (action : Option Action) :
    List String :=
  let objects := (objectsFile home options).toOption.toList
  match action with
  | some (.run jobFiles) => jobFiles ++ objects
  | some (.resolve jobFile) => jobFile :: objects
  | some (.validate jobFile) => [jobFile]
  | none => []

structure Ending where
  exit : Nat
  out : String
  err : String

def version : String := "fleet-jobs 0.0.1-alpha.0"

def usage : String :=
  "Usage: fleet-jobs [--data-dir <DIR>] [--objects <FILE>] [run <JOB>... | resolve <JOB> | validate <JOB>]"

/-- The whole program: exit code 2 is a wrong command line, 1 any other failure. -/
def ending (session : Session) (arguments : List String) : Ending :=
  match parse arguments with
  | .error error => ⟨2, "", "error: " ++ error.message ++ "\n\n" ++ usage ++ "\n"⟩
  | .ok .showVersion => ⟨0, version ++ "\n", ""⟩
  | .ok .showHelp => ⟨0, usage ++ "\n", ""⟩
  | .ok (.perform options action) =>
    match (perform session options action).run {} with
    | (.ok (), course) => ⟨0, course.out, course.err⟩
    | (.error failure, course) => ⟨1, course.out, course.err ++ failure.text⟩

end JobFanout.Command
