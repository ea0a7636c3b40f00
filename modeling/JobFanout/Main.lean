import JobFanout.Command.Session
import JobFanout.Run.EventId
import Std.Time.DateTime.PlainDateTime
import Std.Time.DateTime.Timestamp
/-!
The program: gathers what a command may see, lets the command work on it, prints what it printed.
-/
namespace JobFanout.Program

open Command (FileFault Files)

def directoryCode : UInt32 := 21

def longNameCode : UInt32 := 36

-- A file that cannot be opened shows its code with the sign turned.
def isCode (known code : UInt32) : Bool := code = known || code = 0 - known

def fileFault : IO.Error → FileFault
  | .noFileOrDirectory .. => .missing
  | .permissionDenied .. => .denied
  | .inappropriateType _ code _ =>
    if isCode directoryCode code then .isADirectory else .notADirectory
  | .invalidArgument _ code details =>
    if isCode longNameCode code then .nameTooLong else .other details
  | error => .other (toString error)

def readText (path : String) : BaseIO (Except FileFault String) := do
  match ← (IO.FS.readBinFile path).toBaseIO with
  | .error error => return .error (fileFault error)
  | .ok bytes =>
    match String.fromUTF8? bytes with
    | some text => return .ok text
    | none => return .error .notText

def isThere (path : String) : BaseIO (Except FileFault Bool) := do
  match ← (IO.FS.realPath path).toBaseIO with
  | .ok _ => return .ok true
  | .error error => return .error (fileFault error)

def readAll (paths : List String) : BaseIO Files := do
  let found ← paths.mapM fun path => return (path, ← isThere path)
  let held ← paths.mapM fun path => return (path, ← readText path)
  return {
    exists? := fun path => (found.lookup path).getD (.ok false)
    read := fun path => (held.lookup path).getD (.error .missing) }

def present : IO (Option Instant × Nat) := do
  let stamp ← Std.Time.Timestamp.now
  let civil := Std.Time.PlainDateTime.ofWallTime
    (Std.Time.WallTime.ofNanoseconds stamp.toNanosecondsSinceUnixEpoch)
  let date := Date.of? civil.date.year civil.date.month.val.toNat civil.date.day.val.toNat
  let time := ClockTime.of? civil.time.hour.val.toNat civil.time.minute.val.toNat
    civil.time.second.val.toNat civil.time.nanosecond.val.toNat
  return (date.bind fun date => time.map fun time => ⟨date, time⟩,
    stamp.toMillisecondsSinceUnixEpoch.val.toNat)

/-- Ids of one run of the program: all of its first millisecond, told apart by the counter. -/
def eventIds (milliseconds counter noise : Nat) (n : Nat) : String :=
  EventId.text { milliseconds, counter := counter + n, noise }

def files (home : Option String) (request : Except Command.UsageError Command.Request) :
    BaseIO Files :=
  match request with
  | .ok (.perform options action) => readAll (Command.filesNeeded home options action)
  | _ => readAll []

def run (arguments : List String) : IO UInt32 := do
  let home := (← IO.getEnv "HOME").filter (!·.isEmpty)
  let (now, milliseconds) ← present
  let some now := now | throw (IO.userError "the clock shows no date that can be written")
  let counter ← IO.rand 0 (Nat.pow 2 40)
  let noise ← IO.rand 0 (Nat.pow 2 32 - 1)
  let session : Command.Session := {
    home := home
    files := ← files home (Command.parse arguments)
    logIds := eventIds milliseconds counter noise
    identityIds := fun n => "identity-" ++ toString (n + 1)
    clock := fun _ => now }
  let ending := Command.ending session arguments
  IO.print ending.out
  IO.eprint ending.err
  return ending.exit.toUInt32

end JobFanout.Program

def main (arguments : List String) : IO UInt32 := JobFanout.Program.run arguments
