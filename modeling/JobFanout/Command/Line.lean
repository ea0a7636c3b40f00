/-!
The command line: which command, on which files, with which options. Options may stand before or
after the command's name; where both places give one, the one after the name counts.
-/
namespace JobFanout.Command

structure Options where
  dataDir : Option String := none
  objects : Option String := none
deriving DecidableEq

inductive Action where
  | run (jobFiles : List String)
  | resolve (jobFile : String)
  | validate (jobFile : String)
deriving DecidableEq

inductive Request where
  | perform (options : Options) (action : Option Action)
  | showVersion
  | showHelp
deriving DecidableEq

inductive UsageError where
  | unknownArgument (argument : String)
  | unknownCommand (name : String)
  | missingValue (option : String)
  | unexpectedValue (option : String)
  | emptyValue
  | repeatedOption (option : String)
  | missingFile
deriving DecidableEq

def UsageError.message : UsageError → String
  | .unknownArgument argument => "unexpected argument '" ++ argument ++ "' found"
  | .unknownCommand name => "unrecognized subcommand '" ++ name ++ "'"
  | .missingValue option => "a value is required for '" ++ option ++ "' but none was supplied"
  | .unexpectedValue option => "unexpected value for '" ++ option ++ "' found; no more were expected"
  | .emptyValue => "a value is required but an empty one was supplied"
  | .repeatedOption option => "the argument '" ++ option ++ "' cannot be used multiple times"
  | .missingFile => "a job file is required but none was supplied"

inductive OptionName where
  | dataDir | objects
deriving DecidableEq

def OptionName.text : OptionName → String
  | .dataDir => "--data-dir"
  | .objects => "--objects"

def OptionName.ofText? (text : String) : Option OptionName :=
  [OptionName.dataDir, .objects].find? fun name => name.text = text

def Options.get (options : Options) : OptionName → Option String
  | .dataDir => options.dataDir
  | .objects => options.objects

/-- An option is given once at each place, and never empty. -/
def Options.set (options : Options) (name : OptionName) (value : String) :
    Except UsageError Options :=
  if (options.get name).isSome then .error (.repeatedOption name.text)
  else if value.isEmpty then .error .emptyValue
  else
    match name with
    | .dataDir => .ok { options with dataDir := some value }
    | .objects => .ok { options with objects := some value }

/-- Options given after the command's name win. -/
def Options.over (inner outer : Options) : Options where
  dataDir := inner.dataDir.or outer.dataDir
  objects := inner.objects.or outer.objects

inductive Argument where
  | operand (text : String)
  | option (name : OptionName) (value : Option String)
  | version
  | help
  | endOfOptions
  | unknown

def splitValue (text : String) : String × Option String :=
  let name := text.toList.takeWhile (· ≠ '=')
  (String.ofList name,
    if name.length < text.length then some (String.ofList (text.toList.drop (name.length + 1)))
    else none)

def Argument.ofText (text : String) : Argument :=
  if text = "--" then .endOfOptions
  else if text.startsWith "--" then
    match splitValue text with
    | ("--version", none) => .version
    | ("--help", none) => .help
    | (name, value) =>
      match OptionName.ofText? name with
      | some name => .option name value
      | none => .unknown
  else if text.startsWith "-" ∧ text ≠ "-" then
    if text.startsWith "-V" then .version
    else if text.startsWith "-h" then .help
    else .unknown
  else .operand text

structure Place where
  options : Options := {}
  operands : List String := []

/-- How reading a place ended: at its end, at a command's name, or at a request of its own. -/
inductive PlaceEnd where
  | finished (place : Place)
  | command (options : Options) (name : String) (rest : List String)
  | showVersion
  | showHelp

def readOuter (place : Options) : List String → Except UsageError PlaceEnd
  | [] => .ok (.finished { options := place })
  | text :: rest =>
    match Argument.ofText text with
    | .operand name => .ok (.command place name rest)
    | .option name (some value) =>
      match place.set name value with
      | .ok options => readOuter options rest
      | .error error => .error error
    | .option name none =>
      match rest with
      | [] => .error (.missingValue name.text)
      | value :: rest =>
        match Argument.ofText value with
        | .operand value =>
          match place.set name value with
          | .ok options => readOuter options rest
          | .error error => .error error
        | _ => .error (.missingValue name.text)
    | .version => .ok .showVersion
    | .help => .ok .showHelp
    | .endOfOptions =>
      match rest with
      | [] => .ok (.finished { options := place })
      | extra :: _ => .error (.unknownArgument extra)
    | .unknown => .error (.unknownArgument text)

def Place.add (place : Place) (most : Option Nat) (file : String) : Except UsageError Place :=
  if most.any (· ≤ place.operands.length) then .error (.unknownArgument file)
  else if file.isEmpty then .error .emptyValue
  else .ok { place with operands := place.operands ++ [file] }

def readInner (most : Option Nat) (place : Place) : List String → Except UsageError PlaceEnd
  | [] => .ok (.finished place)
  | text :: rest =>
    match Argument.ofText text with
    | .operand file =>
      match place.add most file with
      | .ok place => readInner most place rest
      | .error error => .error error
    | .option name (some value) =>
      match place.options.set name value with
      | .ok options => readInner most { place with options := options } rest
      | .error error => .error error
    | .option name none =>
      match rest with
      | [] => .error (.missingValue name.text)
      | value :: rest =>
        match Argument.ofText value with
        | .operand value =>
          match place.options.set name value with
          | .ok options => readInner most { place with options := options } rest
          | .error error => .error error
        | _ => .error (.missingValue name.text)
    | .help => .ok .showHelp
    | .endOfOptions => (rest.foldlM (fun (place : Place) file => place.add most file) place).map .finished
    | .version => .error (.unknownArgument text)
    | .unknown => .error (.unknownArgument text)

def actionOf (name : String) (files : List String) : Except UsageError Action :=
  match name, files with
  | _, [] => .error .missingFile
  | "run", files => .ok (.run files)
  | "resolve", file :: _ => .ok (.resolve file)
  | "validate", file :: _ => .ok (.validate file)
  | name, _ => .error (.unknownCommand name)

/-- How many files a command takes, if there is such a command; the inner `none` is any number. -/
def filesOf? (name : String) : Option (Option Nat) :=
  if name = "run" then some none
  else if name = "resolve" ∨ name = "validate" then some (some 1)
  else none

def helpName : String := "help"

/-- Help may name a command, or itself. None of them has commands of its own. -/
def parseHelp : List String → Except UsageError Request
  | [] => .ok .showHelp
  | name :: rest =>
    if (filesOf? name).isNone ∧ name ≠ helpName then .error (.unknownCommand name)
    else
      match rest with
      | [] => .ok .showHelp
      | inner :: _ => .error (.unknownCommand inner)

def parseCommand (outer : Options) (name : String) (arguments : List String) :
    Except UsageError Request :=
  match filesOf? name with
  | none => if name = helpName then parseHelp arguments else .error (.unknownCommand name)
  | some most => do
    match ← readInner most {} arguments with
    | .showVersion => return .showVersion
    | .showHelp => return .showHelp
    | .command _ name _ => throw (.unknownCommand name)
    | .finished place =>
      let action ← actionOf name place.operands
      return .perform (place.options.over outer) (some action)

def parse (arguments : List String) : Except UsageError Request := do
  match ← readOuter {} arguments with
  | .showVersion => return .showVersion
  | .showHelp => return .showHelp
  | .finished place => return .perform place.options none
  | .command outer name rest => parseCommand outer name rest

end JobFanout.Command
