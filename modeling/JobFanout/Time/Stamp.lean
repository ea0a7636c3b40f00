import JobFanout.Text.Blank
import JobFanout.Time.Instant
/-!
Time stamps: `2024-05-01T10:00:00.250Z`. A stamp is written in universal time with as many groups of
three fraction digits as it needs. Reading takes any offset and tolerates blanks between the parts.
-/
namespace JobFanout.Instant

def padded (width value : Nat) : String :=
  let shown := toString value
  String.ofList (List.replicate (width - shown.length) '0') ++ shown

-- Years of other than four digits carry their sign.
def yearText (year : Int) : String :=
  if 0 ≤ year ∧ year ≤ 9999 then padded 4 year.toNat
  else (if year < 0 then "-" else "+") ++ padded 4 year.natAbs

def fractionText (nanosecond : Nat) : String :=
  if nanosecond = 0 then ""
  else if nanosecond % 1000000 = 0 then "." ++ padded 3 (nanosecond / 1000000)
  else if nanosecond % 1000 = 0 then "." ++ padded 6 (nanosecond / 1000)
  else "." ++ padded 9 nanosecond

def text (instant : Instant) : String :=
  yearText instant.date.year ++ "-" ++ padded 2 instant.date.month ++ "-"
    ++ padded 2 instant.date.day ++ "T" ++ padded 2 instant.time.hour ++ ":"
    ++ padded 2 instant.time.minute ++ ":" ++ padded 2 instant.time.second
    ++ fractionText instant.time.nanosecond ++ "Z"

inductive StampFault where
  | tooShort | tooLong | badCharacter | outOfRange | noSuchMoment
deriving DecidableEq

def StampFault.message : StampFault → String
  | .tooShort => "premature end of input"
  | .tooLong => "trailing input"
  | .badCharacter => "input contains invalid characters"
  | .outOfRange => "input is out of range"
  | .noSuchMoment => "no possible date and time matching input"

abbrev StampReader := StateT (List Char) (Except StampFault)

namespace StampReader

def blanks : StampReader Unit := modify skipWideBlanks

def literal (c : Char) : StampReader Unit := do
  match ← get with
  | [] => throw .tooShort
  | next :: rest => if next = c then set rest else throw .badCharacter

def digits (most : Option Nat) : StampReader (List Char) := do
  match ← get with
  | [] => throw .tooShort
  | next :: rest =>
    let run := (next :: rest).takeWhile Char.isDigit
    let taken := match most with
      | some bound => run.take bound
      | none => run
    if taken.isEmpty then throw .badCharacter
    set ((next :: rest).drop taken.length)
    return taken

def field (least greatest : Nat) : StampReader Nat := do
  blanks
  let value := decimalValue (← digits (some 2))
  if least ≤ value ∧ value ≤ greatest then return value else throw .outOfRange

def greatestYearRead : Int := 2147483647

-- A sign allows a year of any number of digits.
def year : StampReader Int := do
  blanks
  let value : Int ← match ← get with
    | '-' :: rest => do set rest; pure (-(decimalValue (← digits none) : Int))
    | '+' :: rest => do set rest; pure (decimalValue (← digits none) : Int)
    | _ => do pure (decimalValue (← digits (some 4)) : Int)
  if -greatestYearRead - 1 ≤ value ∧ value ≤ greatestYearRead then return value
  else throw .outOfRange

def fraction : StampReader Nat := do
  match ← get with
  | '.' :: rest =>
    set rest
    let taken ← digits (some 9)
    modify (·.dropWhile Char.isDigit)
    return decimalValue taken * Nat.pow 10 (9 - taken.length)
  | _ => return 0

/-- Two bytes must be left; the fault is different where only one is. -/
def twoDigits : StampReader Nat := do
  match ← get with
  | a :: b :: rest =>
    if a.isDigit ∧ b.isDigit then set rest; return decimalValue [a, b] else throw .badCharacter
  | [a] => if a.utf8Size < 2 then throw .tooShort else throw .badCharacter
  | [] => throw .tooShort

def offsetMinutes : StampReader Int := do
  let hours ← twoDigits
  modify (·.dropWhile fun c => c = ':' || isWideBlank c)
  let minutes ← twoDigits
  if minutes < 60 then return (hours * 60 + minutes : Int) else throw .outOfRange

def offset : StampReader Int := do
  match ← get with
  | [] => throw .tooShort
  | next :: rest =>
    if rest.length ≥ 2 ∧ (next :: rest.take 2).map Char.toUpper = ['U', 'T', 'C'] then
      set (rest.drop 2)
      return 0
    else if next = 'Z' ∨ next = 'z' then set rest; return 0
    else if next = '+' then set rest; offsetMinutes
    else if next = '-' ∨ next = '−' then do set rest; return -(← offsetMinutes)
    else throw .badCharacter

def separator : StampReader Unit := do
  match ← get with
  | [] => throw .tooShort
  | next :: rest =>
    if next = 'T' ∨ next = 't' ∨ next = ' ' then set rest else throw .badCharacter

def finish : StampReader Unit := do
  blanks
  if (← get).isEmpty then return else throw .tooLong

/-- Whether the parts name a moment is asked only once the whole text has been read. -/
def moment (year : Int) (month day hour minute second nanosecond : Nat) (offset : Int) :
    Except StampFault Instant := do
  let some date := Date.of? year month day | throw .outOfRange
  let some time := ClockTime.of? hour minute second nanosecond | throw .outOfRange
  if minutesPerDay ≤ offset.natAbs then throw .outOfRange
  let some instant := ofLocal? date time offset | throw .noSuchMoment
  return instant

def stamp : StampReader Instant := do
  let year ← year
  blanks; literal '-'
  let month ← field 1 12
  blanks; literal '-'
  let day ← field 1 31
  separator
  let hour ← field 0 23
  blanks; literal ':'
  let minute ← field 0 59
  blanks; literal ':'
  let second ← field 0 60
  let nanosecond ← fraction
  blanks
  let offset ← offset
  finish
  moment year month day hour minute second nanosecond offset

end StampReader

def ofText (s : String) : Except StampFault Instant :=
  (StampReader.stamp.run s.toList).map Prod.fst

end JobFanout.Instant
