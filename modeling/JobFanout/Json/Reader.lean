import JobFanout.Json.Binary64
import JobFanout.Json.Shape
import JobFanout.Text.Blank
/-!
Reading JSON text. A `Reader` works on the characters still to come; where it stops it says why and
what is left, from which the place in the text follows. Containers nest to a limit. A value that
nobody asked for is passed over by simpler rules: it may nest without limit and its numbers may have
any size.
-/
namespace JobFanout

inductive TextFault where
  | endInValue | endInList | endInObject | endInString
  | expectedColon | expectedListEnd | expectedObjectEnd | expectedIdent | expectedValue
  | invalidEscape | invalidNumber | numberOutOfRange | controlCharacter | keyNotString
  | loneSurrogate | unexpectedEscapeEnd | trailingComma | trailingCharacters | tooDeep
  | misfit (cause : Misfit)
deriving DecidableEq

def TextFault.message : TextFault → String
  | .endInValue => "EOF while parsing a value"
  | .endInList => "EOF while parsing a list"
  | .endInObject => "EOF while parsing an object"
  | .endInString => "EOF while parsing a string"
  | .expectedColon => "expected `:`"
  | .expectedListEnd => "expected `,` or `]`"
  | .expectedObjectEnd => "expected `,` or `\x7d`"
  | .expectedIdent => "expected ident"
  | .expectedValue => "expected value"
  | .invalidEscape => "invalid escape"
  | .invalidNumber => "invalid number"
  | .numberOutOfRange => "number out of range"
  | .controlCharacter => "control character (\\u0000-\\u001F) found while parsing a string"
  | .keyNotString => "key must be a string"
  | .loneSurrogate => "lone leading surrogate in hex escape"
  | .unexpectedEscapeEnd => "unexpected end of hex escape"
  | .trailingComma => "trailing comma"
  | .trailingCharacters => "trailing characters"
  | .tooDeep => "recursion limit exceeded"
  | .misfit cause => cause.message

/-- Why reading stopped, and the characters behind that place. -/
structure Misread where
  fault : TextFault
  rest : List Char

abbrev Reader := StateT (List Char) (Except Misread)

namespace Reader

def isBlank (c : Char) : Bool := c = ' ' || c = '\n' || c = '\t' || c = '\r'

def fail {α : Type} (fault : TextFault) : Reader α := do throw ⟨fault, ← get⟩

def refuse {α : Type} (fault : TextFault) : Reader α := do throw ⟨fault, (← get).tail⟩

def peek : Reader (Option Char) := return (← get).head?

def advance : Reader Unit := modify List.tail

def peekValue : Reader (Option Char) := do
  modify (·.dropWhile isBlank)
  peek

def digits : Reader (List Char) :=
  modifyGet fun chars => (chars.takeWhile Char.isDigit, chars.dropWhile Char.isDigit)

def ident : List Char → Reader Unit
  | [] => return
  | letter :: rest => do
    match ← peek with
    | none => fail .endInValue
    | some c =>
      if c = letter then advance; ident rest else refuse .expectedIdent

section Numbers

def significandLimit : Nat := Nat.pow 2 64

/-- Takes digits into a significand while it stays below the limit: the significand, how many digits
were taken and how many were left. -/
def gather (significand : Nat) : List Char → Nat × Nat × Nat
  | [] => (significand, 0, 0)
  | digit :: rest =>
    let next := significand * 10 + digitValue digit
    if next < significandLimit then
      let (final, taken, left) := gather next rest
      (final, taken + 1, left)
    else (significand, 0, rest.length + 1)

def exponentLimit : Nat := 2147483647

/-- A number as written: whole digits, perhaps fraction digits, perhaps a power of ten. -/
structure NumberText where
  negative : Bool
  whole : List Char
  fraction : Option (List Char)
  power : Option (Bool × List Char)

def floatOf (negative : Bool) (significand : Nat) (exponent : Int) : Option Decimal :=
  (Binary64.ofDecimal? significand exponent).map (Binary64.shortest negative)

/-- A number without fraction and power is whole if 64 bits hold it; negative zero is not. -/
def NumberText.value? (number : NumberText) : Option Json :=
  let (whole, _, leftOfWhole) := gather 0 number.whole
  let (significand, taken, _) := gather whole (number.fraction.getD [])
  let start : Int := leftOfWhole - taken
  match number.fraction, number.power with
  | none, none =>
    if leftOfWhole = 0 ∧ !number.negative then some (.int whole)
    else if leftOfWhole = 0 ∧ 0 < whole ∧ whole ≤ Nat.pow 2 63 then some (.int (-whole))
    else (floatOf number.negative significand start).map .float
  | _, none => (floatOf number.negative significand start).map .float
  | _, some (downward, powerDigits) =>
    let power := decimalValue powerDigits
    if power ≤ exponentLimit then
      (floatOf number.negative significand (if downward then start - power else start + power)).map
        .float
    else if significand ≠ 0 ∧ !downward then none
    else some (.float (.zero number.negative))

-- `lenient` is for values passed over, where the end of the text is no fault of its own kind.
def missingDigit {α : Type} (lenient : Bool) : Reader α := do
  match ← peek with
  | none => fail (if lenient then .invalidNumber else .endInValue)
  | some _ => refuse .invalidNumber

def wholeDigits (lenient : Bool) : Reader (List Char) := do
  match ← peek with
  | some '0' =>
    advance
    if (← peek).any Char.isDigit then refuse .invalidNumber
    return ['0']
  | _ =>
    let run ← digits
    if run.isEmpty then missingDigit lenient
    return run

def fractionDigits (lenient : Bool) : Reader (Option (List Char)) := do
  if (← peek) ≠ some '.' then return none
  advance
  let run ← digits
  if run.isEmpty then missingDigit lenient
  return some run

def powerDigits (lenient : Bool) : Reader (Option (Bool × List Char)) := do
  let mark ← peek
  if mark ≠ some 'e' ∧ mark ≠ some 'E' then return none
  advance
  let sign ← peek
  if sign = some '+' ∨ sign = some '-' then advance
  let run ← digits
  if run.isEmpty then missingDigit lenient
  return some (sign = some '-', run)

def numberText (lenient : Bool) : Reader NumberText := do
  let negative := (← peek) = some '-'
  if negative then advance
  let whole ← wholeDigits lenient
  let fraction ← fractionDigits lenient
  let power ← powerDigits lenient
  return { negative, whole, fraction, power }

def number : Reader Json := do
  let text ← numberText false
  match text.value? with
  | some value => return value
  | none => fail .numberOutOfRange

end Numbers

section Strings

def hexValue? (c : Char) : Option Nat :=
  if c.isDigit then some (c.toNat - '0'.toNat)
  else if 'a' ≤ c ∧ c ≤ 'f' then some (c.toNat - 'a'.toNat + 10)
  else if 'A' ≤ c ∧ c ≤ 'F' then some (c.toNat - 'A'.toNat + 10)
  else none

/-- Where a string stands between two characters. `high` is the first half of a surrogate pair. -/
inductive StringState where
  | plain
  | escaped
  | hex (high : Option Nat) (left value : Nat)
  | secondHalf (high : Nat)
  | secondMark (high : Nat)

def isHighHalf (unit : Nat) : Bool := 0xd800 ≤ unit && unit ≤ 0xdbff
def isLowHalf (unit : Nat) : Bool := 0xdc00 ≤ unit && unit ≤ 0xdfff

/-- Four digits need four bytes, whichever characters these belong to. -/
def hexStart (high : Option Nat) (rest : List Char) : Except Misread StringState :=
  if utf8Length (rest.take 4) < 4 then .error ⟨.endInString, []⟩ else .ok (.hex high 4 0)

def escapeLetter? : Char → Option Char
  | '"' => some '"'
  | '\\' => some '\\'
  | '/' => some '/'
  | 'b' => some (Char.ofNat 8)
  | 'f' => some (Char.ofNat 12)
  | 'n' => some '\n'
  | 'r' => some '\r'
  | 't' => some '\t'
  | _ => none

/-- What a finished escape of one unit means: a character, or half of a pair. -/
def unitEnd (lenient : Bool) (high : Option Nat) (unit : Nat) (rest : List Char) :
    Except Misread (Option Char × StringState) :=
  if lenient then .ok (none, .plain)
  else
    match high with
    | none =>
      if isLowHalf unit then .error ⟨.loneSurrogate, rest⟩
      else if isHighHalf unit then .ok (none, .secondHalf unit)
      else .ok (some (Char.ofNat unit), .plain)
    | some first =>
      if isLowHalf unit then
        .ok (some (Char.ofNat (0x10000 + (first - 0xd800) * 0x400 + (unit - 0xdc00))), .plain)
      else .error ⟨.loneSurrogate, rest⟩

/-- Reads to the closing quote; `done` holds the characters so far, latest first. -/
def stringFrom (lenient : Bool) (done : List Char) :
    StringState → List Char → Except Misread (String × List Char)
  | _, [] => .error ⟨.endInString, []⟩
  | .plain, c :: rest =>
    if c = '"' then .ok (String.ofList done.reverse, rest)
    else if c = '\\' then stringFrom lenient done .escaped rest
    else if c.toNat < 32 then .error ⟨.controlCharacter, rest⟩
    else stringFrom lenient (c :: done) .plain rest
  | .escaped, c :: rest =>
    if c = 'u' then
      match hexStart none rest with
      | .ok state => stringFrom lenient done state rest
      | .error misread => .error misread
    else
      match escapeLetter? c with
      | some letter => stringFrom lenient (letter :: done) .plain rest
      | none => .error ⟨.invalidEscape, rest⟩
  | .hex high left value, c :: rest =>
    match hexValue? c with
    | none => .error ⟨.invalidEscape, rest⟩
    | some digit =>
      let unit := value * 16 + digit
      if 1 < left then stringFrom lenient done (.hex high (left - 1) unit) rest
      else
        match unitEnd lenient high unit rest with
        | .ok (letter, state) => stringFrom lenient (letter.toList ++ done) state rest
        | .error misread => .error misread
  | .secondHalf high, c :: rest =>
    if c = '\\' then stringFrom lenient done (.secondMark high) rest
    else .error ⟨.unexpectedEscapeEnd, rest⟩
  | .secondMark high, c :: rest =>
    if c = 'u' then
      match hexStart (some high) rest with
      | .ok state => stringFrom lenient done state rest
      | .error misread => .error misread
    else .error ⟨.unexpectedEscapeEnd, rest⟩

def stringBody (lenient : Bool) : Reader String := fun chars => stringFrom lenient [] .plain chars

end Strings

section Containers

def nextItem (first : Bool) : Reader Bool := do
  match ← peekValue with
  | none => fail .endInList
  | some c =>
    if c = ']' then return false
    else if first then return true
    else if c = ',' then
      advance
      if (← peekValue) = some ']' then refuse .trailingComma
      return true
    else refuse .expectedListEnd

def nextKey (first : Bool) : Reader (Option String) := do
  match ← peekValue with
  | none => fail .endInObject
  | some c =>
    if c = '}' then return none
    else if first then
      if c = '"' then advance; some <$> stringBody false else refuse .keyNotString
    else if c = ',' then
      advance
      match ← peekValue with
      | some '"' => advance; some <$> stringBody false
      | some '}' => refuse .trailingComma
      | some _ => refuse .keyNotString
      | none => fail .endInValue
    else refuse .expectedObjectEnd

def colon : Reader Unit := do
  match ← peekValue with
  | some ':' => advance
  | some _ => refuse .expectedColon
  | none => fail .endInObject

def closeList : Reader Unit := do
  match ← peekValue with
  | some ']' => advance
  | some ',' =>
    advance
    if (← peekValue) = some ']' then refuse .trailingComma else refuse .trailingCharacters
  | some _ => refuse .trailingCharacters
  | none => fail .endInList

def closeObject : Reader Unit := do
  match ← peekValue with
  | some '}' => advance
  | some ',' => refuse .trailingComma
  | some _ => refuse .trailingCharacters
  | none => fail .endInObject

end Containers

section Values

def scalar (first : Char) : Reader Json := do
  if first = 'n' then advance; ident ['u', 'l', 'l']; return .null
  else if first = 't' then advance; ident ['r', 'u', 'e']; return .bool true
  else if first = 'f' then advance; ident ['a', 'l', 's', 'e']; return .bool false
  else if first = '"' then advance; return .string (← stringBody false)
  else if first = '-' ∨ first.isDigit then number
  else refuse .expectedValue

mutual

/-- One value. `fuel` is at least twice the number of characters; `levels` is how many containers may
still be opened. -/
def value : (fuel levels : Nat) → Reader Json
  | 0, _ => fail .tooDeep
  | fuel + 1, levels => do
    match ← peekValue with
    | none => fail .endInValue
    | some c =>
      if c = '[' ∨ c = '{' then
        match levels with
        | 0 => refuse .tooDeep
        | levels + 1 =>
          advance
          if c = '[' then
            let found ← items fuel levels true
            advance
            return .array found
          else
            let found ← fields fuel levels true []
            advance
            return .object found
      else scalar c

def items : (fuel levels : Nat) → (first : Bool) → Reader (List Json)
  | 0, _, _ => fail .tooDeep
  | fuel + 1, levels, first => do
    if ← nextItem first then
      let item ← value fuel levels
      let others ← items fuel levels false
      return item :: others
    else return []

def fields : (fuel levels : Nat) → (first : Bool) → Record → Reader Record
  | 0, _, _, _ => fail .tooDeep
  | fuel + 1, levels, first, found => do
    match ← nextKey first with
    | none => return found
    | some key =>
      colon
      let content ← value fuel levels
      fields fuel levels false (Entries.put key content found)

end

inductive Container where
  | list | object

def Container.closing : Container → Char
  | .list => ']'
  | .object => '}'

def Container.endFault : Container → TextFault
  | .list => .endInList
  | .object => .endInObject

def Container.separatorFault : Container → TextFault
  | .list => .expectedListEnd
  | .object => .expectedObjectEnd

def passKey : Reader Unit := do
  match ← peekValue with
  | some '"' =>
    advance
    discard <| stringBody true
    colon
  | some _ => refuse .keyNotString
  | none => fail .endInObject

mutual

/-- Passes over a value; `around` are the containers it stands in, innermost first. -/
def passValue : (fuel : Nat) → (around : List Container) → Reader Unit
  | 0, _ => fail .tooDeep
  | fuel + 1, around => do
    match ← peekValue with
    | none => fail .endInValue
    | some c =>
      if c = '[' then advance; passRest fuel false (.list :: around)
      else if c = '{' then advance; passRest fuel false (.object :: around)
      else
        if c = '"' then do advance; discard <| stringBody true
        else if c = '-' ∨ c.isDigit then discard <| numberText true
        else discard <| scalar c
        passRest fuel true around

/-- Goes on behind a value, or behind an opening bracket, where no comma may stand. -/
def passRest : (fuel : Nat) → (comma : Bool) → (around : List Container) → Reader Unit
  | _, _, [] => return
  | 0, _, _ => fail .tooDeep
  | fuel + 1, comma, inner :: outer => do
    match ← peekValue with
    | none => fail inner.endFault
    | some c =>
      if c = inner.closing then advance; passRest fuel true outer
      else if comma ∧ c ≠ ',' then refuse inner.separatorFault
      else
        if comma then advance
        match inner with
        | .object => passKey
        | .list => pure ()
        passValue fuel (inner :: outer)

end

/-- Calls that reading `chars` can nest: every second one takes a character. -/
def fuelFor (chars : List Char) : Nat := 2 * chars.length + 4

def anyValue (levels : Nat) : Reader Json := do value (fuelFor (← get)) levels

def pass : Reader Unit := do passValue (fuelFor (← get)) []

def misfit {α : Type} (wanted : Wanted) : Reader α := do
  match ← peekValue with
  | none => fail .endInValue
  | some '[' => fail (.misfit (.wrongType .sequence wanted))
  | some '{' => fail (.misfit (.wrongType .map wanted))
  | some c =>
    let found ← scalar c
    fail (.misfit (found.misfit wanted))

def text : Reader String := do
  match ← peekValue with
  | some '"' => advance; stringBody false
  | _ => misfit .string

/-- `null` stands for nothing. -/
def optional {α : Type} (read : Reader α) : Reader (Option α) := do
  match ← peekValue with
  | some 'n' => advance; ident ['u', 'l', 'l']; return none
  | _ => some <$> read

def list (levels : Nat) : Reader (List Json) := do
  match ← peekValue with
  | some '[' =>
    match levels with
    | 0 => refuse .tooDeep
    | levels + 1 =>
      advance
      let found ← items (fuelFor (← get)) levels true
      advance
      return found
  | _ => misfit .sequence

def finish : Reader Unit := do
  if (← peekValue).isSome then refuse .trailingCharacters

end Values
end Reader

/-- A fault and its place: the line from 1, and the bytes before it on that line. -/
structure TextError where
  fault : TextFault
  line : Nat
  column : Nat

namespace TextError

def ofMisread (chars : List Char) (misread : Misread) : TextError :=
  let passed := chars.take (chars.length - misread.rest.length)
  let lastLine := (passed.reverse.takeWhile (· ≠ '\n')).reverse
  { fault := misread.fault, line := passed.count '\n' + 1, column := utf8Length lastLine }

def message (error : TextError) : String :=
  error.fault.message ++ " at line " ++ toString error.line ++ " column " ++ toString error.column

end TextError

def Reader.runOn {α : Type} (reader : Reader α) (text : String) : Except TextError α :=
  let whole : Reader α := do
    let read ← reader
    finish
    return read
  match whole.run text.toList with
  | .ok (read, _) => .ok read
  | .error misread => .error (.ofMisread text.toList misread)

def depthLimit : Nat := 127

def Json.ofText (text : String) : Except TextError Json := (Reader.anyValue depthLimit).runOn text

def Json.listOfText (text : String) : Except TextError (List Json) :=
  (Reader.list depthLimit).runOn text

end JobFanout
