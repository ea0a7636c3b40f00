import JobFanout.Json.Basic
/-!
JSON text. `compact` has no blanks, `pretty` indents by two and keeps empty containers closed. Fields
are written in the order of their list.
-/
namespace JobFanout.Json

/-- Four hexadecimal digits of a control character. -/
def controlCode (c : Char) : String :=
  let digit (n : Nat) : Char := if n < 10 then Char.ofNat (48 + n) else Char.ofNat (87 + n)
  "\\u00" ++ String.ofList [digit (c.toNat / 16), digit (c.toNat % 16)]

def escapeChar (c : Char) : String :=
  if c = '"' then "\\\""
  else if c = '\\' then "\\\\"
  else if c = '\n' then "\\n"
  else if c = '\t' then "\\t"
  else if c = '\r' then "\\r"
  else if c.toNat = 8 then "\\b"
  else if c.toNat = 12 then "\\f"
  else if c.toNat < 32 then controlCode c
  else c.toString

def quote (s : String) : String := "\"" ++ String.join (s.toList.map escapeChar) ++ "\""

mutual

def compact : Json → String
  | .null => "null"
  | .bool value => if value then "true" else "false"
  | .int value => toString value
  | .float value => value.text
  | .string value => quote value
  | .array items => "[" ++ ",".intercalate (compactItems items) ++ "]"
  | .object fields => "\x7b" ++ ",".intercalate (compactFields fields) ++ "\x7d"

def compactItems : List Json → List String
  | [] => []
  | item :: rest => item.compact :: compactItems rest

def compactFields : List (String × Json) → List String
  | [] => []
  | (key, value) :: rest => (quote key ++ ":" ++ value.compact) :: compactFields rest

end

def indent (level : Nat) : String := String.ofList (List.replicate (2 * level) ' ')

def block (opening closing : String) (level : Nat) (lines : List String) : String :=
  if lines.isEmpty then opening ++ closing
  else opening ++ "\n" ++ ",\n".intercalate lines ++ "\n" ++ indent level ++ closing

mutual

def prettyAt (level : Nat) : Json → String
  | .array items => block "[" "]" level (prettyItems (level + 1) items)
  | .object fields => block "\x7b" "\x7d" level (prettyFields (level + 1) fields)
  | scalar => scalar.compact

def prettyItems (level : Nat) : List Json → List String
  | [] => []
  | item :: rest => (indent level ++ item.prettyAt level) :: prettyItems level rest

def prettyFields (level : Nat) : List (String × Json) → List String
  | [] => []
  | (key, value) :: rest =>
    (indent level ++ quote key ++ ": " ++ value.prettyAt level) :: prettyFields level rest

end

def pretty (json : Json) : String := json.prettyAt 0

end JobFanout.Json
