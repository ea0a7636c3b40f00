import JobFanout.Text.Unprintable
/-!
Quoted text for messages: quotes, backslashes and the usual line characters are escaped by letter,
whatever has no shape of its own by its code point.
-/
namespace JobFanout.Quoted

def escapeChar (c : Char) : String :=
  if c.toNat = 0 then "\\0"
  else if c = '\t' then "\\t"
  else if c = '\r' then "\\r"
  else if c = '\n' then "\\n"
  else if c = '\\' then "\\\\"
  else if c = '"' then "\\\""
  else if Unprintable.covers c.toNat then
    "\\u\x7b" ++ String.ofList (Nat.toDigits 16 c.toNat) ++ "\x7d"
  else c.toString

def quote (s : String) : String := "\"" ++ String.join (s.toList.map escapeChar) ++ "\""

end JobFanout.Quoted
