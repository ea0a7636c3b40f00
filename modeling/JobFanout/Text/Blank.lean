/-!
White space in the wide sense, and decimal digits, with the ways to skip and read them.
-/
namespace JobFanout

def isWideBlank (c : Char) : Bool :=
  let code := c.toNat
  (9 ≤ code && code ≤ 13) || code = 0x20 || code = 0x85 || code = 0xa0 || code = 0x1680
    || (0x2000 ≤ code && code ≤ 0x200a) || code = 0x2028 || code = 0x2029 || code = 0x202f
    || code = 0x205f || code = 0x3000

def skipWideBlanks (chars : List Char) : List Char := chars.dropWhile isWideBlank

def digitValue (c : Char) : Nat := c.toNat - '0'.toNat

/-- The number that digits stand for, the first counting most. -/
def decimalValue (digits : List Char) : Nat :=
  digits.foldl (fun value digit => value * 10 + digitValue digit) 0

def utf8Length (chars : List Char) : Nat := chars.foldl (fun size c => size + c.utf8Size) 0

end JobFanout
