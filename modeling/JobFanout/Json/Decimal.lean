/-!
Decimals in lowest form, and their text: the digits with a point where the number is of moderate
size, a mantissa and a signed power of ten otherwise.
-/
namespace JobFanout

/-- The number `± digits · 10 ^ exponent`. The last digit is not zero, except for zero itself. -/
structure Decimal where
  negative : Bool
  digits : Nat
  exponent : Int
  lowest : digits % 10 ≠ 0 ∨ (digits = 0 ∧ exponent = 0)
deriving DecidableEq

namespace Decimal

def zero (negative : Bool) : Decimal := ⟨negative, 0, 0, .inr ⟨rfl, rfl⟩⟩

def ofScaled (negative : Bool) (digits : Nat) (exponent : Int) : Decimal :=
  if isZero : digits = 0 then zero negative
  else if tens : digits % 10 = 0 then ofScaled negative (digits / 10) (exponent + 1)
  else ⟨negative, digits, exponent, .inl tens⟩
termination_by digits
decreasing_by omega

/-- Equal as numbers: the two zeros are the same. -/
def same (a b : Decimal) : Bool :=
  a.digits == b.digits && a.exponent == b.exponent && (a.negative == b.negative || a.digits == 0)

def widestWhole : Int := 16

/-- Least place of the point, counted from the first digit, that is written with leading zeros. -/
def deepestPoint : Int := -5

def zeros (count : Int) : String := String.ofList (List.replicate count.toNat '0')

def signedPower (power : Int) : String :=
  (if power < 0 then "e-" else "e+") ++ toString power.natAbs

def magnitude (d : Decimal) : String :=
  let shown := toString d.digits
  let point := (shown.length : Int) + d.exponent
  if d.digits = 0 then "0.0"
  else if 0 ≤ d.exponent ∧ point ≤ widestWhole then shown ++ zeros d.exponent ++ ".0"
  else if 0 < point ∧ point ≤ widestWhole then
    (shown.take point.toNat).toString ++ "." ++ (shown.drop point.toNat).toString
  else if deepestPoint < point ∧ point ≤ 0 then "0." ++ zeros (-point) ++ shown
  else if shown.length = 1 then shown ++ signedPower (point - 1)
  else (shown.take 1).toString ++ "." ++ (shown.drop 1).toString ++ signedPower (point - 1)

def text (d : Decimal) : String := (if d.negative then "-" else "") ++ d.magnitude

end Decimal
end JobFanout
