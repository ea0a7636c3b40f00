import JobFanout.Json.Decimal
/-!
Numbers with a 53-bit mantissa. A decimal is read by rounding its significand and then scaling it by
a rounded power of ten; a number is written with the fewest digits that round back to it.
-/
namespace JobFanout

/-- The number `mantissa · 2 ^ exponent`, not negative. -/
structure Binary64 where
  mantissa : Nat
  exponent : Int

namespace Binary64

def mantissaLimit : Nat := Nat.pow 2 53
def leastExponent : Int := -1074
def greatestExponent : Int := 971

def zero : Binary64 := ⟨0, leastExponent⟩

def numerator (b : Binary64) : Nat := b.mantissa * Nat.pow 2 b.exponent.toNat
def denominator (b : Binary64) : Nat := Nat.pow 2 (-b.exponent).toNat

def roundEven (n d : Nat) : Nat :=
  let whole := n / d
  let twice := 2 * (n % d)
  if d < twice ∨ (d = twice ∧ whole % 2 = 1) then whole + 1 else whole

/-- The exponent that leaves 53 bits before the binary point of `n / d`, as far as there is one. -/
def exponentFor (n d : Nat) : Int :=
  let guess : Int := (n.log2 : Int) - (d.log2 : Int) - 52
  let low := n * Nat.pow 2 (-guess).toNat < d * Nat.pow 2 guess.toNat * Nat.pow 2 52
  max (if low then guess - 1 else guess) leastExponent

def nearest (n d : Nat) : Option Binary64 :=
  if n = 0 then some zero
  else
    let exponent := exponentFor n d
    let mantissa := roundEven (n * Nat.pow 2 (-exponent).toNat) (d * Nat.pow 2 exponent.toNat)
    let rounded : Binary64 :=
      if mantissa = mantissaLimit then ⟨mantissaLimit / 2, exponent + 1⟩ else ⟨mantissa, exponent⟩
    if greatestExponent < rounded.exponent then none else some rounded

def mul (a b : Binary64) : Option Binary64 :=
  nearest (a.numerator * b.numerator) (a.denominator * b.denominator)

def div (a b : Binary64) : Option Binary64 :=
  nearest (a.numerator * b.denominator) (a.denominator * b.numerator)

def greatestPower : Nat := 308

def powerOfTen (power : Nat) : Option Binary64 := nearest (Nat.pow 10 power) 1

-- One division by 1e308 takes any 64-bit significand below the least number after two rounds.
def scaleDown (number : Binary64) (power : Nat) : Option Binary64 := do
  if number.mantissa = 0 then some number
  else if power ≤ greatestPower then number.div (← powerOfTen power)
  else scaleDown (← number.div (← powerOfTen greatestPower)) (power - greatestPower)
termination_by power
decreasing_by simp only [greatestPower] at *; omega

/-- Reads `significand · 10 ^ exponent`: each step rounds. Nothing if the number is too large. -/
def ofDecimal? (significand : Nat) (exponent : Int) : Option Binary64 := do
  let start ← nearest significand 1
  if exponent < 0 then scaleDown start exponent.natAbs
  else if start.mantissa = 0 then some start
  else if exponent.toNat ≤ greatestPower then start.mul (← powerOfTen exponent.toNat)
  else none

/-- A multiple of `10 ^ place` that rounds to the number, the nearer one where there are two. -/
def atPlace (b : Binary64) (place : Int) : Option Nat :=
  -- Everything is taken four times, so that the ends of the rounding interval are whole.
  let unit := Nat.pow 2 (b.exponent - 2).toNat * Nat.pow 10 (-place).toNat
  let step := Nat.pow 2 (2 - b.exponent).toNat * Nat.pow 10 place.toNat
  let value := 4 * b.mantissa * unit
  let narrow := b.mantissa = mantissaLimit / 2 ∧ leastExponent < b.exponent
  let least := value - (if narrow then 1 else 2) * unit
  let greatest := value + 2 * unit
  let rounds (multiple : Nat) : Bool :=
    if b.mantissa % 2 = 0 then least ≤ multiple * step && multiple * step ≤ greatest
    else least < multiple * step && multiple * step < greatest
  let below := value / step
  let above := below + 1
  let gapBelow := value - below * step
  let gapAbove := above * step - value
  match rounds below, rounds above with
  | true, true =>
    if gapBelow < gapAbove ∨ (gapBelow = gapAbove ∧ below % 2 = 0) then some below else some above
  | true, false => some below
  | false, true => some above
  | false, false => none

/-- A place whose unit is greater than the number: 30103 / 100000 is just over `log₁₀ 2`. -/
def topPlace (b : Binary64) : Int := ((b.mantissa.log2 : Int) + 1 + b.exponent) * 30103 / 100000 + 1

/-- Tries ever finer places. Seventeen digits tell all numbers apart. -/
def searchDown (b : Binary64) (place : Int) : Nat → Nat × Int
  | 0 => (0, 0)
  | tries + 1 =>
    match b.atPlace place with
    | some multiple => (multiple, place)
    | none => searchDown b (place - 1) tries

def shortest (negative : Bool) (b : Binary64) : Decimal :=
  if b.mantissa = 0 then .zero negative
  else
    let found := b.searchDown b.topPlace 21
    .ofScaled negative found.1 found.2

end Binary64
end JobFanout
