/-!
Ids that grow with time: 48 bits of milliseconds, a version digit, a counter of 42 bits about a
variant, and 32 bits of noise, written in the five groups of a uuid.
-/
namespace JobFanout

structure EventId where
  milliseconds : Nat
  counter : Nat
  noise : Nat

namespace EventId

def hexDigit (n : Nat) : Char := if n < 10 then Char.ofNat (48 + n) else Char.ofNat (87 + n)

def hex : (width : Nat) → Nat → List Char
  | 0, _ => []
  | width + 1, n => hex width (n / 16) ++ [hexDigit (n % 16)]

-- The counter fills the twelve bits behind the version and the thirty behind the variant.
def digits (id : EventId) : List Char :=
  hex 12 id.milliseconds ++ ['7'] ++ hex 3 (id.counter / Nat.pow 2 30)
    ++ hex 8 (Nat.pow 2 31 + id.counter % Nat.pow 2 30) ++ hex 8 id.noise

def text (id : EventId) : String :=
  let all := id.digits
  let group (start size : Nat) : String := String.ofList ((all.drop start).take size)
  "-".intercalate [group 0 8, group 8 4, group 12 4, group 16 4, group 20 12]

/-- The id after this one in the same millisecond. -/
def next (id : EventId) (noise : Nat) : EventId := { id with counter := id.counter + 1, noise }

end EventId
end JobFanout
