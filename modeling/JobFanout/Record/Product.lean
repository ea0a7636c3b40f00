/-!
Combinations of one element of each of several vectors. The first vector turns fastest. `product`
lists them all; an `Odometer` yields them one at a time, so that only those asked for are made.
-/
namespace JobFanout
variable {σ α β : Type}

def combinations : List (List α) → List (List α)
  | [] => [[]]
  | vector :: rest => (combinations rest).flatMap fun others => vector.map (· :: others)

/-- No vectors, or one without elements, give nothing. -/
def isBarren (vectors : List (List α)) : Bool := vectors.isEmpty || vectors.any List.isEmpty

def product (vectors : List (List α)) : List (List α) :=
  if isBarren vectors then [] else combinations vectors

def productSize (vectors : List (List α)) : Nat :=
  if vectors.isEmpty then 0 else vectors.foldl (fun size vector => size * vector.length) 1

/-- One index for each vector; `done` once every combination has been shown. -/
structure Odometer (α : Type) where
  vectors : List (List α)
  indices : List Nat
  done : Bool

namespace Odometer

def ofVectors (vectors : List (List α)) : Odometer α where
  vectors := vectors
  indices := vectors.map fun _ => 0
  done := isBarren vectors

def pick : List (List α) → List Nat → Option (List α)
  | vector :: vectors, index :: indices => do
    let element ← vector[index]?
    let others ← pick vectors indices
    return element :: others
  | _, _ => some []

def turn : List (List α) → List Nat → Option (List Nat)
  | vector :: vectors, index :: indices =>
    if index + 1 < vector.length then some ((index + 1) :: indices)
    else (turn vectors indices).map (0 :: ·)
  | _, _ => none

def advance (odometer : Odometer α) : Odometer α :=
  match turn odometer.vectors odometer.indices with
  | some indices => { odometer with indices := indices }
  | none => { odometer with done := true }

/-- One pull: merges the combination shown and moves on. `merge` may keep a state of its own. -/
def pull (merge : List α → σ → β × σ) (odometer : Odometer α) (state : σ) :
    Option β × Odometer α × σ :=
  if odometer.done then (none, odometer, state)
  else
    match pick odometer.vectors odometer.indices with
    | none => (none, odometer, state)
    | some combination =>
      let (merged, after) := merge combination state
      (some merged, odometer.advance, after)

def pulls (merge : List α → σ → β × σ) : Nat → Odometer α → σ → List β × Odometer α × σ
  | 0, odometer, state => ([], odometer, state)
  | count + 1, odometer, state =>
    match odometer.pull merge state with
    | (none, odometer, state) => ([], odometer, state)
    | (some merged, odometer, state) =>
      let (others, odometer, state) := pulls merge count odometer state
      (merged :: others, odometer, state)

end Odometer
end JobFanout
