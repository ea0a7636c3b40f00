/-!
Keyed entries. `put` keeps the keys ascending and replaces, `valueAt?` answers with the last value
written under a key, so with several entries under one key the later one wins throughout.
-/
namespace JobFanout

abbrev Entries (α : Type) := List (String × α)

namespace Entries
variable {α : Type}

/-- The value of the last entry under `key`. -/
def valueAt? (key : String) : Entries α → Option α
  | [] => none
  | (k, value) :: rest =>
    match valueAt? key rest with
    | some later => some later
    | none => if k = key then some value else none

def hasKey (key : String) (entries : Entries α) : Bool := (valueAt? key entries).isSome

-- Keys are ordered by code point.
def put (key : String) (value : α) : Entries α → Entries α
  | [] => [(key, value)]
  | (k, v) :: rest =>
    if key < k then (key, value) :: (k, v) :: rest
    else if key = k then (key, value) :: rest
    else (k, v) :: put key value rest

def putAll (additions entries : Entries α) : Entries α :=
  additions.foldl (fun written entry => put entry.1 entry.2 written) entries

def keys (entries : Entries α) : List String := entries.map Prod.fst

def Ascending (entries : Entries α) : Prop := (keys entries).Pairwise (· < ·)

instance (entries : Entries α) : Decidable (Ascending entries) :=
  inferInstanceAs (Decidable (List.Pairwise _ _))

end Entries
end JobFanout
