/-!
Identities: the users that calls are made for, opened for a while. Which ones are open depends on
their ids alone, so a copy under another user closes the same identity.
-/
namespace JobFanout

structure Identity where
  id : String
  user : String
deriving DecidableEq

/-- The ids now open, each once. -/
structure OpenIdentities where
  ids : List String := []

namespace OpenIdentities

def isOpen (identities : OpenIdentities) (identity : Identity) : Bool :=
  identities.ids.contains identity.id

def count (identities : OpenIdentities) : Nat := identities.ids.length

def opened (identities : OpenIdentities) (identity : Identity) : OpenIdentities :=
  if identities.isOpen identity then identities else ⟨identity.id :: identities.ids⟩

def closed (identities : OpenIdentities) (identity : Identity) : OpenIdentities :=
  ⟨identities.ids.filter (· ≠ identity.id)⟩

end OpenIdentities

structure Provider where
  generated : Nat := 0
  held : OpenIdentities := {}

namespace Provider

inductive Request where
  | opening (user : String)
  | closing (identity : Identity)
  | asking (identity : Identity)

inductive Reply where
  | opened (identity : Identity)
  | closed
  | answered (isOpen : Bool)

def perform (ids : Nat → String) (provider : Provider) : Request → Reply × Provider
  | .opening user =>
    let identity : Identity := ⟨ids provider.generated, user⟩
    (.opened identity, ⟨provider.generated + 1, provider.held.opened identity⟩)
  | .closing identity => (.closed, { provider with held := provider.held.closed identity })
  | .asking identity => (.answered (provider.held.isOpen identity), provider)

end Provider
end JobFanout
