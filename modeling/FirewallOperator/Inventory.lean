import FirewallOperator.Store

/-! # The inventory of the backend

An `Inventory` holds a store for each kind of objects. Decisions are made on it, and it changes only
after the backend has accepted a change. A `Listing` is what the backend has of each kind. -/

namespace FirewallOperator

/-- Objects of every kind. -/
structure Listing where
  policies : List Policy := []
  rules : List Rule := []
  groups : List Group := []
  deriving DecidableEq, Repr

/-- The stored objects of every kind. -/
structure Inventory where
  /-- The policies, without the rules that were written with them. -/
  policies : Store Policy
  rules : Store Rule
  groups : Store Group
  deriving DecidableEq

namespace Inventory

/-- The inventory of a backend without objects. -/
def empty : Inventory := ⟨.empty, .empty, .empty⟩

instance : Inhabited Inventory := ⟨empty⟩

/-- The inventory with more objects stored, as they are. -/
def putAll (m : Inventory) (l : Listing) : Inventory where
  policies := m.policies.putAll l.policies
  rules := m.rules.putAll l.rules
  groups := m.groups.putAll l.groups

/-- The owners of policies and groups. -/
def owners (m : Inventory) : TextSet := m.groups.owners.union m.policies.owners

end Inventory

end FirewallOperator
