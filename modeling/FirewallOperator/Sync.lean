import FirewallOperator.Fault
import FirewallOperator.Inventory

/-! # Filling the inventory

Before anything else, the objects of each kind are listed, all kinds at once. Each listing that
arrives fills its store; policies lose their rules, which are listed on their own. The first listing
that fails ends the attempt: later ones change nothing any more. What remains is the order in which
the listings arrive, `syncIn`; `arrivalOrder` gives the one that follows from their delays. -/

namespace FirewallOperator

/-- What listing one kind yields, and after how long. -/
structure Arrival (α : Type) where
  objects : List α := []
  delay : Nat := 0
  fault : Option Fault := none
  deriving DecidableEq, Repr

/-- What listing every kind yields. -/
structure Arrivals where
  policies : Arrival Policy := {}
  rules : Arrival Rule := {}
  groups : Arrival Group := {}
  deriving DecidableEq, Repr

namespace Arrivals

/-- The fault of listing a kind. -/
def fault? (a : Arrivals) : Kind → Option Fault
  | .policy => a.policies.fault
  | .rule => a.rules.fault
  | .group => a.groups.fault

/-- How long listing a kind takes. -/
def delay (a : Arrivals) : Kind → Nat
  | .policy => a.policies.delay
  | .rule => a.rules.delay
  | .group => a.groups.delay

/-- The inventory after the objects of a kind have arrived. -/
def store (a : Arrivals) (m : Inventory) : Kind → Inventory
  | .policy => { m with policies := m.policies.putAll (a.policies.objects.map (·.withoutRules)) }
  | .rule => { m with rules := m.rules.putAll a.rules.objects }
  | .group => { m with groups := m.groups.putAll a.groups.objects }

/-- The inventory after the listings have arrived in an order, and the fault that ended the
attempt. -/
def syncIn (a : Arrivals) : List Kind → Inventory → Inventory × Option Fault
  | [], m => (m, none)
  | k :: rest, m =>
    match a.fault? k with
    | some fault => (m, some (.sync k.name fault))
    | none => a.syncIn rest (a.store m k)

/-- Kinds in order of their delays with one more, behind those that take as long. -/
def insertByDelay (a : Arrivals) (k : Kind) : List Kind → List Kind
  | [] => [k]
  | l :: rest => if a.delay k < a.delay l then k :: l :: rest else l :: a.insertByDelay k rest

/-- The kinds in the order in which their listings arrive. -/
def arrivalOrder (a : Arrivals) : List Kind :=
  [Kind.policy, .rule, .group].foldl (fun order k => a.insertByDelay k order) []

/-- The inventory after all listings, and the fault that ended the attempt. -/
def sync (a : Arrivals) (m : Inventory) : Inventory × Option Fault := a.syncIn a.arrivalOrder m

end Arrivals

end FirewallOperator
