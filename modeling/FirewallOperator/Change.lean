import FirewallOperator.Build
import FirewallOperator.Difference
import FirewallOperator.Inventory
import FirewallOperator.Object.Patch

/-! # Planned changes

A `Change` is what one request asks of the backend: a policy, its rules and its groups, each to be
written or removed, with the inventory as it will be once the backend has accepted it. The plans
here read the inventory only and have no effect of their own.

* `Change.forUpdate` brings the backend in line with a resource, and is nothing when it already is.
* `Change.forRemoval` removes what a resource builds and what is left of earlier versions of it.
* `Change.forOwner` removes what the inventory has of an owner. -/

namespace FirewallOperator

/-- A planned request with its consequence. -/
structure Change where
  /-- The policy, without rules. -/
  policy : Policy
  rules : List Rule
  groups : List Group
  /-- The inventory once the request has been accepted. -/
  after : Inventory
  deriving DecidableEq

namespace Change

/-- The request of a change in a domain. -/
def patch (c : Change) (domain : String) : Patch :=
  .wrap domain { c.policy with rules := c.rules } c.groups

/-- The change that brings the backend in line with built objects. -/
def toBuilt (m : Inventory) (uid : String) (built : Built) : Option Change :=
  let policy := built.policy.withoutRules
  let existing := m.policies.get? policy.id
  let changed := Difference.differs existing policy
  let rules := Difference.between (m.rules.ownedBy uid) built.policy.rules
  let groups := Difference.between (m.groups.ownedBy uid) built.groups
  if !changed && rules.isEmpty && groups.isEmpty then none
  else some {
    -- an unchanged policy only carries the request, so it goes out as it was found
    policy := if changed then policy else existing.getD policy
    rules := rules.writes
    groups := groups.writes
    after := {
      policies := if changed then m.policies.apply policy else m.policies
      rules := m.rules.applyAll rules.writes
      groups := m.groups.applyAll groups.writes } }

/-- Built objects followed by stored ones that are not built any more. -/
def withStored {α : Type} [Managed α] (built stored : List α) : List α :=
  built ++ stored.filter fun x => !built.any fun b => Managed.id b == Managed.id x

/-- The removal of a policy with rules and groups. -/
def removing (m : Inventory) (policy : Policy) (rules : List Rule) (groups : List Group) : Change :=
  let policy := Managed.setMarked true policy
  let rules := Difference.removals rules
  let groups := Difference.removals groups
  { policy, rules, groups
    after := {
      policies := m.policies.apply policy
      rules := m.rules.applyAll rules
      groups := m.groups.applyAll groups } }

/-- The removal of built objects and of what else the inventory has of their owner. -/
def ofBuilt (m : Inventory) (uid : String) (built : Built) : Change :=
  removing m built.policy.withoutRules
    (withStored built.policy.rules (m.rules.ownedBy uid))
    (withStored built.groups (m.groups.ownedBy uid))

/-- The change that brings the backend in line with a resource. -/
def forUpdate (b : Builder) (m : Inventory) (r : Resource) : Except Fault (Option Change) := do
  let built ← b.build r
  return toBuilt m (r.metadata.uid.getD "") built

/-- The removal of a resource. -/
def forRemoval (b : Builder) (m : Inventory) (r : Resource) : Except Fault Change := do
  let built ← b.build r
  return ofBuilt m (r.metadata.uid.getD "") built

/-- The removal of an owner's first policy with all of its rules and groups; nothing when the
inventory has no policy of the owner. -/
def forOwner (m : Inventory) (uid : String) : Option Change :=
  (m.policies.ownedBy uid).head?.map fun policy =>
    removing m policy (m.rules.ownedBy uid) (m.groups.ownedBy uid)

end Change

end FirewallOperator
