import FirewallOperator.Object.Basic

/-! # Patches of the backend's object tree

One request changes a whole subtree: a root holds domains, and a domain holds groups and policies.
Each child says again whether its object is to be removed. `Patch.wrap` puts the groups before the
policy, so that they exist when the policy's rules are resolved. -/

namespace FirewallOperator

/-- An object below a domain. -/
inductive Child where
  | group (marked : Bool) (group : Group)
  | policy (marked : Bool) (policy : Policy)
  deriving DecidableEq, Repr

/-- A domain with what is to change below it. -/
structure Domain where
  id : String
  resourceType : String := "Domain"
  children : List Child
  deriving DecidableEq, Repr

/-- A domain as a child of the root. -/
structure DomainEntry where
  resourceType : String := "ChildDomain"
  marked : Bool := false
  domain : Domain
  deriving DecidableEq, Repr

/-- The root of a patch. -/
structure Patch where
  resourceType : String := "Infra"
  domains : List DomainEntry
  deriving DecidableEq, Repr

namespace Patch

/-- The patch that carries one policy and its groups in one domain. -/
def wrap (domain : String) (policy : Policy) (groups : List Group) : Patch where
  domains := [{
    domain := {
      id := domain
      children := groups.map (fun g => .group g.marked g) ++ [.policy policy.marked policy] } }]

/-- The children of all domains, in order. -/
def children (p : Patch) : List Child := p.domains.flatMap (·.domain.children)

/-- The first policy carried, if there is one. -/
def policy? (p : Patch) : Option Policy :=
  p.children.findSome? fun
    | .policy _ policy => some policy
    | .group _ _ => none

/-- The groups carried, in order. -/
def groups (p : Patch) : List Group :=
  p.children.filterMap fun
    | .group _ group => some group
    | .policy _ _ => none

/-- A request lists the groups, each with its mark, and the policy behind them. -/
theorem children_wrap (domain : String) (policy : Policy) (gs : List Group) :
    (wrap domain policy gs).children =
      gs.map (fun g => .group g.marked g) ++ [.policy policy.marked policy] := by
  simp [wrap, children]

/-- A wrapped policy is found again. -/
@[simp] theorem policy?_wrap (domain : String) (policy : Policy) (gs : List Group) :
    (wrap domain policy gs).policy? = some policy := by
  rw [policy?, children_wrap]
  induction gs with
  | nil => rfl
  | cons g gs ih => simpa [List.findSome?_cons] using ih

/-- Wrapped groups are found again, in order. -/
@[simp] theorem groups_wrap (domain : String) (policy : Policy) (gs : List Group) :
    (wrap domain policy gs).groups = gs := by
  rw [groups, children_wrap]
  induction gs with
  | nil => rfl
  | cons g gs ih => exact congrArg (g :: ·) ih

end Patch

end FirewallOperator
