/-! # Objects of the firewall backend

What the backend stores: policies with their ordered rules, and groups of members that policies and
rules refer to by path. Every object has an identity that is unique within its kind, a display
name, tags, a mark that asks for its removal, and a revision that the backend manages. -/

namespace FirewallOperator

/-! ## Tags -/

/-- A value attached to an object under a scope. -/
structure Tag where
  scope : String := ""
  value : String := ""
  deriving DecidableEq, Repr

/-- The scope that holds the name of the cluster an object belongs to. -/
def Tag.clusterScope : String := "netfence/cluster"

/-- The scope that holds the namespace of the resource an object was built from. -/
def Tag.namespaceScope : String := "netfence/namespace"

/-- The scope that holds the name of the resource an object was built from. -/
def Tag.nameScope : String := "netfence/security_policy_name"

/-- The scope that holds the uid of the resource an object was built from: its owner. -/
def Tag.ownerScope : String := "netfence/security_policy_uid"

/-- Start of the scopes under which the labels of a namespace are attached to its members. -/
def Tag.namespaceLabelScope : String := "netfence/ns-label/"

/-! ## Policies and rules -/

/-- The traffic that a rule looks at. -/
inductive Direction where
  | ingress
  | egress
  | both
  deriving DecidableEq, Repr

/-- What a rule does with the traffic that matches it. -/
inductive Action where
  | allow
  | drop
  | reject
  deriving DecidableEq, Repr

/-- The ports of one protocol that a rule matches. -/
structure ServiceEntry where
  id : String
  resourceType : String := "L4PortSetServiceEntry"
  /-- The protocol's name. -/
  protocol : String
  /-- Ports and ranges of ports. -/
  ports : List String := []
  deriving DecidableEq, Repr

/-- The path that stands for every endpoint. -/
def anyPath : String := "ANY"

/-- A rule of a policy. -/
structure Rule where
  id : String
  displayName : String := ""
  resourceType : String := "Rule"
  direction : Direction := .ingress
  action : Action := .allow
  /-- Paths of the groups that traffic comes from. -/
  sources : List String := []
  /-- Paths of the groups that traffic goes to. -/
  destinations : List String := []
  /-- The ports that match; none means all. -/
  services : List ServiceEntry := []
  /-- Paths of the groups that the rule is enforced on. -/
  scope : List String := []
  /-- The rule's place in its policy. -/
  sequence : Int64 := 0
  tags : List Tag := []
  marked : Bool := false
  revision : Option Int64 := none
  deriving DecidableEq, Repr

/-- A policy with its rules. -/
structure Policy where
  id : String
  displayName : String := ""
  resourceType : String := "SecurityPolicy"
  /-- Paths of the groups that the policy is enforced on. -/
  scope : List String := []
  /-- The policy's place among the policies. -/
  sequence : Int64 := 0
  rules : List Rule := []
  tags : List Tag := []
  marked : Bool := false
  revision : Option Int64 := none
  deriving DecidableEq, Repr

/-- The policy without its rules, as it is kept when the rules are kept apart. -/
def Policy.withoutRules (p : Policy) : Policy := { p with rules := [] }

/-- A policy without its rules has none. -/
@[simp] theorem Policy.rules_withoutRules (p : Policy) : p.withoutRules.rules = [] := rfl

/-- Rules are taken out of a policy only once. -/
@[simp] theorem Policy.withoutRules_withoutRules (p : Policy) :
    p.withoutRules.withoutRules = p.withoutRules := rfl

/-! ## Groups -/

/-- A part of a group's expression: conditions with conjunctions between them. -/
inductive Term where
  /-- Members of one type whose attribute `key` compares with the value. -/
  | condition (memberType key operator value : String)
  /-- Joins the parts on both sides. -/
  | conjunction (operator : String)
  deriving DecidableEq, Repr

/-- The condition that members of a type carry a tag. -/
def Term.hasTag (memberType scope tag : String) : Term :=
  .condition memberType "Tag" "EQUALS" (scope ++ "|" ++ tag)

/-- The conjunction that asks for both sides. -/
def Term.and : Term := .conjunction "AND"

/-- The conjunction that asks for either side. -/
def Term.or : Term := .conjunction "OR"

/-- A group of members, chosen by an expression. -/
structure Group where
  id : String
  displayName : String := ""
  resourceType : String := "Group"
  expression : List Term := []
  tags : List Tag := []
  marked : Bool := false
  revision : Option Int64 := none
  deriving DecidableEq, Repr

/-- The path of the group with the given identity in a domain. -/
def groupPath (domain id : String) : String := "/infra/domains/" ++ domain ++ "/groups/" ++ id

/-- The path by which policies and rules in a domain refer to a group. -/
def Group.path (g : Group) (domain : String) : String := groupPath domain g.id

end FirewallOperator
