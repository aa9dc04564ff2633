import FirewallOperator.Fault
import FirewallOperator.Resource.Codec

/-! # From a resource to objects

`Builder.build` turns a resource into a policy with its rules and the groups that they refer to. All
identities derive from the resource's uid: the policy is `sp_<uid>`, its rules and groups append an
index and what they are for. Nothing else is looked at, so an unchanged resource yields the same
objects again.

A resource that has no objects has a `Defect`: the first field, in the order of the declaration,
that says something impossible. -/

namespace FirewallOperator

/-! ## Defects -/

/-- What is wrong with a field. -/
inductive Defect.Cause where
  | noUid
  | noName
  | noNamespace
  | noScope
  | emptyTarget
  | emptyPeer
  | anyMachine
  | portZero
  | reversedRange (port last : UInt16)
  deriving DecidableEq, Repr

/-- A field that keeps a resource from having objects. -/
structure Defect where
  /-- The path of the field. -/
  field : String
  cause : Defect.Cause
  deriving DecidableEq, Repr

/-- The wording of a cause. -/
def Defect.Cause.message : Defect.Cause → String
  | .noUid => "uid is required"
  | .noName => "name is required"
  | .noNamespace => "namespace is required"
  | .noScope => "appliedTo must be set on the rule when the policy has none"
  | .emptyTarget => "target must set podSelector or vmSelector"
  | .emptyPeer => "peer must set podSelector, vmSelector or namespaceSelector"
  | .anyMachine => "vmSelector must match at least one label"
  | .portZero => "port must be non-zero"
  | .reversedRange port last =>
    "endPort " ++ toString last.toNat ++ " is below port " ++ toString port.toNat

/-- The fault of the resource with the given name. -/
def Defect.toFault (d : Defect) (name : String) : Fault :=
  .build name d.cause.message (some d.field)

/-- A field path with an index. -/
def indexed (field : String) (index : Nat) : String := field ++ "[" ++ toString index ++ "]"

/-! ## Identities -/

/-- The identity of the policy of a resource. -/
def policyId (uid : String) : String := "sp_" ++ uid

/-- The identity of a rule of a resource. -/
def ruleId (uid : String) (index : Nat) : String := policyId uid ++ "_" ++ toString index

/-- The identity of the group that a policy or rule is enforced on. -/
def scopeGroupId (id : String) : String := id ++ "_scope"

/-- The identity of the group that a rule's traffic comes from. -/
def sourceGroupId (id : String) : String := id ++ "_src"

/-- The identity of the group that a rule's traffic goes to. -/
def destinationGroupId (id : String) : String := id ++ "_dst"

/-! ## Expressions -/

/-- The type of the members that are pods. -/
def podMember : String := "SegmentPort"

/-- The type of the members that are virtual machines. -/
def machineMember : String := "VirtualMachine"

/-- All of the conditions. -/
def allOf (conditions : List Term) : List Term := conditions.intersperse .and

/-- Any of the criteria. -/
def anyOf (criteria : List (List Term)) : List Term :=
  ((criteria.filter fun c => !c.isEmpty).intersperse [.or]).flatten

/-- One condition for each label. -/
def labelConditions (memberType scope : String) (labels : Labels) : List Term :=
  labels.entries.map fun e => .hasTag memberType (scope ++ e.1) e.2

/-- The conditions on a pod: its labels, and its namespace or the labels of its namespace. Without
any condition, every pod of the cluster is meant. -/
def podConditions (cluster ownNamespace : String) (labels : Labels) (namespaces : Option Labels) :
    List Term :=
  let place :=
    match namespaces with
    | none => [.hasTag podMember Tag.namespaceScope ownNamespace]
    | some ls => labelConditions podMember Tag.namespaceLabelScope ls
  match labelConditions podMember "" labels ++ place with
  -- an expression is never empty, so the cluster itself is asked for
  | [] => [.hasTag podMember Tag.clusterScope cluster]
  | conditions => conditions

/-! ## Building -/

/-- Builds objects for one cluster and in one domain. -/
structure Builder where
  cluster : String
  domain : String
  deriving DecidableEq, Repr

/-- What the objects of one resource have in common. -/
structure Origin where
  cluster : String
  domain : String
  uid : String
  name : String
  ownNamespace : String
  deriving DecidableEq, Repr

/-- The policy and the groups of a resource. -/
structure Built where
  policy : Policy
  groups : List Group
  deriving DecidableEq, Repr

namespace Origin

/-- The tags of every object of the resource. -/
def tags (o : Origin) : List Tag :=
  [⟨Tag.clusterScope, o.cluster⟩, ⟨Tag.namespaceScope, o.ownNamespace⟩,
   ⟨Tag.nameScope, o.name⟩, ⟨Tag.ownerScope, o.uid⟩]

/-- The group with an identity whose members meet any of the criteria. -/
def group (o : Origin) (id : String) (criteria : List (List Term)) : Group where
  id := id
  displayName := id
  expression := anyOf criteria
  tags := o.tags

/-- The criterion that virtual machines carry all labels, of which there has to be one. -/
def machineCriterion (field : String) (labels : Labels) : Except Defect (List Term) :=
  if labels.isEmpty then .error ⟨field ++ ".vmSelector", .anyMachine⟩
  else .ok (allOf (labelConditions machineMember "" labels))

/-- The criteria of one target. -/
def targetCriteria (o : Origin) (field : String) (t : Target) :
    Except Defect (List (List Term)) := do
  if t.isEmpty then throw ⟨field, .emptyTarget⟩
  let pods := t.pods.toList.map fun ls => allOf (podConditions o.cluster o.ownNamespace ls none)
  let machines ← t.machines.toList.mapM (machineCriterion field)
  return pods ++ machines

/-- The criteria of one peer. -/
def peerCriteria (o : Origin) (field : String) (p : Peer) : Except Defect (List (List Term)) := do
  if p.isEmpty then throw ⟨field, .emptyPeer⟩
  let pods :=
    if p.pods.isSome || p.namespaces.isSome then
      [allOf (podConditions o.cluster o.ownNamespace (p.pods.getD .empty) p.namespaces)]
    else []
  let machines ← p.machines.toList.mapM (machineCriterion field)
  return pods ++ machines

/-- The criteria of all members of a list, each under its index. -/
def criteria {α : Type} (field : String) (one : String → α → Except Defect (List (List Term)))
    (xs : List α) : Except Defect (List (List Term)) := do
  return (← xs.zipIdx.mapM fun (x, i) => one (indexed field i) x).flatten

/-- The group of the workloads that a policy or rule is enforced on. -/
def targetGroup (o : Origin) (id field : String) (targets : List Target) : Except Defect Group := do
  return o.group id (← criteria field o.targetCriteria targets)

/-- The group of peers; none when every peer is meant. -/
def peerGroup (o : Origin) (id field : String) (peers : List Peer) :
    Except Defect (Option Group) := do
  if peers.isEmpty then return none
  return some (o.group id (← criteria field o.peerCriteria peers))

/-- The path of a group, or the path of every endpoint. -/
def pathOf (o : Origin) : Option Group → String
  | none => anyPath
  | some g => g.path o.domain

/-- The service entry of one port. -/
def serviceEntry (field : String) (index : Nat) (p : Port) : Except Defect ServiceEntry := do
  if p.port = 0 then throw ⟨field, .portZero⟩
  let first := toString p.port.toNat
  let ports ← match p.last with
    | none => pure first
    | some last =>
      if last < p.port then throw ⟨field, .reversedRange p.port last⟩
      else if last = p.port then pure first
      else pure (first ++ "-" ++ toString last.toNat)
  return { id := "port_" ++ toString index, protocol := p.protocol.name, ports := [ports] }

/-- The group a rule is enforced on; none when that is the policy's. -/
def ruleScope (o : Origin) (id field : String) (inherits : Bool) (targets : List Target) :
    Except Defect (Option Group) := do
  if !targets.isEmpty then
    return some (← o.targetGroup (scopeGroupId id) field targets)
  else if inherits then return none
  else throw ⟨field, .noScope⟩

/-- A rule with its groups; `inherits` tells whether the policy says what its rules are enforced
on. -/
def rule (o : Origin) (inherits : Bool) (index : Nat) (r : RuleSpec) :
    Except Defect (Rule × List Group) := do
  let id := ruleId o.uid index
  let field := indexed "spec.rules" index
  let scope ← o.ruleScope id (field ++ ".appliedTo") inherits r.appliedTo
  let sources ← o.peerGroup (sourceGroupId id) (field ++ ".sources") r.sources
  let destinations ←
    o.peerGroup (destinationGroupId id) (field ++ ".destinations") r.destinations
  let services ← r.ports.zipIdx.mapM fun (p, i) => serviceEntry (indexed (field ++ ".ports") i) i p
  let rule : Rule := {
    id
    displayName := r.name.getD (o.name ++ "-" ++ toString index)
    direction := match r.flow with
      | .ingress => .ingress
      | .egress => .egress
    action := r.action
    sources := [o.pathOf sources]
    destinations := [o.pathOf destinations]
    services
    scope := [o.pathOf scope]
    sequence := Int64.ofNat index
    tags := o.tags }
  return (rule, scope.toList ++ sources.toList ++ destinations.toList)

/-- The policy and groups of a spec. -/
def objects (o : Origin) (s : Spec) : Except Defect Built := do
  let id := policyId o.uid
  let scope ←
    if s.appliedTo.isEmpty then pure none
    else some <$> o.targetGroup (scopeGroupId id) "spec.appliedTo" s.appliedTo
  let rules ← s.rules.zipIdx.mapM fun (r, i) => o.rule scope.isSome i r
  return {
    policy := {
      id
      displayName := o.ownNamespace ++ "-" ++ o.name
      scope := scope.toList.map (·.path o.domain)
      sequence := s.priority.toInt64
      rules := rules.map (·.1)
      tags := o.tags }
    groups := scope.toList ++ rules.flatMap (·.2) }

end Origin

namespace Builder

/-- Where the objects of a resource come from; the resource needs a uid, a name and a namespace. -/
def origin (b : Builder) (m : Metadata) : Except Defect Origin := do
  let some uid := m.uid | throw ⟨"metadata.uid", .noUid⟩
  let name := m.name.getD ""
  if name.isEmpty then throw ⟨"metadata.name", .noName⟩
  let some ownNamespace := m.ownNamespace | throw ⟨"metadata.namespace", .noNamespace⟩
  return { cluster := b.cluster, domain := b.domain, uid, name, ownNamespace }

/-- The objects of a resource, or its first defect. -/
def objects (b : Builder) (r : Resource) : Except Defect Built := do
  (← b.origin r.metadata).objects r.spec

/-- The objects of a resource. -/
def build (b : Builder) (r : Resource) : Except Fault Built :=
  (b.objects r).mapError fun d => d.toFault (r.metadata.name.getD "")

end Builder

end FirewallOperator
