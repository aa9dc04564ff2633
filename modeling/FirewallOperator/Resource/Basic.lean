import FirewallOperator.Data.SortedMap
import FirewallOperator.Object.Basic
import FirewallOperator.Time.Timestamp

/-! # Resources

A `Resource` declares which traffic the workloads of one namespace may receive and send. Its `Spec`
chooses workloads by label and lists rules; its `Status` reports what became of it; its `Metadata`
is the cluster's: identity, generation, finalizers and whether it is being deleted. -/

namespace FirewallOperator

/-- Labels that a workload or namespace has to carry, all of them. -/
abbrev Labels := SortedMap String

/-! ## What is declared -/

/-- Workloads of the resource's namespace, chosen by label. -/
structure Target where
  pods : Option Labels := none
  machines : Option Labels := none
  deriving DecidableEq

/-- A target that chooses nothing. -/
def Target.isEmpty (t : Target) : Bool := t.pods.isNone && t.machines.isNone

/-- Workloads that traffic comes from or goes to. -/
structure Peer where
  pods : Option Labels := none
  machines : Option Labels := none
  /-- Labels of the namespaces to look in; without them, the resource's namespace. -/
  namespaces : Option Labels := none
  deriving DecidableEq

/-- A peer that chooses nothing. -/
def Peer.isEmpty (p : Peer) : Bool := p.pods.isNone && p.machines.isNone && p.namespaces.isNone

/-- The protocols whose ports a rule can name. -/
inductive Protocol where
  | tcp
  | udp
  deriving DecidableEq, Repr

/-- A destination port, or a range of them. -/
structure Port where
  protocol : Protocol := .tcp
  /-- The port, or the first of a range. -/
  port : UInt16
  /-- The last port of a range. -/
  last : Option UInt16 := none
  deriving DecidableEq, Repr

/-- The direction of the traffic that a declared rule is about. -/
inductive Flow where
  | ingress
  | egress
  deriving DecidableEq, Repr

/-- A declared rule. -/
structure RuleSpec where
  name : Option String := none
  action : Action := .allow
  flow : Flow := .ingress
  /-- The workloads the rule applies to, in place of those of the whole resource. -/
  appliedTo : List Target := []
  /-- Where traffic may come from; anywhere if empty. -/
  sources : List Peer := []
  /-- Where traffic may go to; anywhere if empty. -/
  destinations : List Peer := []
  /-- The destination ports; all if empty. -/
  ports : List Port := []
  deriving DecidableEq

/-- What a resource declares. -/
structure Spec where
  /-- The order relative to other resources, lower first. -/
  priority : Int32 := 0
  /-- The workloads that all rules apply to. -/
  appliedTo : List Target := []
  rules : List RuleSpec := []
  deriving DecidableEq

/-! ## What became of it -/

/-- The state of a resource on the backend. -/
inductive Phase where
  | pending
  | ready
  | failed
  deriving DecidableEq, Repr

/-- The name of a phase. -/
def Phase.name : Phase → String
  | .pending => "Pending"
  | .ready => "Ready"
  | .failed => "Failed"

/-- Whether a condition holds. -/
inductive Holds where
  | yes
  | no
  | unknown
  deriving DecidableEq, Repr

/-- One reported condition. -/
structure Condition where
  /-- What the condition is about. -/
  type : String
  holds : Holds
  reason : String
  message : String
  /-- The generation of the resource that was looked at. -/
  observedGeneration : Option Int64 := none
  /-- When the condition was last written. -/
  time : Timestamp
  deriving DecidableEq, Repr

/-- The report on a resource. -/
structure Status where
  phase : Phase := .pending
  message : Option String := none
  /-- The generation of the resource that was last realized. -/
  observedGeneration : Option Int64 := none
  conditions : List Condition := []
  deriving DecidableEq, Repr

/-! ## The whole resource -/

/-- What the cluster knows about a resource. -/
structure Metadata where
  name : Option String := none
  /-- Start of the name of a resource that the cluster has yet to name. -/
  generateName : Option String := none
  ownNamespace : Option String := none
  uid : Option String := none
  /-- Counts changes of the spec. -/
  generation : Option Int64 := none
  /-- Who has to let go of the resource before it is removed. -/
  finalizers : List String := []
  /-- When the resource was asked to be deleted. -/
  deletion : Option Timestamp := none
  deriving DecidableEq, Repr

/-- A declaration with its metadata and its status. -/
structure Resource where
  metadata : Metadata := {}
  spec : Spec := {}
  status : Option Status := none
  deriving DecidableEq

namespace Resource

/-- The name by which a resource is addressed, be it only the start of one. -/
def address (r : Resource) : String :=
  (r.metadata.name.orElse fun _ => r.metadata.generateName).getD ""

/-- The namespace in which a resource is addressed. -/
def addressNamespace (r : Resource) : String := r.metadata.ownNamespace.getD ""

/-- The finalizer that keeps a resource while the backend has objects of it. -/
def finalizer : String := "netfence.dev/security-policy"

/-- Whether the resource is kept by this program. -/
def isHeld (r : Resource) : Bool := r.metadata.finalizers.contains finalizer

/-- Whether the resource is being deleted. -/
def isDeleting (r : Resource) : Bool := r.metadata.deletion.isSome

end Resource

end FirewallOperator
