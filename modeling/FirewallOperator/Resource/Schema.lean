import FirewallOperator.Json.Schema
import FirewallOperator.Resource.Codec

/-! # Schemas of resources

The schemas by which the cluster checks resources before it stores them: `Spec.schema` for what is
declared, `Status.schema` for the report, `Resource.schema` for both together. Fields with a default
need not be present; optional fields may be null. -/

namespace FirewallOperator

namespace Schema

/-- Texts that are one of some names, with a default unless one has to be given. -/
def named {α : Type} (description : String) (names : List (String × α))
    (default : Option String := none) : Schema :=
  .text { description, default := default.map .str } (names.map (·.1))

/-- Texts. -/
def plainText (description : String) (nullable : Bool := false) : Schema :=
  .text { description, nullable } []

/-- Whole numbers of a width. -/
def number (description format : String) (nullable : Bool := false) : Schema :=
  .whole { description, format, nullable } none

/-- Port numbers. -/
def portNumber (description : String) (nullable : Bool := false) : Schema :=
  .whole { description, format := "uint16", nullable } (some 0)

/-- Lists. -/
def listOf (description : String) (item : Schema) : Schema := .list { description } item

/-- Labels that may be missing. -/
def labels (description : String) : Schema :=
  .table { description, nullable := true } (.text {} [])

end Schema

open Schema

/-! ## The spec -/

/-- The schema of targets. -/
def Target.schema : Schema :=
  .record { description := "Workloads selected by label" }
    [("podSelector", labels "Pods in the policy namespace whose labels match all entries"),
      ("vmSelector",
        labels "Virtual machines in the policy namespace whose labels match all entries")]
    []

/-- The schema of peers. -/
def Peer.schema : Schema :=
  .record { description := "Traffic peer for rule sources and destinations" }
    [("podSelector", labels "Pods whose labels match all entries"),
      ("vmSelector", labels "Virtual machines whose labels match all entries"),
      ("namespaceSelector",
        labels ("Restrict pod/VM selection to namespaces with these labels.\n\n"
          ++ "Without it, selection is limited to the policy namespace."))]
    []

/-- The schema of ports. Only the number has to be given. -/
def Port.schema : Schema :=
  .record { description := "A destination port or port range" }
    [("protocol", named "L4 protocol" Protocol.names (some Protocol.tcp.name)),
      ("port", portNumber "Destination port (start of the range when `endPort` is set)"),
      ("endPort", portNumber "Inclusive end of the port range" true)]
    ["port"]

/-- The schema of declared rules. -/
def RuleSpec.schema : Schema :=
  .record { description := "One firewall rule" }
    [("name", plainText "Optional display name; defaults to `<policy>-<index>`" true),
      ("action",
        named "What to do with matching traffic" Action.specNames (some Action.allow.specName)),
      ("direction",
        named "Which direction the rule matches" Flow.names (some Flow.ingress.name)),
      ("appliedTo",
        listOf "Workloads this rule applies to (overrides the policy-level scope)" Target.schema),
      ("sources", listOf "Allowed sources; empty matches any source" Peer.schema),
      ("destinations", listOf "Allowed destinations; empty matches any destination" Peer.schema),
      ("ports", listOf "Destination ports; empty matches any port" Port.schema)]
    []

/-- What the schema says that a resource is for. -/
def Spec.description : String :=
  "SecurityPolicy declares firewall rules enforced by the networking backend.\n\n"
    ++ "Example: ```yaml apiVersion: netfence.dev/v1alpha1 kind: SecurityPolicy "
    ++ "metadata: name: web-allow namespace: shop "
    ++ "spec: priority: 10 appliedTo: - podSelector: app: web "
    ++ "rules: - name: allow-http action: Allow direction: In "
    ++ "sources: - podSelector: app: frontend ports: - protocol: TCP port: 80 ```"

/-- The schema of specs. -/
def Spec.schema : Schema :=
  .record { description := Spec.description }
    [("priority",
        .whole {
          description := "Evaluation priority relative to other policies (lower = earlier)"
          default := some (.int 0)
          format := "int32" } none),
      ("appliedTo", listOf "Workloads the whole policy applies to" Target.schema),
      ("rules", listOf "Ordered firewall rules" RuleSpec.schema)]
    []

/-! ## The status -/

/-- The schema of conditions. All but the generation has to be given. -/
def Condition.schema : Schema :=
  .record { description := "One entry of `status.conditions`" }
    [("type", plainText "Condition type, e.g. [`CONDITION_READY`]"),
      ("status", named "Whether the condition holds" Holds.names),
      ("reason", plainText "CamelCase reason for the last transition"),
      ("message", plainText "Human-readable detail"),
      ("observedGeneration",
        number "Resource generation the condition was computed from" "int64" true),
      ("lastTransitionTime",
        .text { description := "When the condition was last written", format := "date-time" } [])]
    ["type", "status", "reason", "message", "lastTransitionTime"]

/-- The schema of statuses, one of which may be missing. -/
def Status.schema : Schema :=
  .record { description := "SecurityPolicy status", nullable := true }
    [("phase", named "Current phase" Phase.names (some Phase.pending.name)),
      ("message", plainText "Human-readable message" true),
      ("observedGeneration", number "Generation last realized on the backend" "int64" true),
      ("conditions", listOf "Status conditions" Condition.schema)]
    []

/-! ## The whole resource -/

/-- The schema of resources, of which only the spec has to be given. -/
def Resource.schema : Schema :=
  .record {
      title := "SecurityPolicy"
      description := "Auto-generated derived type for SecurityPolicySpec via `CustomResource`" }
    [("spec", Spec.schema), ("status", Status.schema)]
    ["spec"]

end FirewallOperator
