import FirewallOperator.Json.Record
import FirewallOperator.Object.Codec
import FirewallOperator.Resource.Basic
import FirewallOperator.Time.Rfc3339

/-! # Resources in JSON

How the cluster writes resources. Optional fields without a value and empty lists are left out when
writing. Metadata has far more fields than are kept; all of them have to be of the right type. -/

namespace FirewallOperator

open Json (memberIfSome memberIfAny)

/-! ## Labels and times -/

namespace Labels

/-- Labels as an object, in the order of their keys. -/
def toJson (ls : Labels) : Json := .obj (ls.entries.map fun e => (e.1, .str e.2))

/-- Reads labels; all values are texts. -/
def ofJson? : Json → Option Labels
  | .obj members => do
    return SortedMap.ofList (← members.mapM fun (key, value) => value.asText?.map (key, ·))
  | _ => none

end Labels

namespace Timestamp

/-- A time as its text. -/
def toJson (t : Timestamp) : Json := .str t.text

/-- Reads the text of a time. -/
def ofJson? (j : Json) : Option Timestamp := j.asText?.bind parse?

end Timestamp

/-! ## The spec -/

namespace Target

/-- A target with the selectors that it has. -/
def toJson (t : Target) : Json :=
  .obj (memberIfSome "podSelector" Labels.toJson t.pods
    ++ memberIfSome "vmSelector" Labels.toJson t.machines)

/-- Reads a target; either selector may be missing. -/
def ofJson? (j : Json) : Option Target := do
  let r ← j.record? ["podSelector", "vmSelector"]
  return {
    pods := ← r.optional "podSelector" Labels.ofJson?
    machines := ← r.optional "vmSelector" Labels.ofJson? }

end Target

namespace Peer

/-- A peer with the selectors that it has. -/
def toJson (p : Peer) : Json :=
  .obj (memberIfSome "podSelector" Labels.toJson p.pods
    ++ memberIfSome "vmSelector" Labels.toJson p.machines
    ++ memberIfSome "namespaceSelector" Labels.toJson p.namespaces)

/-- Reads a peer; each selector may be missing. -/
def ofJson? (j : Json) : Option Peer := do
  let r ← j.record? ["podSelector", "vmSelector", "namespaceSelector"]
  return {
    pods := ← r.optional "podSelector" Labels.ofJson?
    machines := ← r.optional "vmSelector" Labels.ofJson?
    namespaces := ← r.optional "namespaceSelector" Labels.ofJson? }

end Peer

/-- The protocols by name. -/
def Protocol.names : List (String × Protocol) := [("TCP", .tcp), ("UDP", .udp)]

/-- The name of a protocol. -/
def Protocol.name : Protocol → String
  | .tcp => "TCP"
  | .udp => "UDP"

namespace Port

/-- A port, with the end of its range if it is one. -/
def toJson (p : Port) : Json :=
  .obj ([("protocol", .str p.protocol.name), ("port", .ofUInt16 p.port)]
    ++ memberIfSome "endPort" Json.ofUInt16 p.last)

/-- Reads a port; only its number has to be given. -/
def ofJson? (j : Json) : Option Port := do
  let r ← j.record? ["protocol", "port", "endPort"]
  return {
    protocol := ← r.withDefault "protocol" .tcp (Json.asNamed? Protocol.names)
    port := ← r.required "port" Json.asUInt16?
    last := ← r.optional "endPort" Json.asUInt16? }

end Port

/-- The directions of declared rules by name. -/
def Flow.names : List (String × Flow) := [("In", .ingress), ("Out", .egress)]

/-- The name of a direction of declared rules. -/
def Flow.name : Flow → String
  | .ingress => "In"
  | .egress => "Out"

/-- The actions by the names that declared rules use. -/
def Action.specNames : List (String × Action) :=
  [("Allow", .allow), ("Drop", .drop), ("Reject", .reject)]

/-- The name of an action in a declared rule. -/
def Action.specName : Action → String
  | .allow => "Allow"
  | .drop => "Drop"
  | .reject => "Reject"

namespace RuleSpec

/-- A declared rule without the lists that are empty. -/
def toJson (r : RuleSpec) : Json :=
  .obj (memberIfSome "name" .str r.name
    ++ [("action", .str r.action.specName), ("direction", .str r.flow.name)]
    ++ memberIfAny "appliedTo" Target.toJson r.appliedTo
    ++ memberIfAny "sources" Peer.toJson r.sources
    ++ memberIfAny "destinations" Peer.toJson r.destinations
    ++ memberIfAny "ports" Port.toJson r.ports)

/-- Reads a declared rule; nothing has to be given. -/
def ofJson? (j : Json) : Option RuleSpec := do
  let r ← j.record? ["name", "action", "direction", "appliedTo", "sources", "destinations", "ports"]
  return {
    name := ← r.optional "name" Json.asText?
    action := ← r.withDefault "action" .allow (Json.asNamed? Action.specNames)
    flow := ← r.withDefault "direction" .ingress (Json.asNamed? Flow.names)
    appliedTo := ← r.list "appliedTo" Target.ofJson?
    sources := ← r.list "sources" Peer.ofJson?
    destinations := ← r.list "destinations" Peer.ofJson?
    ports := ← r.list "ports" Port.ofJson? }

end RuleSpec

namespace Spec

/-- A spec without the lists that are empty. -/
def toJson (s : Spec) : Json :=
  .obj ([("priority", .ofInt32 s.priority)]
    ++ memberIfAny "appliedTo" Target.toJson s.appliedTo
    ++ memberIfAny "rules" RuleSpec.toJson s.rules)

/-- Reads a spec; nothing has to be given. -/
def ofJson? (j : Json) : Option Spec := do
  let r ← j.record? ["priority", "appliedTo", "rules"]
  return {
    priority := ← r.withDefault "priority" 0 Json.asInt32?
    appliedTo := ← r.list "appliedTo" Target.ofJson?
    rules := ← r.list "rules" RuleSpec.ofJson? }

end Spec

/-! ## The status -/

/-- The phases by name. -/
def Phase.names : List (String × Phase) :=
  [("Pending", .pending), ("Ready", .ready), ("Failed", .failed)]

/-- Whether a condition holds, by name. -/
def Holds.names : List (String × Holds) := [("True", .yes), ("False", .no), ("Unknown", .unknown)]

/-- The name for whether a condition holds. -/
def Holds.name : Holds → String
  | .yes => "True"
  | .no => "False"
  | .unknown => "Unknown"

namespace Condition

/-- A condition, with the generation that was looked at if it is known. -/
def toJson (c : Condition) : Json :=
  .obj ([("type", .str c.type), ("status", .str c.holds.name), ("reason", .str c.reason),
      ("message", .str c.message)]
    ++ memberIfSome "observedGeneration" Json.ofInt64 c.observedGeneration
    ++ [("lastTransitionTime", c.time.toJson)])

/-- Reads a condition; all but the generation has to be given. -/
def ofJson? (j : Json) : Option Condition := do
  let r ← j.record?
    ["type", "status", "reason", "message", "observedGeneration", "lastTransitionTime"]
  return {
    type := ← r.required "type" Json.asText?
    holds := ← r.required "status" (Json.asNamed? Holds.names)
    reason := ← r.required "reason" Json.asText?
    message := ← r.required "message" Json.asText?
    observedGeneration := ← r.optional "observedGeneration" Json.asInt64?
    time := ← r.required "lastTransitionTime" Timestamp.ofJson? }

end Condition

namespace Status

/-- A status with the fields that it has. -/
def toJson (s : Status) : Json :=
  .obj ([("phase", .str s.phase.name)]
    ++ memberIfSome "message" .str s.message
    ++ memberIfSome "observedGeneration" Json.ofInt64 s.observedGeneration
    ++ memberIfAny "conditions" Condition.toJson s.conditions)

/-- Reads a status; nothing has to be given. -/
def ofJson? (j : Json) : Option Status := do
  let r ← j.record? ["phase", "message", "observedGeneration", "conditions"]
  return {
    phase := ← r.withDefault "phase" .pending (Json.asNamed? Phase.names)
    message := ← r.optional "message" Json.asText?
    observedGeneration := ← r.optional "observedGeneration" Json.asInt64?
    conditions := ← r.list "conditions" Condition.ofJson? }

end Status

/-! ## Metadata -/

/-- A member that may be missing or null; of several with one key all are decoded and the last
counts. -/
def lastMember? {α : Type} (members : List (String × Json)) (name : String)
    (decode : Json → Option α) : Option (Option α) := do
  let occurrences := members.filter fun m => m.1 == name
  return (← occurrences.mapM fun m => m.2.nullable? decode).getLast?.join

/-- Any value that is readable. -/
def anyReadable? (j : Json) : Option Unit := if j.readable then some () else none

namespace Metadata

/-- Whether members of an object have the types of an entry about the writers of fields. -/
def checkFieldWriter? : Json → Option Unit
  | .obj ms => do
    for name in ["apiVersion", "fieldsType", "manager", "operation", "subresource"] do
      let _ ← lastMember? ms name Json.asText?
    let _ ← lastMember? ms "fieldsV1" anyReadable?
    let _ ← lastMember? ms "time" Timestamp.ofJson?
  | _ => none

/-- Whether members of an object have the types of a reference to an owner. -/
def checkOwner? : Json → Option Unit
  | .obj ms => do
    for name in ["apiVersion", "kind", "name", "uid"] do
      let _ ← lastMember? ms name Json.asText?
    for name in ["blockOwnerDeletion", "controller"] do
      let _ ← lastMember? ms name Json.asBool?
  | _ => none

/-- Reads metadata. Fields that are not kept have to be of the right type all the same. -/
def ofJson? : Json → Option Metadata
  | .obj ms => do
    for name in ["annotations", "labels"] do
      let _ ← lastMember? ms name Labels.ofJson?
    for name in ["resourceVersion", "selfLink"] do
      let _ ← lastMember? ms name Json.asText?
    let _ ← lastMember? ms "creationTimestamp" Timestamp.ofJson?
    let _ ← lastMember? ms "deletionGracePeriodSeconds" Json.asInt64?
    let _ ← lastMember? ms "managedFields" (Json.asList? checkFieldWriter?)
    let _ ← lastMember? ms "ownerReferences" (Json.asList? checkOwner?)
    return {
      name := ← lastMember? ms "name" Json.asText?
      generateName := ← lastMember? ms "generateName" Json.asText?
      ownNamespace := ← lastMember? ms "namespace" Json.asText?
      uid := ← lastMember? ms "uid" Json.asText?
      generation := ← lastMember? ms "generation" Json.asInt64?
      finalizers := (← lastMember? ms "finalizers" (Json.asList? Json.asText?)).getD []
      deletion := ← lastMember? ms "deletionTimestamp" Timestamp.ofJson? }
  | _ => none

end Metadata

/-! ## The whole resource -/

namespace Resource

/-- Reads a resource; its metadata and its spec have to be given. -/
def ofJson? (j : Json) : Option Resource := do
  let r ← j.record? ["metadata", "spec", "status"]
  let status ← if r.positional then r.required "status" (·.nullable? Status.ofJson?)
    else r.optional "status" Status.ofJson?
  return {
    metadata := ← r.required "metadata" Metadata.ofJson?
    spec := ← r.required "spec" Spec.ofJson?
    status }

end Resource

end FirewallOperator
