import FirewallOperator.Json.Record
import FirewallOperator.Object.Patch

/-! # Backend objects in JSON

How the backend writes its objects. Every type has a `toJson` and an `ofJson?`; reading accepts what
writing produces, and supplies the defaults of fields that are missing. -/

namespace FirewallOperator

open Json (member memberIfSome)

/-! ## Tags, services, terms -/

namespace Tag

/-- A tag, with its value under the key `tag`. -/
def toJson (t : Tag) : Json := .obj [("scope", .str t.scope), ("tag", .str t.value)]

/-- Reads a tag; either text may be missing. -/
def ofJson? (j : Json) : Option Tag := do
  let r ← j.record? ["scope", "tag"]
  return { scope := ← r.text "scope", value := ← r.text "tag" }

/-- A written tag is read back. -/
theorem ofJson?_toJson (t : Tag) : ofJson? t.toJson = some t := rfl

end Tag

namespace ServiceEntry

/-- A service entry with all its fields. -/
def toJson (s : ServiceEntry) : Json :=
  .obj [("id", .str s.id), ("resource_type", .str s.resourceType),
    ("l4_protocol", .str s.protocol), ("destination_ports", Json.ofList .str s.ports)]

/-- Reads a service entry; its identity and protocol have to be given. -/
def ofJson? (j : Json) : Option ServiceEntry := do
  let r ← j.record? ["id", "resource_type", "l4_protocol", "destination_ports"]
  return {
    id := ← r.required "id" Json.asText?
    resourceType := ← r.withDefault "resource_type" "L4PortSetServiceEntry" Json.asText?
    protocol := ← r.required "l4_protocol" Json.asText?
    ports := ← r.list "destination_ports" Json.asText? }

end ServiceEntry

/-- The name of the variant that an object or array starts with, and the record of its fields. The
variants are given with the names of their fields. -/
def variant? (naming : Json.Naming) (variants : List (String × List String)) (j : Json) :
    Option (String × Json.Record) :=
  let name? := naming.name? (variants.map (·.1))
  if !j.readable then none
  else
    match j with
    | .arr (first :: items) => do
      let name ← name? first
      return (name, ← Json.record? (← variants.lookup name) (.arr items))
    | .obj members => do
      let r ← Json.keyedRecord? ["resource_type"] j
      let name ← r.required "resource_type" name?
      return (name, ← Json.keyedRecord? (← variants.lookup name) (.obj members))
    | _ => none

namespace Term

/-- The variants of a term with the names of their fields. -/
def variants : List (String × List String) :=
  [("Condition", ["member_type", "key", "operator", "value"]),
    ("ConjunctionOperator", ["conjunction_operator"])]

/-- A term, with the name of its variant as its resource type. -/
def toJson : Term → Json
  | .condition memberType key operator value =>
    .obj [("resource_type", .str "Condition"), ("member_type", .str memberType), ("key", .str key),
      ("operator", .str operator), ("value", .str value)]
  | .conjunction operator =>
    .obj [("resource_type", .str "ConjunctionOperator"), ("conjunction_operator", .str operator)]

/-- Reads a term; all fields of its variant have to be given. -/
def decode? (naming : Json.Naming) (j : Json) : Option Term := do
  let (name, r) ← variant? naming variants j
  match name with
  | "Condition" =>
    return .condition (← r.required "member_type" Json.asText?) (← r.required "key" Json.asText?)
      (← r.required "operator" Json.asText?) (← r.required "value" Json.asText?)
  | _ => return .conjunction (← r.required "conjunction_operator" Json.asText?)

/-- Reads a term, with names strictly read. -/
def ofJson? : Json → Option Term := decode? .strictly

end Term

/-! ## Rules, policies, groups -/

/-- The directions by name. -/
def Direction.names : List (String × Direction) :=
  [("IN", .ingress), ("OUT", .egress), ("IN_OUT", .both)]

/-- The name of a direction. -/
def Direction.name : Direction → String
  | .ingress => "IN"
  | .egress => "OUT"
  | .both => "IN_OUT"

/-- The actions by name. -/
def Action.names : List (String × Action) :=
  [("ALLOW", .allow), ("DROP", .drop), ("REJECT", .reject)]

/-- The name of an action. -/
def Action.name : Action → String
  | .allow => "ALLOW"
  | .drop => "DROP"
  | .reject => "REJECT"

namespace Rule

/-- A rule with all its fields, but for a revision that it does not have. -/
def toJson (r : Rule) : Json :=
  .obj <| [("id", .str r.id), ("display_name", .str r.displayName),
    ("resource_type", .str r.resourceType), ("direction", .str r.direction.name),
    ("action", .str r.action.name), ("source_groups", Json.ofList .str r.sources),
    ("destination_groups", Json.ofList .str r.destinations),
    ("service_entries", Json.ofList ServiceEntry.toJson r.services),
    ("scope", Json.ofList .str r.scope), ("sequence_number", .ofInt64 r.sequence),
    ("tags", Json.ofList Tag.toJson r.tags), ("marked_for_delete", .bool r.marked)]
    ++ memberIfSome "_revision" Json.ofInt64 r.revision

/-- Reads a rule; only its identity has to be given. -/
def decode? (naming : Json.Naming) (j : Json) : Option Rule := do
  let r ← j.record? ["id", "display_name", "resource_type", "direction", "action", "source_groups",
    "destination_groups", "service_entries", "scope", "sequence_number", "tags",
    "marked_for_delete", "_revision"]
  return {
    id := ← r.required "id" Json.asText?
    displayName := ← r.text "display_name"
    resourceType := ← r.withDefault "resource_type" "Rule" Json.asText?
    direction := ← r.withDefault "direction" .ingress (naming.value? Direction.names)
    action := ← r.withDefault "action" .allow (naming.value? Action.names)
    sources := ← r.list "source_groups" Json.asText?
    destinations := ← r.list "destination_groups" Json.asText?
    services := ← r.list "service_entries" ServiceEntry.ofJson?
    scope := ← r.list "scope" Json.asText?
    sequence := ← r.withDefault "sequence_number" 0 Json.asInt64?
    tags := ← r.list "tags" Tag.ofJson?
    marked := ← r.withDefault "marked_for_delete" false Json.asBool?
    revision := ← r.optional "_revision" Json.asInt64? }

/-- Reads a rule, with names strictly read. -/
def ofJson? : Json → Option Rule := decode? .strictly

end Rule

namespace Policy

/-- A policy with all its fields, but for a revision that it does not have. -/
def toJson (p : Policy) : Json :=
  .obj <| [("id", .str p.id), ("display_name", .str p.displayName),
    ("resource_type", .str p.resourceType), ("scope", Json.ofList .str p.scope),
    ("sequence_number", .ofInt64 p.sequence), ("rules", Json.ofList Rule.toJson p.rules),
    ("tags", Json.ofList Tag.toJson p.tags), ("marked_for_delete", .bool p.marked)]
    ++ memberIfSome "_revision" Json.ofInt64 p.revision

/-- Reads a policy with its rules; only its identity has to be given. -/
def decode? (naming : Json.Naming) (j : Json) : Option Policy := do
  let r ← j.record? ["id", "display_name", "resource_type", "scope", "sequence_number", "rules",
    "tags", "marked_for_delete", "_revision"]
  return {
    id := ← r.required "id" Json.asText?
    displayName := ← r.text "display_name"
    resourceType := ← r.withDefault "resource_type" "SecurityPolicy" Json.asText?
    scope := ← r.list "scope" Json.asText?
    sequence := ← r.withDefault "sequence_number" 0 Json.asInt64?
    rules := ← r.list "rules" (Rule.decode? naming)
    tags := ← r.list "tags" Tag.ofJson?
    marked := ← r.withDefault "marked_for_delete" false Json.asBool?
    revision := ← r.optional "_revision" Json.asInt64? }

/-- Reads a policy, with names strictly read. -/
def ofJson? : Json → Option Policy := decode? .strictly

end Policy

namespace Group

/-- A group with all its fields, but for a revision that it does not have. -/
def toJson (g : Group) : Json :=
  .obj <| [("id", .str g.id), ("display_name", .str g.displayName),
    ("resource_type", .str g.resourceType), ("expression", Json.ofList Term.toJson g.expression),
    ("tags", Json.ofList Tag.toJson g.tags), ("marked_for_delete", .bool g.marked)]
    ++ memberIfSome "_revision" Json.ofInt64 g.revision

/-- Reads a group; only its identity has to be given. -/
def decode? (naming : Json.Naming) (j : Json) : Option Group := do
  let r ← j.record? ["id", "display_name", "resource_type", "expression", "tags",
    "marked_for_delete", "_revision"]
  return {
    id := ← r.required "id" Json.asText?
    displayName := ← r.text "display_name"
    resourceType := ← r.withDefault "resource_type" "Group" Json.asText?
    expression := ← r.list "expression" (Term.decode? naming)
    tags := ← r.list "tags" Tag.ofJson?
    marked := ← r.withDefault "marked_for_delete" false Json.asBool?
    revision := ← r.optional "_revision" Json.asInt64? }

/-- Reads a group, with names strictly read. -/
def ofJson? : Json → Option Group := decode? .strictly

end Group

/-! ## Patches -/

namespace Child

/-- The variants of a child with the names of their fields. -/
def variants : List (String × List String) :=
  [("ChildGroup", ["marked_for_delete", "Group"]),
    ("ChildSecurityPolicy", ["marked_for_delete", "SecurityPolicy"])]

/-- A child, with the name of its variant as its resource type and its object under the name of the
kind. The object keeps the resource type of its own. -/
def toJson : Child → Json
  | .group marked g =>
    .obj [("resource_type", .str "ChildGroup"), ("marked_for_delete", .bool marked),
      ("Group", g.toJson)]
  | .policy marked p =>
    .obj [("resource_type", .str "ChildSecurityPolicy"), ("marked_for_delete", .bool marked),
      ("SecurityPolicy", p.toJson)]

/-- Reads a child; all fields of its variant have to be given. The names inside its object are read
loosely. -/
def ofJson? (j : Json) : Option Child := do
  let (name, r) ← variant? .strictly variants j
  let marked ← r.required "marked_for_delete" Json.asBool?
  match name with
  | "ChildGroup" => return .group marked (← r.required "Group" (Group.decode? .loosely))
  | _ => return .policy marked (← r.required "SecurityPolicy" (Policy.decode? .loosely))

end Child

namespace Domain

/-- A domain with all its fields. -/
def toJson (d : Domain) : Json :=
  .obj [("id", .str d.id), ("resource_type", .str d.resourceType),
    ("children", Json.ofList Child.toJson d.children)]

/-- Reads a domain; all fields have to be given. -/
def ofJson? (j : Json) : Option Domain := do
  let r ← j.record? ["id", "resource_type", "children"]
  return {
    id := ← r.required "id" Json.asText?
    resourceType := ← r.required "resource_type" Json.asText?
    children := ← r.required "children" (Json.asList? Child.ofJson?) }

end Domain

namespace DomainEntry

/-- A domain's entry with all its fields. -/
def toJson (e : DomainEntry) : Json :=
  .obj [("resource_type", .str e.resourceType), ("marked_for_delete", .bool e.marked),
    ("Domain", e.domain.toJson)]

/-- Reads a domain's entry; all fields have to be given. -/
def ofJson? (j : Json) : Option DomainEntry := do
  let r ← j.record? ["resource_type", "marked_for_delete", "Domain"]
  return {
    resourceType := ← r.required "resource_type" Json.asText?
    marked := ← r.required "marked_for_delete" Json.asBool?
    domain := ← r.required "Domain" Domain.ofJson? }

end DomainEntry

namespace Patch

/-- A patch with all its fields. -/
def toJson (p : Patch) : Json :=
  .obj [("resource_type", .str p.resourceType),
    ("children", Json.ofList DomainEntry.toJson p.domains)]

/-- Reads a patch; all fields have to be given. -/
def ofJson? (j : Json) : Option Patch := do
  let r ← j.record? ["resource_type", "children"]
  return {
    resourceType := ← r.required "resource_type" Json.asText?
    domains := ← r.required "children" (Json.asList? DomainEntry.ofJson?) }

end Patch

end FirewallOperator
