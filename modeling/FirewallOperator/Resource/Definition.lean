import FirewallOperator.Resource.Schema

/-! # The definition of resources

What the cluster is told about resources before it accepts any: how they are called, by which schema
they are checked, and which of their fields a table of them shows. -/

namespace FirewallOperator

namespace Resource

/-- A column of a table of resources: its name, the type of its cells and the field they show. -/
def column (name type field : String) : Json :=
  .obj [("jsonPath", .str field), ("name", .str name), ("type", .str type)]

/-- The names of resources. -/
def definedNames : Json :=
  .obj [
    ("categories", .arr []),
    ("kind", .str "SecurityPolicy"),
    ("plural", .str "securitypolicies"),
    ("shortNames", .arr [.str "sp"]),
    ("singular", .str "securitypolicy")]

/-- The one version in which resources are served and stored. Their status is written apart. -/
def definedVersion : Json :=
  .obj [
    ("additionalPrinterColumns", .arr [
      column "Priority" "integer" ".spec.priority",
      column "Phase" "string" ".status.phase",
      column "Age" "date" ".metadata.creationTimestamp"]),
    ("name", .str "v1alpha1"),
    ("schema", .obj [("openAPIV3Schema", schema.toJson)]),
    ("served", .bool true),
    ("storage", .bool true),
    ("subresources", .obj [("status", .obj [])])]

/-- The definition of resources. -/
def definition : Json :=
  .obj [
    ("apiVersion", .str "apiextensions.k8s.io/v1"),
    ("kind", .str "CustomResourceDefinition"),
    ("metadata", .obj [("name", .str "securitypolicies.netfence.dev")]),
    ("spec", .obj [
      ("group", .str "netfence.dev"),
      ("names", definedNames),
      ("scope", .str "Namespaced"),
      ("versions", .arr [definedVersion])])]

end Resource

end FirewallOperator
