import FirewallOperator.Http.Exchange
import FirewallOperator.Http.Status
import FirewallOperator.Http.Uri
import FirewallOperator.Json.Reader
import FirewallOperator.Resource.Codec

/-! # The cluster's interface

Resources are addressed by namespace and name, which go into the path as they are. Finalizers are
changed by reading the resource and writing the whole list back; a status is merged into the one the
resource has. -/

namespace FirewallOperator

namespace Cluster

/-! ## Answers -/

namespace Refusal

/-- Reads a refusal; its status and its code have to be given. -/
def ofJson? (j : Json) : Option FirewallOperator.Refusal := do
  let r ← j.record? ["status", "message", "reason", "code"]
  return {
    status := ← r.required "status" Json.asText?
    message := ← r.text "message"
    reason := ← r.text "reason"
    code := ← r.required "code" Json.asUInt16? }

end Refusal

/-- The refusal that an answer with a status and a body expresses. A body that is no refusal is
quoted in one. -/
def refusalOf (status : UInt16) (body : String) : FirewallOperator.Refusal :=
  ((Json.parseLoose body).bind Refusal.ofJson?).getD {
    status := statusLine status
    message := quoted body
    reason := "Failed to parse error data"
    code := status }

/-- Sends a request to a path and decodes the answer. -/
def send {α : Type} (method path : String) (body : Option Json) (decode : Json → Option α) :
    Exchange α := do
  let some target := Uri.pathTarget? path | throw (.cluster "the path is not valid")
  match ← Exchange.send {
      method, body
      url := target
      contentType := body.map fun _ => "application/merge-patch+json" } with
  | .dropped => throw (.cluster "the connection was closed")
  | .answered status text =>
    if isRefusal status then throw (.refused (refusalOf status text))
    else
      match (Json.parseLoose text).bind decode with
      | some x => return x
      | none => throw (.cluster "the answer cannot be read")

/-! ## Paths -/

/-- The path of all resources. -/
def root : String := "/apis/netfence.dev/v1alpha1"

/-- The path of a resource. A resource without a name has none. -/
def resourcePath (name ownNamespace : String) : Except Fault String :=
  if name.isEmpty then .error (.cluster "the name is empty")
  else .ok (root ++ "/namespaces/" ++ ownNamespace ++ "/securitypolicies/" ++ name)

/-- What follows the path of a change: who makes it. -/
def changeSuffix : String := "?&fieldManager=netfence-controller"

/-! ## Requests -/

/-- Looks a resource up. -/
def get (name ownNamespace : String) : Exchange Resource := do
  send "GET" (← resourcePath name ownNamespace) none Resource.ofJson?

/-- Merges a change into a resource, or into a part of it. -/
def merge (name ownNamespace part : String) (change : Json) : Exchange Unit := do
  let path := (← resourcePath name ownNamespace) ++ part ++ changeSuffix
  let _ ← send "PATCH" path (some change) Resource.ofJson?

/-- The change that sets the finalizers of a resource. -/
def finalizersChange (finalizers : List String) : Json :=
  .obj [("metadata", .obj [("finalizers", .ofList .str finalizers)])]

/-- Keeps a resource from being removed. -/
def addFinalizer (name ownNamespace : String) : Exchange Unit := do
  let r ← get name ownNamespace
  if r.isHeld then return
  merge name ownNamespace "" (finalizersChange (r.metadata.finalizers ++ [Resource.finalizer]))

/-- Lets go of a resource. One that is gone need not be let go of. -/
def removeFinalizer (name ownNamespace : String) : Exchange Unit := do
  let found ← tryCatch (some <$> get name ownNamespace) fun fault =>
    match fault with
    | .refused r => if r.code = 404 then return none else throw fault
    | _ => throw fault
  match found with
  -- nobody holds a resource that is gone
  | none => return
  | some r =>
    let kept := r.metadata.finalizers.filter (· != Resource.finalizer)
    merge name ownNamespace "" (finalizersChange kept)

/-- The change that sets the status of a resource. -/
def statusChange (s : Status) : Json := .obj [("status", s.toJson)]

/-- Reports on a resource. -/
def patchStatus (name ownNamespace : String) (s : Status) : Exchange Unit :=
  merge name ownNamespace "/status" (statusChange s)

/-! ## Listing -/

/-- Whether the metadata of a list has the right types. -/
def checkListMetadata? : Json → Option Unit
  | .obj ms => do
    for name in ["continue", "resourceVersion", "selfLink"] do
      let _ ← lastMember? ms name Json.asText?
    let _ ← lastMember? ms "remainingItemCount" Json.asInt64?
  | _ => none

/-- The resources of a list. -/
def items? (j : Json) : Option (List Resource) :=
  match j with
  | .obj members => do
    let r ← Json.keyedRecord? ["metadata", "items"] j
    r.withDefault "metadata" () checkListMetadata?
    -- other members are skipped, but they have to be readable
    let others := members.filter fun m => m.1 != "metadata" && m.1 != "items"
    if others.all fun m => m.2.readable then
      return (← r.required "items" (·.nullable? (Json.asList? Resource.ofJson?))).getD []
    else none
  | _ => none

/-- The uids of all resources. -/
def liveUids : Exchange TextSet := do
  let resources ← send "GET" (root ++ "/securitypolicies?") none items?
  return TextSet.ofList (resources.filterMap (·.metadata.uid))

end Cluster

end FirewallOperator
