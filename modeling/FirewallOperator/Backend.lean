import FirewallOperator.Http.Exchange
import FirewallOperator.Http.Uri
import FirewallOperator.Http.Url
import FirewallOperator.Json.Reader
import FirewallOperator.Object.Managed
import FirewallOperator.Text.Base64

/-! # The backend's interface

Objects are listed by a search for those that carry the cluster's tag, page by page: each page may
name a cursor from which to go on. Changes go out as one request, for a subtree or for one group. -/

namespace FirewallOperator

/-- How to reach the backend. -/
structure Backend where
  baseUrl : String
  user : String
  password : String
  /-- The cluster whose objects are listed. -/
  cluster : String
  deriving DecidableEq, Repr

/-- A page of a listing. -/
structure Page (α : Type) where
  results : List α
  cursor : Option String

namespace Page

/-- Reads a page; results and cursor may be missing. -/
def ofJson? {α : Type} (item : Json → Option α) (j : Json) : Option (Page α) := do
  let r ← j.record? ["results", "cursor"]
  return { results := ← r.list "results" item, cursor := ← r.optional "cursor" Json.asText? }

/-- The cursor from which to go on after a page that was asked for with the cursor `sent`: none
after a page without results, and none when the page names no cursor or the same one again. -/
def next {α : Type} (sent : Option String) (p : Page α) : Option String :=
  match p.cursor with
  | none => none
  | some c => if p.results.isEmpty || c.isEmpty || sent == some c then none else some c

end Page

namespace Backend

/-! ## Requests -/

/-- Whether an answer with a status ends without its body. -/
def hasNoBody (status : UInt16) : Bool := status == 204 || status == 304

/-- The credentials of a user, as a header. -/
def credentials (user password : String) : String :=
  "Basic " ++ String.ofList (base64 (utf8 (user ++ ":" ++ password)))

/-- The base URL without slashes at its end. -/
def base (b : Backend) : String :=
  String.ofList (b.baseUrl.toList.reverse.dropWhile (· == '/')).reverse

/-- The text that a part of a URL stands for, if its escapes make up one. -/
def decoded? (s : String) : Option String :=
  String.fromUTF8? (ByteArray.mk (percentDecode (utf8 s)).toArray)

/-- Whether the login of a URL can be told as a header: the user name has to be a text, and there
has to be a user name or a password that is a text. -/
def hasLogin (u : Url) : Bool :=
  match decoded? u.user with
  | none => false
  | some user => !user.isEmpty || (u.password.bind decoded?).isSome

/-- Whether a URL can be asked for: by one of the two schemes, and as the URI of a request. -/
def isRequestable (u : Url) : Bool :=
  (u.scheme == "http" || u.scheme == "https") && Uri.isUri u.text

/-- The URL of a path with pairs in its query; a description when there is none. A login in the URL
is taken out of it, as the one that is set goes before it. -/
def url (b : Backend) (path : String) (pairs : List (String × String)) : Except String Url :=
  match Url.parse? (b.base ++ path) with
  | none => .error "builder error"
  | some u =>
    let refused := fun (u : Url) => Except.error ("builder error for url (" ++ u.text ++ ")")
    if !u.hasHost then refused u
    else
      let u := (if hasLogin u then u.withoutLogin else u).addPairs pairs
      if isRequestable u then .ok u else refused u

/-- Sends a request for an operation. What the server answers with success is its body. -/
def send (b : Backend) (operation method path : String) (pairs : List (String × String))
    (body : Option Json) : Exchange String := do
  match b.url path pairs with
  | .error message => throw (.backend operation none message)
  | .ok url =>
    let reply ← Exchange.send {
      method, body
      url := url.withoutFragment.text
      authorization := some (credentials b.user b.password)
      contentType := body.map fun _ => "application/json" }
    match reply with
    | .dropped =>
      throw (.backend operation none ("error sending request for url (" ++ url.text ++ ")"))
    | .answered status text =>
      let text := if hasNoBody status then "" else text
      if isSuccess status then return text
      else throw (.backend operation (some status) text)

/-! ## Listings -/

/-- A text as the search takes it: a slash would start a pattern. -/
def escapeSlashes (s : String) : String :=
  String.ofList (s.toList.flatMap fun c => if c = '/' then ['\\', '/'] else [c])

/-- The search for objects of a kind that carry the cluster's tag. -/
def searchQuery (b : Backend) (kind : Kind) : String :=
  "resource_type:" ++ kind.searchName ++ " AND tags.scope:" ++ escapeSlashes Tag.clusterScope
    ++ " AND tags.tag:" ++ escapeSlashes b.cluster

/-- The pairs that ask for the page at a cursor. -/
def pagePairs (query : String) (cursor : Option String) : List (String × String) :=
  ("query", query) :: cursor.toList.map fun c => ("cursor", c)

/-- Asks for one page. -/
def page (α : Type) [Managed α] (b : Backend) (cursor : Option String) : Exchange (Page α) := do
  let kind := Managed.kind α
  let body ← b.send ("list " ++ kind.name) "GET" "/policy/api/v1/search/query"
    (pagePairs (b.searchQuery kind) cursor) none
  match (Json.parseLoose body).bind (Page.ofJson? Managed.ofJson?) with
  | some p => return p
  | none => throw (.data "error decoding response body" (some kind.name))

/-- The objects so far and those of the pages from a cursor on, of which there are at most `more`
beyond the first. -/
def pages {α : Type} [Managed α] (b : Backend) :
    Nat → Option String → List α → Exchange (List α)
  | 0, cursor, objects => return objects ++ (← b.page α cursor).results
  | more + 1, cursor, objects => do
    let p ← b.page α cursor
    let objects := objects ++ p.results
    match p.next cursor with
    | none => return objects
    | some c => b.pages more (some c) objects

/-- The objects of a kind. A server whose script has run out refuses, so there are no more pages
than replies in the script. -/
def list (α : Type) [Managed α] (b : Backend) : Exchange (List α) := do
  b.pages (← get).script.length none []

/-! ## Changes -/

/-- Submits the change of a subtree. -/
def patchInfra (b : Backend) (p : Patch) (enforceRevision : Bool) : Exchange Unit := do
  let _ ← b.send "patch infra" "PATCH" "/policy/api/v1/infra"
    [("enforce_revision_check", if enforceRevision then "true" else "false")] (some p.toJson)

/-- The path of a group. -/
def groupUrlPath (domain id : String) : String :=
  "/policy/api/v1/infra/domains/" ++ domain ++ "/groups/" ++ id

/-- Creates or replaces one group. -/
def patchGroup (b : Backend) (domain : String) (g : Group) : Exchange Unit := do
  let _ ← b.send "patch group" "PATCH" (groupUrlPath domain g.id) [] (some g.toJson)

end Backend

end FirewallOperator
