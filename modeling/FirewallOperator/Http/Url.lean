import FirewallOperator.Http.Host
import FirewallOperator.Http.UrlPath

/-! # URLs

`Url.parse?` reads an absolute URL by the rules of the URL standard, without looking anything up:
blanks around it and line breaks inside are dropped, dot segments are resolved, and characters that
a part cannot hold are escaped. `Url.text` writes it down again. The web's own schemes have to have
a host, take a backslash for a slash and leave out their usual port; files are written with the
place of a host even if they name none. -/

namespace FirewallOperator

/-- An absolute URL. -/
structure Url where
  scheme : String
  user : String := ""
  password : Option String := none
  /-- The host; none for a URL that has no place for one. -/
  host : Option Host := none
  /-- The port, unless it is the scheme's usual one. -/
  port : Option Nat := none
  /-- The path with its escapes. -/
  path : String := ""
  query : Option String := none
  fragment : Option String := none
  deriving DecidableEq, Repr

namespace Url

/-! ## What each part can hold -/

open UrlPath (isPrintableAscii)

/-- Whether a query holds a character as it is; that of a web scheme also escapes apostrophes. -/
def inQuery (web : Bool) (c : Char) : Bool :=
  isPrintableAscii c && !"\"#<>".contains c && !(web && c == '\'')

/-- Whether a fragment holds a character as it is. -/
def inFragment (c : Char) : Bool := isPrintableAscii c && !"\"<>`".contains c

/-- Whether a user name or password holds a character as it is. -/
def inUser (c : Char) : Bool := UrlPath.inPath c && !"/:;=@[\\]^|".contains c

/-! ## Schemes -/

/-- The usual port of a web scheme. -/
def webPort? (scheme : String) : Option Nat :=
  match scheme with
  | "http" | "ws" => some 80
  | "https" | "wss" => some 443
  | "ftp" => some 21
  | _ => none

/-- Whether a scheme is one of the web's own. -/
def isWeb (scheme : String) : Bool := (webPort? scheme).isSome

/-- The scheme in lower case and the text after its colon. -/
def scheme? (cs : List Char) : Option (String × List Char) :=
  match cs with
  | [] => none
  | c :: _ =>
    if c.isAlpha then
      match cs.span fun c => c.isAlphanum || "+-.".contains c with
      | (name, ':' :: rest) => some (String.ofList (name.map Char.toLower), rest)
      | _ => none
    else none

/-! ## The authority -/

/-- The text before the last sign `@`, if there is one, and the text after it. -/
def splitUser (cs : List Char) : Option (List Char) × List Char :=
  match cs.reverse.span (· != '@') with
  | (host, _ :: user) => (some user.reverse, host.reverse)
  | (_, []) => (none, cs)

/-- The text before the colon that starts a port, which is not between brackets, and the text from
it on. -/
def splitPort (inBrackets : Bool) : List Char → List Char × List Char
  | [] => ([], [])
  | c :: cs =>
    if c = ':' ∧ !inBrackets then ([], c :: cs)
    else
      let (host, port) := splitPort (c == '[' || (inBrackets && c != ']')) cs
      (c :: host, port)

/-- The number of a port; no digits are no port. -/
def port? (digits : List Char) : Option (Option Nat) :=
  let n := digits.foldl (fun n c => 10 * n + (c.toNat - '0'.toNat)) 0
  if digits.isEmpty then some none else if n < 65536 then some (some n) else none

/-- The URL of a scheme with the part that names the host, up to its path. -/
def authority? (scheme : String) (cs : List Char) : Option Url := do
  let web := isWeb scheme
  let (place, after) := cs.span fun c => !UrlPath.isSlash web c
  let (login, place) := splitUser place
  let (name, port) := splitPort false place
  let host ← if web then Host.lookedUp? name else Host.given? name
  let (digits, behind) := (port.drop 1).span Char.isDigit
  let port ← port? digits
  -- only a backslash may follow the port, as the start of the path
  if behind.head?.any (· != '\\') then none
  let (user, password) := (login.getD []).span (· != ':')
  let password := password.drop 1
  -- without a host there is nobody to log in to and nothing to have a port
  if host = .unnamed ∧ (place ≠ [] ∨ login = some [] ∨ user ≠ [] ∨ password ≠ []) then none
  let encode := fun cs => String.ofList (percentEncode inUser cs)
  return {
    scheme, host
    user := encode user
    password := if password.isEmpty then none else some (encode password)
    port := if port = webPort? scheme then none else port
    path := UrlPath.normal web (behind ++ after) }

/-! ## Files -/

/-- The resolved segments of a file's path, and whether the path starts with the letter of a drive.
A line break behind such a letter parts it from what follows, which is taken as it is and keeps it
from counting; whether one stands before the last so many characters is given. -/
def fileSegments (isBroken : Nat → Bool) (cs : List Char) : Bool × List (List Char) :=
  let whole := UrlPath.resolved true [] (UrlPath.segments true cs)
  match UrlPath.segments true cs with
  | (letter :: ':' :: c :: more) :: rest =>
    if letter.isAlpha && isBroken (cs.length - 2) then
      let behind := percentEncode UrlPath.inPath (c :: more)
      (false, UrlPath.resolved true [behind, [letter, ':']] rest)
    else (whole.head?.any UrlPath.isDrive, whole)
  | _ => (whole.head?.any UrlPath.isDrive, whole)

/-- The URL of a file on a host. A host that would come before the letter of a drive is left
out. -/
def fileOn (host : Host) (isBroken : Nat → Bool) (cs : List Char) : Url :=
  let (onDrive, segments) := fileSegments isBroken (cs.drop 1)
  { scheme := "file"
    host := some (if onDrive then .unnamed else host)
    path := UrlPath.trimmed segments }

/-- The URL of a file without a host. -/
def localFile (isBroken : Nat → Bool) (cs : List Char) : Url where
  scheme := "file"
  host := some .unnamed
  path := UrlPath.trimmed (fileSegments isBroken cs).2

/-- The URL of a file. Behind two slashes stands a host, which may be missing or the own machine. -/
def file? (isBroken : Nat → Bool) (cs : List Char) : Option Url :=
  let isSlash := UrlPath.isSlash true
  match cs with
  | a :: b :: place =>
    if isSlash a && isSlash b then
      let (name, after) := place.span (!isSlash ·)
      if name.isEmpty || UrlPath.isDrive name then some (localFile isBroken place)
      else do
        let host ← Host.lookedUp? name
        return if host = .name "localhost" then localFile isBroken after
          else fileOn host isBroken after
    else some (localFile isBroken (if isSlash a then b :: place else cs))
  | [a] => some (localFile isBroken (if isSlash a then [] else cs))
  | [] => some (localFile isBroken [])

/-! ## The whole -/

/-- Whether a character is dropped wherever it stands in a URL. -/
def isLineBreak (c : Char) : Bool := c == '\t' || c == '\n' || c == '\r'

/-- The numbers of characters that stand behind the line breaks of a text. -/
def breaks : List Char → List Nat
  | [] => []
  | c :: cs =>
    if isLineBreak c then (cs.filter (!isLineBreak ·)).length :: breaks cs else breaks cs

/-- The URL of a text without blanks at its ends and without its line breaks, whose places are
given. -/
def parseChars? (breaks : List Nat) (cs : List Char) : Option Url := do
  let (scheme, rest) ← scheme? cs
  let web := isWeb scheme
  let (main, fragment) := rest.span (· != '#')
  let (main, query) := main.span (· != '?')
  let base ←
    if web then authority? scheme (main.dropWhile (UrlPath.isSlash true))
    else if scheme = "file" then
      file? (fun n => breaks.contains (n + (rest.length - main.length))) main
    else
      match main with
      | '/' :: '/' :: place => authority? scheme place
      | '/' :: _ => some { scheme, path := UrlPath.normal false main }
      | _ => some { scheme, path := String.ofList (percentEncode Host.isPlain main) }
  let optional := fun allowed (part : List Char) =>
    match part with
    | [] => none
    | _ :: text => some (String.ofList (percentEncode allowed text))
  return {
    base with
    query := optional (inQuery (web || scheme == "file")) query
    fragment := optional inFragment fragment }

/-- The URL that a text denotes. -/
def parse? (s : String) : Option Url :=
  let isOuter := fun (c : Char) => c.toNat ≤ 0x20
  let trimmed := ((s.toList.dropWhile isOuter).reverse.dropWhile isOuter).reverse
  parseChars? (breaks trimmed) (trimmed.filter (!isLineBreak ·))

/-- The part of a URL that names the host, with its slashes. -/
def authorityText (u : Url) : String :=
  match u.host with
  | none => ""
  | some host =>
    let password := (u.password.map (":" ++ ·)).getD ""
    let login := if u.user = "" ∧ u.password = none then "" else u.user ++ password ++ "@"
    "//" ++ login ++ host.text ++ ((u.port.map fun p => ":" ++ toString p).getD "")

/-- The path as it stands in a URL: without a host, a dot keeps it from looking like one. -/
def pathText (u : Url) : String :=
  if u.host = none ∧ u.path.startsWith "//" then "/." ++ u.path else u.path

/-- A URL as text. -/
def text (u : Url) : String :=
  u.scheme ++ ":" ++ u.authorityText ++ u.pathText ++ ((u.query.map ("?" ++ ·)).getD "")
    ++ ((u.fragment.map ("#" ++ ·)).getD "")

/-- Whether a URL names a place on a network. -/
def hasHost (u : Url) : Bool := u.host.any (· != .unnamed)

/-- The URL without its fragment, which is never sent. -/
def withoutFragment (u : Url) : Url := { u with fragment := none }

/-- The URL without user name and password. -/
def withoutLogin (u : Url) : Url := { u with user := "", password := none }

/-- The URL with pairs added to its query. -/
def addPairs (u : Url) (pairs : List (String × String)) : Url :=
  if pairs.isEmpty then u
  else
    let before := u.query.getD ""
    let joined := if before.isEmpty then "" else before ++ "&"
    { u with query := some (joined ++ String.ofList (formPairs pairs)) }

end Url

end FirewallOperator
