import FirewallOperator.Text.Utf8

/-! # Request targets

What an HTTP client accepts as a URI: either a path with a query, or an absolute URI, or the name of
an authority alone. Nothing is escaped or resolved: a text is taken as it is or not at all. Only a
fragment is dropped. -/

namespace FirewallOperator

namespace Uri

/-- The greatest number of bytes of a URI. -/
def maxLength : Nat := 65534

/-- Whether a path holds a character. -/
def inPath (c : Char) : Bool :=
  let n := c.toNat
  n == 0x21 || n == 0x22 || (0x24 ≤ n && n ≤ 0x3b) || n == 0x3d || (0x40 ≤ n && n ≤ 0x5f)
    || (0x61 ≤ n && n != 0x7f)

/-- Whether a query holds a character. -/
def inQuery (c : Char) : Bool :=
  let n := c.toNat
  n == 0x21 || (0x24 ≤ n && n ≤ 0x3b) || n == 0x3d || (0x3f ≤ n && n != 0x7f)

/-- The path and query at the front of a text, without a fragment. -/
def target? (cs : List Char) : Option (List Char) :=
  let main := cs.takeWhile (· != '#')
  let (path, query) := main.span (· != '?')
  if path.all inPath && query.all inQuery then some main else none

/-- The target that a text which starts with a slash asks for. -/
def pathTarget? (s : String) : Option String :=
  if (utf8 s).length > maxLength then none else (target? s.toList).map String.ofList

/-! ## Authorities -/

/-- Whether an authority holds a character, apart from the percent sign. -/
def inAuthority (c : Char) : Bool := c.isAlphanum || "!$&'()*+,-.:;=@[]_~".contains c

/-- What has been seen of an authority. -/
structure Seen where
  colons : Nat := 0
  opened : Bool := false
  closed : Bool := false
  percent : Bool := false
  /-- Whether the last character was the sign `@`. -/
  atSign : Bool := false

/-- What has been seen after one more character. -/
def Seen.step? (s : Seen) (c : Char) : Option Seen :=
  let s := { s with atSign := false }
  if c = '%' then some { s with percent := true }
  else if !inAuthority c then none
  else
    match c with
    | ':' => if s.colons ≥ 8 then none else some { s with colons := s.colons + 1 }
    | '[' => if s.percent || s.opened then none else some { s with opened := true }
    | ']' =>
      if !s.opened || s.closed then none
      else some { s with closed := true, colons := 0, percent := false }
    | '@' => some { s with colons := 0, percent := false, atSign := true }
    | _ => some s

/-- Whether a text names an authority: login, host and port. -/
def isAuthority (cs : List Char) : Bool :=
  match cs.foldlM Seen.step? {} with
  | none => false
  | some s => s.opened == s.closed && s.colons ≤ 1 && !s.atSign && !s.percent

/-- Whether a character ends an authority. -/
def endsAuthority (c : Char) : Bool := c == '/' || c == '?' || c == '#'

/-! ## Whole URIs -/

/-- The length of the scheme of an absolute URI; none when the text has no scheme. -/
def schemeLength? (cs : List Char) : Option Nat :=
  let name := cs.takeWhile fun c => c.isAlphanum || "+-.~".contains c
  if (cs.drop name.length).take 3 = [':', '/', '/'] ∧ cs.length > 3 then some name.length else none

/-- Whether a text is a URI. -/
def isUri (s : String) : Bool :=
  let cs := s.toList
  let whole := fun (cs : List Char) => !cs.any endsAuthority && isAuthority cs
  (utf8 s).length ≤ maxLength &&
    match cs with
    | [] => false
    | ['*'] => true
    | '/' :: _ => (target? cs).isSome
    | _ =>
      match schemeLength? cs with
      | none => whole cs
      | some n =>
        let (authority, rest) := (cs.drop (n + 3)).span (!endsAuthority ·)
        n ≤ 64 && !authority.isEmpty && isAuthority authority && (target? rest).isSome

end Uri

end FirewallOperator
