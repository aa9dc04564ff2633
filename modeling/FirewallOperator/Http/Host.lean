import FirewallOperator.HostName.Basic
import FirewallOperator.Http.Ipv4
import FirewallOperator.Http.Ipv6
import FirewallOperator.Http.Percent

/-! # Hosts

The host of a URL is an address or a name. The web's own schemes look it up, so it has to be a host
name there, whose escapes are undone and which may turn out to be an address; other schemes take it
as it is. -/

namespace FirewallOperator

/-- What a URL names as its place. -/
inductive Host where
  /-- A name, empty if the place is left open. -/
  | name (name : String)
  | ipv4 (address : Ipv4)
  | ipv6 (address : Ipv6)
  deriving DecidableEq, Repr

namespace Host

/-- The host that names no place. -/
def unnamed : Host := name ""

/-- A host as text. -/
def text : Host → String
  | name s => s
  | ipv4 a => a.text
  | ipv6 a => a.text

/-- The address between brackets. -/
def bracketed? (cs : List Char) : Option Host :=
  if cs.getLast? = some ']' then (Ipv6.parse? cs.dropLast).map ipv6 else none

/-- The text that escaped bytes make up. -/
def unescaped? (cs : List Char) : Option (List Char) :=
  let bytes := percentDecode (cs.flatMap String.utf8EncodeChar)
  (String.fromUTF8? (ByteArray.mk bytes.toArray)).map String.toList

/-- The host that is looked up for a text. -/
def lookedUp? (cs : List Char) : Option Host :=
  match cs with
  | '[' :: rest => bracketed? rest
  | _ => do
    let ascii ← HostName.ascii? (← unescaped? cs)
    if ascii.isEmpty then none
    else if Ipv4.endsInNumber ascii then (Ipv4.parse? ascii).map ipv4
    else some (name (String.ofList ascii))

/-- Whether a name that is not looked up cannot hold a character. -/
def isForbidden (c : Char) : Bool := c.toNat == 0 || " #/:<>?@[\\]^|".contains c

/-- Whether a name that is not looked up holds a character as it is. -/
def isPlain (c : Char) : Bool := 0x20 ≤ c.toNat && c.toNat ≤ 0x7e

/-- The host that a text names where it is not looked up. -/
def given? (cs : List Char) : Option Host :=
  match cs with
  | '[' :: rest => bracketed? rest
  | _ =>
    if cs.any isForbidden then none
    else some (name (String.ofList (percentEncode isPlain cs)))

end Host

end FirewallOperator
