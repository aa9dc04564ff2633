import FirewallOperator.HostName.Joining
import FirewallOperator.HostName.Mapping
import FirewallOperator.HostName.Punycode
import FirewallOperator.HostName.Writing

/-! # Host names

A host name is a row of labels with dots between them. `HostName.ascii?` writes one in ASCII, as it
is looked up: its characters are mapped, labels that hold more than ASCII are encoded, and labels
that are encoded already have to be what encoding would yield. A name that could be mistaken for
another, or not be shown, has no such form. -/

namespace FirewallOperator

namespace HostName

/-- Whether a character has a meaning of its own in a URL, so that no host name holds it. -/
def isForbidden (c : Char) : Bool :=
  c.toNat ≤ 0x20 || c.toNat == 0x7f || "#%/:<>?@[\\]^|".contains c

/-- What encoded labels start with. -/
def encodedMark : List Char := ['x', 'n', '-', '-']

/-- The greatest number of characters of a label that is encoded. -/
def maxEncoded : Nat := 1000

/-- The greatest number of characters that are decoded. -/
def maxDecoded : Nat := 2000

/-- The label that a mapped one stands for: what it encodes, if it is encoded. Decoding has to yield
more than ASCII, in characters that stand for themselves and in their composed spelling. -/
def meaning? (label : List Char) : Option (List Char) :=
  if encodedMark.isPrefixOf label then do
    let digits := label.drop encodedMark.length
    if digits.length > maxDecoded || !digits.all Punycode.isBasic then none
    let cs ← Punycode.decode? digits
    if cs.all Punycode.isBasic || !cs.all isKept || composed cs != cs then none
    return cs
  else some label

/-- Whether a label can stand by itself: it starts with no mark, its joiners are in their places, and
it can be encoded if it has to be. -/
def isLabel (label : List Char) : Bool :=
  !label.head?.any isMark && isJoined [] label
    && (label.all Punycode.isBasic || label.length ≤ maxEncoded)

/-- A mapped label in ASCII. -/
def asciiLabel (label : List Char) : List Char :=
  if label.all Punycode.isBasic then label else encodedMark ++ Punycode.encode label

/-- A host name in ASCII. -/
def ascii? (name : List Char) : Option (List Char) := do
  let mapped := composed (← mapAll? name)
  if mapped.any isForbidden then none
  let labels := CharTable.parts '.' mapped
  let meanings ← labels.mapM meaning?
  if !meanings.all isLabel then none
  -- once a name is written in both directions, every label has to keep to its own
  if meanings.any (·.any isFromRight) && !meanings.all isDirected then none
  return ['.'].intercalate (labels.map asciiLabel)

end HostName

end FirewallOperator
