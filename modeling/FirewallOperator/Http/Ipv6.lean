import FirewallOperator.Text.CharTable

/-! # Addresses of eight pieces

An address is written in hexadecimal pieces with colons between them. Two colons stand for zeros as
many as are missing, and the last two pieces may be written as four decimal bytes. `Ipv6.text` uses
the two colons for the longest row of zeros, of several the first. -/

namespace FirewallOperator

/-- An address of eight pieces of sixteen bits. -/
structure Ipv6 where
  pieces : List Nat
  length_eq : pieces.length = 8
  deriving DecidableEq, Repr

namespace Ipv6

/-- The number of one to four hexadecimal digits. -/
def piece? (ds : List Char) : Option Nat :=
  if !ds.isEmpty && ds.length ≤ 4 && ds.all CharTable.isDigit then some (CharTable.number ds)
  else none

/-- The number of a decimal byte, without zeros before it. -/
def byte? (ds : List Char) : Option Nat :=
  let n := ds.foldl (fun n d => 10 * n + (d.toNat - '0'.toNat)) 0
  if !ds.isEmpty && ds.all Char.isDigit && (ds.length = 1 || ds.head? != some '0') && n < 256 then
    some n
  else none

/-- The two pieces of four decimal bytes. -/
def bytePieces? (cs : List Char) : Option (List Nat) := do
  match ← (CharTable.parts '.' cs).mapM byte? with
  | [a, b, c, d] => return [256 * a + b, 256 * c + d]
  | _ => none

/-- The pieces between colons, of which the last may be written in bytes if `mixed`. -/
def row? (mixed : Bool) : List (List Char) → Option (List Nat)
  | [] => some []
  | [last] => if mixed && last.contains '.' then bytePieces? last else (piece? last).map ([·])
  | first :: rest => do return (← piece? first) :: (← row? mixed rest)

/-- The pieces of a text without a row of colons, none for an empty text. -/
def side? (mixed : Bool) (cs : List Char) : Option (List Nat) :=
  if cs.isEmpty then some [] else row? mixed (CharTable.parts ':' cs)

/-- The texts before and behind the first two colons in a row. -/
def splitColons? : List Char → Option (List Char × List Char)
  | ':' :: ':' :: cs => some ([], cs)
  | c :: cs => (splitColons? cs).map fun (before, after) => (c :: before, after)
  | [] => none

/-- The address that a text writes. -/
def parse? (cs : List Char) : Option Ipv6 := do
  let pieces ← match splitColons? cs with
    | none => row? true (CharTable.parts ':' cs)
    | some (before, after) => do
      let before ← side? false before
      let after ← side? true after
      -- the colons stand for at least one piece
      if 7 < before.length + after.length then none
      else some (before ++ List.replicate (8 - before.length - after.length) 0 ++ after)
  if h : pieces.length = 8 then some ⟨pieces, h⟩ else none

/-- The number of zeros at the front. -/
def zeros (ps : List Nat) : Nat := (ps.takeWhile (· == 0)).length

/-- The place and length of the first of the longest rows of zeros. -/
def longestZeros : List Nat → Nat × Nat
  | [] => (0, 0)
  | p :: ps =>
    let (place, length) := longestZeros ps
    let here := zeros (p :: ps)
    if length ≤ here then (0, here) else (place + 1, length)

/-- Pieces with colons between them. -/
def rowText (ps : List Nat) : String :=
  ":".intercalate (ps.map fun p => String.ofList (hexNumeral p))

/-- An address in brackets. -/
def text (a : Ipv6) : String :=
  let (place, length) := longestZeros a.pieces
  let row :=
    if length < 2 then rowText a.pieces
    else rowText (a.pieces.take place) ++ "::" ++ rowText (a.pieces.drop (place + length))
  "[" ++ row ++ "]"

end Ipv6

end FirewallOperator
