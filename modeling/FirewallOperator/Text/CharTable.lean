import FirewallOperator.Text.Hex

/-! # Tables of characters

A table of what is known of characters is written in lines: words in increasing order, each of which
is a code point, or two with a dash between them for all from the first to the second, and a remark
that starts with a sign. `CharTable.read` reads such lines, and `CharTable.find?` looks a character
up. -/

namespace FirewallOperator

/-- Characters from one code point to another with a remark. -/
structure CharSpan where
  low : Nat
  high : Nat
  /-- What is noted of the characters; its first character is a sign, not a digit. -/
  remark : List Char
  deriving DecidableEq, Repr

namespace CharTable

/-- The parts of a text between the separators. -/
def parts (separator : Char) : List Char → List (List Char)
  | [] => [[]]
  | c :: cs =>
    if c = separator then [] :: parts separator cs
    else
      match parts separator cs with
      | [] => [[c]]
      | first :: rest => (c :: first) :: rest

/-- The number that hexadecimal digits write. -/
def number (ds : List Char) : Nat := ds.foldl (fun n d => 16 * n + (hexValue? d).getD 0) 0

/-- The numbers of a list with commas. -/
def numbers (cs : List Char) : List Nat := if cs.isEmpty then [] else (parts ',' cs).map number

/-- Whether a character is a digit of a number. -/
def isDigit (c : Char) : Bool := (hexValue? c).isSome

/-- The characters of a word, and what it notes of them. -/
def span (word : List Char) : CharSpan :=
  let (first, rest) := word.span isDigit
  match rest with
  | '-' :: rest =>
    let (last, remark) := rest.span isDigit
    ⟨number first, number last, remark⟩
  | remark => ⟨number first, number first, remark⟩

/-- The spans that lines list. -/
def read (lines : List String) : List CharSpan :=
  lines.flatMap fun line => (parts ' ' line.toList).map span

/-- The span among increasing ones that a code point lies in. -/
def find? (n : Nat) : List CharSpan → Option CharSpan
  | [] => none
  | s :: rest => if n < s.low then none else if n ≤ s.high then some s else find? n rest

/-- Nothing is found in an empty table. -/
@[simp] theorem find?_nil (n : Nat) : find? n [] = none := rfl

/-- A span that is found contains the code point. -/
theorem le_of_find? {n : Nat} {s : CharSpan} :
    ∀ {spans : List CharSpan}, find? n spans = some s → s.low ≤ n ∧ n ≤ s.high
  | [], h => by simp at h
  | t :: rest, h => by
    rw [find?] at h
    split at h
    · simp at h
    · split at h
      · cases h; omega
      · exact le_of_find? h

end CharTable

end FirewallOperator
