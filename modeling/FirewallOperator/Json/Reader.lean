import FirewallOperator.Data.SortedMap
import FirewallOperator.Json.Value
import FirewallOperator.Number.Double
import FirewallOperator.Text.Hex
import FirewallOperator.Text.Utf8

/-! # Reading JSON texts

Two readings of one grammar (RFC 8259). `Json.parse` is strict: anything that no tree can hold is an
error too, an object keeps the last of the members with one key, and a failure tells what was wrong
and where. `Json.parseLoose` accepts every text of the grammar, keeps repeated members, and leaves
`Json.unreadable` where a value cannot be held, so that a decoder that never looks there still
succeeds. -/

namespace FirewallOperator

namespace Json

/-! ## What can be wrong -/

/-- The reasons for which a text is not a JSON value. -/
inductive SyntaxFault where
  | endInList
  | endInObject
  | endInString
  | endInValue
  | expectedColon
  | expectedListEnd
  | expectedObjectEnd
  | expectedWord
  | expectedValue
  | invalidEscape
  | invalidNumber
  | numberOutOfRange
  | controlCharacter
  | keyNotText
  | loneSurrogate
  | unpairedEscape
  | trailingComma
  | trailingCharacters
  | tooDeep
  deriving DecidableEq, Repr

/-- The wording of a fault. -/
def SyntaxFault.message : SyntaxFault → String
  | .endInList => "EOF while parsing a list"
  | .endInObject => "EOF while parsing an object"
  | .endInString => "EOF while parsing a string"
  | .endInValue => "EOF while parsing a value"
  | .expectedColon => "expected `:`"
  | .expectedListEnd => "expected `,` or `]`"
  | .expectedObjectEnd => "expected `,` or `\x7d`"
  | .expectedWord => "expected ident"
  | .expectedValue => "expected value"
  | .invalidEscape => "invalid escape"
  | .invalidNumber => "invalid number"
  | .numberOutOfRange => "number out of range"
  | .controlCharacter => "control character (\\u0000-\\u001F) found while parsing a string"
  | .keyNotText => "key must be a string"
  | .loneSurrogate => "lone leading surrogate in hex escape"
  | .unpairedEscape => "unexpected end of hex escape"
  | .trailingComma => "trailing comma"
  | .trailingCharacters => "trailing characters"
  | .tooDeep => "recursion limit exceeded"

/-- A fault with the line, counted from one, and the number of bytes read of that line. -/
structure SyntaxError where
  fault : SyntaxFault
  line : Nat
  column : Nat
  deriving DecidableEq, Repr

/-- The wording of a syntax error. -/
def SyntaxError.message (e : SyntaxError) : String :=
  e.fault.message ++ " at line " ++ toString e.line ++ " column " ++ toString e.column

/-- Where reading stopped: the characters that were left and the number of bytes of them that had
been looked at. -/
structure Stop where
  fault : SyntaxFault
  rest : List Char
  ahead : Nat

/-- The position at which reading stopped in a text. -/
def Stop.locate (text : List Char) (s : Stop) : SyntaxError :=
  let bytes := text.flatMap String.utf8EncodeChar
  let seen := bytes.take (bytes.length - utf8Length s.rest + s.ahead)
  { fault := s.fault
    line := 1 + seen.count 10
    column := (seen.reverse.takeWhile (· != 10)).length }

/-- The two ways to treat a value that no tree can hold. -/
inductive Reading where
  | strict
  | loose
  deriving DecidableEq

/-- The outcome of reading a part of a text: a result with the characters after it. -/
abbrev Scan (α : Type) := Except Stop (α × List Char)

/-- Fails before the next character. -/
def stop {α : Type} (fault : SyntaxFault) (rest : List Char) : Scan α :=
  .error ⟨fault, rest, 0⟩

/-- Fails after looking at the next byte. -/
def stopAhead {α : Type} (fault : SyntaxFault) (rest : List Char) : Scan α :=
  .error ⟨fault, rest, 1⟩

/-- A value that cannot be held: an error of the strict reading. -/
def unheld (r : Reading) (fault : SyntaxFault) (rest : List Char) : Scan Json :=
  match r with
  | .strict => stop fault rest
  | .loose => .ok (.unreadable, rest)

/-- The blanks of the grammar. -/
def isBlank (c : Char) : Bool := c == ' ' || c == '\n' || c == '\t' || c == '\r'

/-- The text from the first character that is not blank. -/
def skipBlanks (cs : List Char) : List Char := cs.dropWhile isBlank

/-! ## Words and numbers -/

/-- The rest after a fixed word. -/
def word (value : Json) : List Char → List Char → Scan Json
  | [], cs => .ok (value, cs)
  | _ :: _, [] => stop .endInValue []
  | w :: ws, c :: cs => if c = w then word value ws cs else stopAhead .expectedWord (c :: cs)

/-- The value of a decimal digit. -/
def digitValue (c : Char) : Nat := c.toNat - '0'.toNat

/-- Adds digits to a number while it stays within `limit`; also the number of digits added. -/
def absorb (limit : Nat) (n : Nat) : List Char → Nat × Nat
  | [] => (n, 0)
  | d :: ds =>
    let m := 10 * n + digitValue d
    if m ≤ limit then
      let (total, count) := absorb limit m ds
      (total, count + 1)
    else (n, 0)

/-- The number `digits · 10 ^ exponent`, unless it is beyond the range of doubles. -/
def decimalNumber (r : Reading) (negative : Bool) (digits : Nat) (exponent : Int) (rest : List Char) :
    Scan Json :=
  match Double.ofDecimal? digits exponent with
  | some _ => .ok (.decimal negative digits exponent, rest)
  | none => unheld r .numberOutOfRange rest

/-- The greatest number of sixty-four bits. -/
def maxWord : Nat := 0xffffffffffffffff

/-- The greatest exponent that is read. -/
def maxExponent : Nat := 0x7fffffff

/-- A numeral as it is written. -/
structure Numeral where
  negative : Bool
  /-- Digits before the point. -/
  whole : List Char
  /-- Digits after the point, if there is one. -/
  fraction : Option (List Char)
  /-- Sign and digits of the exponent, if there is one. -/
  exponent : Option (Bool × List Char)

/-- The digits at the front of a text, and the rest. -/
def spanDigits (cs : List Char) : List Char × List Char := cs.span Char.isDigit

/-- The fraction at the front of a text. -/
def scanFraction : List Char → Scan (Option (List Char))
  | '.' :: cs =>
    match spanDigits cs with
    | ([], []) => stop .endInValue []
    | ([], rest) => stopAhead .invalidNumber rest
    | (ds, rest) => .ok (some ds, rest)
  | cs => .ok (none, cs)

/-- The exponent at the front of a text. -/
def scanExponent (cs : List Char) : Scan (Option (Bool × List Char)) :=
  match cs with
  | 'e' :: cs | 'E' :: cs =>
    let (negative, cs) :=
      match cs with
      | '+' :: cs => (false, cs)
      | '-' :: cs => (true, cs)
      | cs => (false, cs)
    match spanDigits cs with
    | ([], []) => stop .endInValue []
    | ([], rest) => stopAhead .invalidNumber rest
    | (ds, rest) => .ok (some (negative, ds), rest)
  | cs => .ok (none, cs)

/-- The digits before the point: a zero alone, or digits that do not start with zero. -/
def scanWhole (cs : List Char) : Scan (List Char) :=
  match cs with
  | [] => stop .endInValue []
  | '0' :: rest =>
    match rest with
    | c :: _ => if c.isDigit then stopAhead .invalidNumber rest else .ok (['0'], rest)
    | [] => .ok (['0'], [])
  | c :: _ => if c.isDigit then .ok (spanDigits cs) else stopAhead .invalidNumber cs

/-- The value of a numeral, whose text is followed by `rest`. -/
def Numeral.value (r : Reading) (n : Numeral) (rest : List Char) : Scan Json :=
  let (whole, taken) := absorb maxWord 0 n.whole
  match n.fraction, n.exponent with
  | none, none =>
    if taken = n.whole.length ∧ (!n.negative ∨ (0 < whole ∧ whole ≤ 0x8000000000000000)) then
      .ok (.int (if n.negative then -(whole : Int) else whole), rest)
    else
      decimalNumber r n.negative whole (n.whole.length - taken) rest
  | fraction, exponent =>
    let (digits, places) := absorb maxWord whole (fraction.getD [])
    let shift : Int := (n.whole.length - taken : Int) - places
    match exponent with
    | none => decimalNumber r n.negative digits shift rest
    | some (down, ds) =>
      let (e, read) := absorb maxExponent 0 ds
      -- an exponent out of reach makes the number zero or infinite
      if read < ds.length then
        if digits ≠ 0 ∧ !down then
          match r with
          | .strict => stop .numberOutOfRange (ds.drop (read + 1) ++ rest)
          | .loose => .ok (.unreadable, rest)
        else .ok (.decimal n.negative 0 0, rest)
      else
        decimalNumber r n.negative digits (if down then shift - e else shift + e) rest

/-- The number at the front of a text, after its sign. -/
def number (r : Reading) (negative : Bool) (cs : List Char) : Except Stop (Json × List Char) := do
  let (whole, cs) ← scanWhole cs
  let (fraction, cs) ← scanFraction cs
  let (exponent, cs) ← scanExponent cs
  Numeral.value r { negative, whole, fraction, exponent } cs

/-! ## Texts -/

/-- The code unit of four hexadecimal digits. -/
def codeUnit (cs : List Char) : Scan Nat :=
  let bytes := (cs.take 4).flatMap String.utf8EncodeChar
  if bytes.length < 4 then stop .endInString []
  else
    match cs with
    | a :: b :: c :: d :: rest =>
      match hexValue? a, hexValue? b, hexValue? c, hexValue? d with
      | some a, some b, some c, some d => .ok (a * 4096 + b * 256 + c * 16 + d, rest)
      | _, _, _, _ => .error ⟨.invalidEscape, cs, 4⟩
    | cs => .error ⟨.invalidEscape, cs, 4⟩

/-- The character of an escape after `\u`; none for half of a surrogate pair, which is an error of
the strict reading. -/
def codeEscape (r : Reading) (cs : List Char) : Except Stop (Option Char × List Char) := do
  let (n, rest) ← codeUnit cs
  let lone (fault : SyntaxFault) (s : Stop) (after : List Char) : Scan (Option Char) :=
    match r with
    | .strict => .error { s with fault }
    | .loose => .ok (none, after)
  if 0xDC00 ≤ n ∧ n ≤ 0xDFFF then lone .loneSurrogate ⟨.loneSurrogate, rest, 0⟩ rest
  else if 0xD800 ≤ n ∧ n ≤ 0xDBFF then
    match rest with
    | [] => stop .endInString []
    | ['\\'] => stop .endInString []
    | '\\' :: 'u' :: more =>
      let (m, after) ← codeUnit more
      if 0xDC00 ≤ m ∧ m ≤ 0xDFFF then
        .ok (some (Char.ofNat (0x10000 + (n - 0xD800) * 0x400 + (m - 0xDC00))), after)
      else lone .loneSurrogate ⟨.loneSurrogate, after, 0⟩ rest
    | '\\' :: c :: more => lone .unpairedEscape ⟨.unpairedEscape, c :: more, 1⟩ rest
    | rest => lone .unpairedEscape ⟨.unpairedEscape, rest, 1⟩ rest
  else .ok (some (Char.ofNat n), rest)

/-- The character of a one-letter escape. -/
def shortEscape? : Char → Option Char
  | '"' => some '"'
  | '\\' => some '\\'
  | '/' => some '/'
  | 'b' => some '\x08'
  | 'f' => some '\x0c'
  | 'n' => some '\n'
  | 'r' => some '\r'
  | 't' => some '\t'
  | _ => none

/-- The rest of a text after its opening quote; `acc` holds the characters so far, newest first, or
nothing once one of them could not be held. -/
def quoted (r : Reading) : Nat → Option (List Char) → List Char → Scan (Option String)
  | 0, _, cs => stop .endInString cs
  | _ + 1, _, [] => stop .endInString []
  | fuel + 1, acc, c :: cs =>
    if c = '"' then .ok (acc.map fun a => String.ofList a.reverse, cs)
    else if c = '\\' then
      match cs with
      | [] => stop .endInString []
      | 'u' :: more =>
        match codeEscape r more with
        | .error s => .error s
        | .ok (d, rest) => quoted r fuel (d.bind fun d => acc.map (d :: ·)) rest
      | e :: more =>
        match shortEscape? e with
        | some d => quoted r fuel (acc.map (d :: ·)) more
        | none => stopAhead .invalidEscape (e :: more)
    else if c.toNat < 0x20 then stopAhead .controlCharacter (c :: cs)
    else quoted r fuel (acc.map (c :: ·)) cs

/-- The text after an opening quote. -/
def text (r : Reading) (cs : List Char) : Scan (Option String) :=
  quoted r (cs.length + 1) (some []) cs

/-! ## Values -/

/-- The greatest number of arrays and objects that may enclose one another. -/
def maxDepth : Nat := 127

/-- The object of members that were read in reverse order. With a key that cannot be held, the whole
object cannot be held; the strict reading keeps the last member of each key. -/
def object (r : Reading) (members : List (Option String × Json)) : Json :=
  match members.reverse.mapM (fun m => m.1.map (·, m.2)) with
  | none => .unreadable
  | some ms =>
    match r with
    | .strict => .obj (SortedMap.ofList ms).entries
    | .loose => .obj ms

/-- An array or object inside `depth` others: it cannot be held when that is too deep. -/
def heldAt (depth : Nat) (j : Json) : Json := if depth < maxDepth then j else .unreadable

mutual

/-- The value at the front of a text, after blanks. -/
def value (r : Reading) (depth : Nat) : Nat → List Char → Scan Json
  | 0, cs => stop .endInValue cs
  | fuel + 1, cs =>
    match skipBlanks cs with
    | [] => stop .endInValue []
    | 'n' :: cs => word .null ['u', 'l', 'l'] cs
    | 't' :: cs => word (.bool true) ['r', 'u', 'e'] cs
    | 'f' :: cs => word (.bool false) ['a', 'l', 's', 'e'] cs
    | '-' :: cs => number r true cs
    | '"' :: cs =>
      match text r cs with
      | .error s => .error s
      | .ok (some s, rest) => .ok (.str s, rest)
      | .ok (none, rest) => .ok (.unreadable, rest)
    | '[' :: cs =>
      if r = .strict ∧ maxDepth ≤ depth then stopAhead .tooDeep ('[' :: cs)
      else
        match items r (depth + 1) fuel true [] cs with
        | .error s => .error s
        | .ok (xs, rest) => .ok (heldAt depth (.arr xs.reverse), rest)
    | '{' :: cs =>
      if r = .strict ∧ maxDepth ≤ depth then stopAhead .tooDeep ('{' :: cs)
      else
        match members r (depth + 1) fuel true [] cs with
        | .error s => .error s
        | .ok (ms, rest) => .ok (heldAt depth (object r ms), rest)
    | c :: cs => if c.isDigit then number r false (c :: cs) else stopAhead .expectedValue (c :: cs)

/-- The items of an array up to its end; `acc` holds those before, newest first. -/
def items (r : Reading) (depth : Nat) : Nat → Bool → List Json → List Char → Scan (List Json)
  | 0, _, _, cs => stop .endInList cs
  | fuel + 1, first, acc, cs =>
    match skipBlanks cs with
    | [] => stop .endInList []
    | ']' :: rest => .ok (acc, rest)
    | c :: rest =>
      if first then item r depth fuel acc (c :: rest)
      else if c = ',' then
        match skipBlanks rest with
        | [] => stop .endInValue []
        | ']' :: rest => stopAhead .trailingComma (']' :: rest)
        | rest => item r depth fuel acc rest
      else stopAhead .expectedListEnd (c :: rest)

/-- One item of an array and the items after it. -/
def item (r : Reading) (depth : Nat) : Nat → List Json → List Char → Scan (List Json)
  | 0, _, cs => stop .endInList cs
  | fuel + 1, acc, cs =>
    match value r depth fuel cs with
    | .error s => .error s
    | .ok (x, rest) => items r depth fuel false (x :: acc) rest

/-- The members of an object up to its end; `acc` holds those before, newest first. -/
def members (r : Reading) (depth : Nat) :
    Nat → Bool → List (Option String × Json) → List Char → Scan (List (Option String × Json))
  | 0, _, _, cs => stop .endInObject cs
  | fuel + 1, first, acc, cs =>
    match skipBlanks cs with
    | [] => stop .endInObject []
    | '}' :: rest => .ok (acc, rest)
    | c :: rest =>
      if first then
        if c = '"' then entry r depth fuel acc rest else stopAhead .keyNotText (c :: rest)
      else if c = ',' then
        match skipBlanks rest with
        | [] => stop .endInValue []
        | '"' :: rest => entry r depth fuel acc rest
        | '}' :: rest => stopAhead .trailingComma ('}' :: rest)
        | rest => stopAhead .keyNotText rest
      else stopAhead .expectedObjectEnd (c :: rest)

/-- One member of an object, after the quote that opens its key, and the members after it. -/
def entry (r : Reading) (depth : Nat) :
    Nat → List (Option String × Json) → List Char → Scan (List (Option String × Json))
  | 0, _, cs => stop .endInObject cs
  | fuel + 1, acc, cs =>
    match text r cs with
    | .error s => .error s
    | .ok (key, rest) =>
      match skipBlanks rest with
      | [] => stop .endInObject []
      | ':' :: rest =>
        match value r depth fuel rest with
        | .error s => .error s
        | .ok (x, rest) => members r depth fuel false ((key, x) :: acc) rest
      | rest => stopAhead .expectedColon rest

end

/-- The value that a whole text denotes. -/
def document (r : Reading) (cs : List Char) : Except Stop Json :=
  match value r 0 (3 * cs.length + 3) cs with
  | .error s => .error s
  | .ok (j, rest) =>
    match skipBlanks rest with
    | [] => .ok j
    | rest => .error ⟨.trailingCharacters, rest, 1⟩

/-- The value of a text, or what is wrong with it. -/
def parse (s : String) : Except SyntaxError Json :=
  (document .strict s.toList).mapError (·.locate s.toList)

/-- The value of a text in which unreadable parts are allowed. -/
def parseLoose (s : String) : Option Json := (document .loose s.toList).toOption

end Json

end FirewallOperator
