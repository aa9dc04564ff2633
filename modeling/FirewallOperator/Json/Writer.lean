import FirewallOperator.Json.Value
import FirewallOperator.Number.Shortest
import FirewallOperator.Text.Hex

/-! # Writing JSON texts

`Json.compact` writes a value without blanks. Only what the grammar demands is escaped: the quote,
the backslash and control characters, by one letter where there is one. -/

namespace FirewallOperator

namespace Json

/-- The characters that stand for one character inside a text. -/
def escaped (c : Char) : List Char :=
  match c with
  | '"' => ['\\', '"']
  | '\\' => ['\\', '\\']
  | '\x08' => ['\\', 'b']
  | '\x0c' => ['\\', 'f']
  | '\n' => ['\\', 'n']
  | '\r' => ['\\', 'r']
  | '\t' => ['\\', 't']
  | c =>
    if c.toNat < 0x20 then
      ['\\', 'u', '0', '0', hexDigit (c.toNat / 16), hexDigit (c.toNat % 16)]
    else [c]

/-- A text between quotes. -/
def quote (s : String) : String := String.ofList ('"' :: s.toList.flatMap escaped ++ ['"'])

/-- A numeral of given digits: positional with a point between sixteen digits before it and four
zeros after it, else with a signed exponent. -/
def numeral (digits : Nat) (exponent : Int) : List Char :=
  let ds := Nat.toDigits 10 digits
  let point : Int := ds.length + exponent
  if 0 ≤ exponent ∧ point ≤ 16 then ds ++ List.replicate exponent.toNat '0' ++ ['.', '0']
  else if 0 < point ∧ point ≤ 16 then ds.take point.toNat ++ '.' :: ds.drop point.toNat
  else if -5 < point ∧ point ≤ 0 then '0' :: '.' :: List.replicate (-point).toNat '0' ++ ds
  else
    let fraction := if ds.length = 1 then [] else '.' :: ds.drop 1
    let sign := if point < 1 then '-' else '+'
    ds.take 1 ++ fraction ++ 'e' :: sign :: Nat.toDigits 10 (point - 1).natAbs

/-- A decimal number: the fewest digits that can tell the double that it is read as. -/
def decimalText (negative : Bool) (digits : Nat) (exponent : Int) : String :=
  let (digits, exponent) := ((Double.ofDecimal? digits exponent).map (·.shortest)).getD (0, 0)
  let body := numeral digits exponent
  String.ofList (if negative then '-' :: body else body)

mutual

/-- A value without blanks. -/
def compact : Json → String
  | .null => "null"
  | .bool true => "true"
  | .bool false => "false"
  | .int n => toString n
  | .decimal negative digits exponent => decimalText negative digits exponent
  | .str s => quote s
  | .arr items => "[" ++ compactItems items ++ "]"
  | .obj members => "\x7b" ++ compactMembers members ++ "\x7d"
  | .unreadable => "null"

/-- Items with commas between them. -/
def compactItems : List Json → String
  | [] => ""
  | [j] => j.compact
  | j :: rest => j.compact ++ "," ++ compactItems rest

/-- Members with commas between them. -/
def compactMembers : List (String × Json) → String
  | [] => ""
  | [(key, j)] => quote key ++ ":" ++ j.compact
  | (key, j) :: rest => quote key ++ ":" ++ j.compact ++ "," ++ compactMembers rest

end

end Json

end FirewallOperator
