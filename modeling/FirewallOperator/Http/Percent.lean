import FirewallOperator.Text.Hex
import FirewallOperator.Text.Utf8

/-! # Percent encoding

Bytes that a part of a URL cannot hold are written as a percent sign and two hexadecimal digits. A
set of ASCII characters tells which characters stand for themselves; everything else is escaped. -/

namespace FirewallOperator

/-- A byte as a percent sign and two digits. -/
def percentByte (b : UInt8) : List Char :=
  ['%', hexDigitUpper (b.toNat / 16), hexDigitUpper (b.toNat % 16)]

/-- A character as it is, if it is allowed, and else its bytes escaped. -/
def percentChar (allowed : Char → Bool) (c : Char) : List Char :=
  if allowed c then [c] else (String.utf8EncodeChar c).flatMap percentByte

/-- Characters with those escaped that are not allowed. -/
def percentEncode (allowed : Char → Bool) (cs : List Char) : List Char :=
  cs.flatMap (percentChar allowed)

/-- Nothing is written for nothing. -/
@[simp] theorem percentEncode_nil (allowed : Char → Bool) : percentEncode allowed [] = [] := rfl

/-- Texts that follow one another are escaped each by itself. -/
@[simp] theorem percentEncode_append (allowed : Char → Bool) (cs ds : List Char) :
    percentEncode allowed (cs ++ ds) = percentEncode allowed cs ++ percentEncode allowed ds := by
  simp [percentEncode]

/-- Bytes with escapes replaced by the bytes they stand for; what is no escape is kept. -/
def percentDecode : List UInt8 → List UInt8
  | 0x25 :: a :: b :: rest =>
    match hexValue? (Char.ofNat a.toNat), hexValue? (Char.ofNat b.toNat) with
    | some high, some low => UInt8.ofNat (high * 16 + low) :: percentDecode rest
    | _, _ => 0x25 :: percentDecode (a :: b :: rest)
  | c :: rest => c :: percentDecode rest
  | [] => []
termination_by bytes => bytes.length

/-- A text of pairs as a form encodes it: a blank is a plus sign, and letters, digits and the four
signs `*-._` stand for themselves. -/
def formEncode (s : String) : List Char :=
  s.toList.flatMap fun c =>
    if c = ' ' then ['+'] else percentChar (fun c => c.isAlphanum || "*-._".contains c) c

/-- Pairs of names and values as a form encodes them. -/
def formPairs (pairs : List (String × String)) : List Char :=
  (['&']).intercalate (pairs.map fun p => formEncode p.1 ++ '=' :: formEncode p.2)

end FirewallOperator
