/-! # Base64

Bytes as text, six bits a character, with padding up to a multiple of four (RFC 4648, section 4). -/

namespace FirewallOperator

/-- The character of a number below sixty-four. -/
def base64Char (n : Nat) : Char :=
  if n < 26 then Char.ofNat ('A'.toNat + n)
  else if n < 52 then Char.ofNat ('a'.toNat + (n - 26))
  else if n < 62 then Char.ofNat ('0'.toNat + (n - 52))
  else if n = 62 then '+'
  else '/'

/-- Bytes in Base64. -/
def base64 : List UInt8 → List Char
  | [] => []
  | [a] => [base64Char (a.toNat / 4), base64Char (a.toNat % 4 * 16), '=', '=']
  | [a, b] =>
    [base64Char (a.toNat / 4), base64Char (a.toNat % 4 * 16 + b.toNat / 16),
     base64Char (b.toNat % 16 * 4), '=']
  | a :: b :: c :: rest =>
    base64Char (a.toNat / 4) :: base64Char (a.toNat % 4 * 16 + b.toNat / 16)
      :: base64Char (b.toNat % 16 * 4 + c.toNat / 64) :: base64Char (c.toNat % 64) :: base64 rest

/-- Base64 has four characters for three bytes or a part of three. -/
theorem length_base64 : ∀ bytes : List UInt8, (base64 bytes).length = (bytes.length + 2) / 3 * 4
  | [] => rfl
  | [_] => by simp [base64]
  | [_, _] => by simp [base64]
  | _ :: _ :: _ :: rest => by
    simp only [base64, List.length_cons, length_base64 rest]
    omega

end FirewallOperator
