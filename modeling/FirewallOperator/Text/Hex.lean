/-! # Hexadecimal digits

`hexDigit` and `hexValue?` are the two directions between a number below sixteen and the lower-case
character that stands for it; reading also accepts upper case. `hexByte` always writes two digits,
`hexNumeral` as few as possible. -/

namespace FirewallOperator

/-- The lower-case digit of a number below sixteen. -/
def hexDigit (n : Nat) : Char :=
  if n < 10 then Char.ofNat ('0'.toNat + n) else Char.ofNat ('a'.toNat + (n - 10))

/-- The upper-case digit of a number below sixteen. -/
def hexDigitUpper (n : Nat) : Char :=
  if n < 10 then Char.ofNat ('0'.toNat + n) else Char.ofNat ('A'.toNat + (n - 10))

/-- The value of a hexadecimal digit in either case. -/
def hexValue? (c : Char) : Option Nat :=
  if '0' ≤ c ∧ c ≤ '9' then some (c.toNat - '0'.toNat)
  else if 'a' ≤ c ∧ c ≤ 'f' then some (c.toNat - 'a'.toNat + 10)
  else if 'A' ≤ c ∧ c ≤ 'F' then some (c.toNat - 'A'.toNat + 10)
  else none

/-- A digit is read back as the number it stands for. -/
theorem hexValue?_hexDigit {n : Nat} (h : n < 16) : hexValue? (hexDigit n) = some n := by
  revert n; decide

/-- An upper-case digit is read back as the number it stands for. -/
theorem hexValue?_hexDigitUpper {n : Nat} (h : n < 16) : hexValue? (hexDigitUpper n) = some n := by
  revert n; decide

/-- A byte as two lower-case digits. -/
def hexByte (b : UInt8) : List Char := [hexDigit (b.toNat / 16), hexDigit (b.toNat % 16)]

/-- Every byte is written with two digits. -/
@[simp] theorem length_hexByte (b : UInt8) : (hexByte b).length = 2 := rfl

/-- A number in lower-case hexadecimal without leading zeros. -/
def hexNumeral (n : Nat) : List Char := Nat.toDigits 16 n

end FirewallOperator
