/-! # Double precision

`Double` is a number of at most fifty-three significant bits, without its sign. `Double.nearest` is
the one nearest to a quotient, of two equally near ones the one with an even significand.
`Double.ofDecimal?` is the number that a decimal numeral is read as: its digits are rounded first,
and so is the power of ten that they are multiplied with or divided by, so that the result may lie
beside the nearest one. -/

namespace FirewallOperator

/-- The number `significand · 2 ^ exponent`. -/
structure Double where
  significand : Nat
  exponent : Int
  deriving DecidableEq, Repr

/-- The whole number nearest to a quotient, of two equally near ones the even one. -/
def roundedQuotient (n d : Nat) : Nat :=
  let twice := 2 * (n % d)
  if twice > d || (twice == d && n / d % 2 == 1) then n / d + 1 else n / d

/-- The rounded quotient is less than one away from the quotient. -/
theorem le_roundedQuotient (n d : Nat) : n / d ≤ roundedQuotient n d := by
  unfold roundedQuotient; dsimp only; split <;> omega

/-- Rounding adds no more than one to a quotient. -/
theorem roundedQuotient_le (n d : Nat) : roundedQuotient n d ≤ n / d + 1 := by
  unfold roundedQuotient; dsimp only; split <;> omega

namespace Double

/-- The exponent of the least numbers. -/
def minExponent : Int := -1074

/-- The greatest exponent of a number with all its bits. -/
def maxExponent : Int := 971

/-- The exponent of a number that has the magnitude of a quotient. -/
def exponentOf (n d : Nat) : Int :=
  -- the quotient is less than `2 ^ (e + 54)`, and at least `2 ^ (e + 52)` unless `e` is the least
  let e := max minExponent ((n.log2 : Int) - d.log2 - 53)
  if n * Nat.pow 2 (-e).toNat < d * Nat.pow 2 e.toNat * Nat.pow 2 53 then e else e + 1

/-- The number nearest to a quotient. -/
def nearest (n d : Nat) : Double :=
  let e := exponentOf n d
  let m := roundedQuotient (n * Nat.pow 2 (-e).toNat) (d * Nat.pow 2 e.toNat)
  if m = Nat.pow 2 53 then ⟨Nat.pow 2 52, e + 1⟩ else ⟨m, e⟩

/-- Numerator and denominator of a number. -/
def ratio (x : Double) : Nat × Nat :=
  (x.significand * Nat.pow 2 x.exponent.toNat, Nat.pow 2 (-x.exponent).toNat)

/-- The product of two numbers, rounded. -/
def times (x y : Double) : Double := nearest (x.ratio.1 * y.ratio.1) (x.ratio.2 * y.ratio.2)

/-- The quotient of two numbers, rounded. -/
def dividedBy (x y : Double) : Double := nearest (x.ratio.1 * y.ratio.2) (x.ratio.2 * y.ratio.1)

/-- A power of ten, rounded. -/
def tenPower (n : Nat) : Double := nearest (Nat.pow 10 n) 1

/-- The number that `digits · 10 ^ exponent` is read as; none when it is too great. What is less
than any power of ten that there is takes two divisions. -/
def ofDecimal? (digits : Nat) (exponent : Int) : Option Double :=
  let whole := nearest digits 1
  let magnitude := exponent.natAbs
  if digits = 0 then some whole
  else if 0 ≤ exponent then
    if magnitude ≤ 308 then
      let x := whole.times (tenPower magnitude)
      if x.exponent ≤ maxExponent then some x else none
    else none
  else if magnitude ≤ 308 then some (whole.dividedBy (tenPower magnitude))
  else if magnitude ≤ 616 then
    some ((whole.dividedBy (tenPower 308)).dividedBy (tenPower (magnitude - 308)))
  else some ⟨0, minExponent⟩

end Double

end FirewallOperator
