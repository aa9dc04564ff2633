import FirewallOperator.Number.Double

/-! # The fewest digits

`Double.shortest` writes a number with as few decimal digits as can tell it from its neighbours: it
takes the coarsest grid of multiples of a power of ten that has a point nearer to the number than to
any other, and on it the point nearest to the number. -/

namespace FirewallOperator

namespace Double

/-- The decimals that read back as a number: those between two ends, in quarters of the last bit. -/
structure Interval where
  low : Nat
  high : Nat
  /-- Whether the ends belong to it. -/
  closed : Bool

/-- The interval of what is nearest to a number. Below a power of two the numbers lie twice as
close. -/
def interval (x : Double) : Interval where
  low := 4 * x.significand - (if x.significand = Nat.pow 2 52 ∧ minExponent < x.exponent then 1 else 2)
  high := 4 * x.significand + 2
  closed := x.significand % 2 == 0

/-- Whether the interval of a number contains `digits · 10 ^ exponent`. -/
def readsBack (x : Double) (digits : Nat) (exponent : Int) : Bool :=
  let quarter := x.exponent - 2
  let unit := Nat.pow 2 quarter.toNat * Nat.pow 10 (-exponent).toNat
  let point := digits * Nat.pow 10 exponent.toNat * Nat.pow 2 (-quarter).toNat
  let i := x.interval
  digits != 0 &&
    if i.closed then i.low * unit ≤ point && point ≤ i.high * unit
    else i.low * unit < point && point < i.high * unit

/-- The points of the grid of multiples of `10 ^ exponent` beside a number, the nearer one first. -/
def neighbours (x : Double) (exponent : Int) : List Nat :=
  let n := x.ratio.1 * Nat.pow 10 (-exponent).toNat
  let d := x.ratio.2 * Nat.pow 10 exponent.toNat
  let near := roundedQuotient n d
  if near = n / d then [near, near + 1] else [near, n / d]

/-- The nearest point that reads back on the coarsest grid that has one, from a grid on. The fuel is
the number of grids. -/
def search (x : Double) : Nat → Int → Nat × Int
  | 0, exponent => (0, exponent)
  | fuel + 1, exponent =>
    match (x.neighbours exponent).find? (x.readsBack · exponent) with
    | some digits => (digits, exponent)
    | none => x.search fuel (exponent - 1)

/-- The digits and the power of ten that write a number. -/
def shortest (x : Double) : Nat × Int :=
  if x.significand = 0 then (0, 0)
  else
    -- the number is less than ten to this power
    let bits : Int := x.exponent + x.significand.log2 + 1
    x.search 400 ((if 0 ≤ bits then bits / 3 else bits / 4) + 1)

end Double

end FirewallOperator
