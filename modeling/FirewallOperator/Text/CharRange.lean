/-! # Sets of characters given by ranges

A property of characters is a list of inclusive ranges of code points, in increasing order.
`inRanges` looks a code point up and stops at the first range that lies beyond it. -/

namespace FirewallOperator

/-- Whether one of the increasing ranges contains the number. -/
def inRanges (n : Nat) : List (Nat × Nat) → Bool
  | [] => false
  | (low, high) :: rest => if n < low then false else n ≤ high || inRanges n rest

/-- A number below the first of ordered ranges is in none. -/
theorem inRanges_of_lt {n low high : Nat} {rest : List (Nat × Nat)} (h : n < low) :
    inRanges n ((low, high) :: rest) = false := by simp [inRanges, h]

end FirewallOperator
