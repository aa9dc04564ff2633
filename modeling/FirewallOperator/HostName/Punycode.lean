/-! # Punycode

`Punycode.encode` writes a label in letters, digits and dashes (RFC 3492): the characters of ASCII
first, and then, in increasing order of the others, how far it is from one to the next, as a number
of variable length whose digits adapt to what came before. `Punycode.decode?` reads it back. -/

namespace FirewallOperator

namespace HostName

namespace Punycode

/-! ## Digits -/

/-- The character of a digit. -/
def digit (d : Nat) : Char := if d < 26 then Char.ofNat (0x61 + d) else Char.ofNat (0x16 + d)

/-- The digit of a character. -/
def digitValue? (c : Char) : Option Nat :=
  let n := c.toNat
  if 0x61 ≤ n ∧ n ≤ 0x7a then some (n - 0x61)
  else if 0x41 ≤ n ∧ n ≤ 0x5a then some (n - 0x41)
  else if 0x30 ≤ n ∧ n ≤ 0x39 then some (n - 0x16)
  else none

/-- A written digit is read back. -/
theorem digitValue?_digit (d : Fin 36) : digitValue? (digit d) = some d.val := by
  revert d; decide

/-- The least digit at a place that says that more digits follow. -/
def threshold (bias place : Nat) : Nat := min 26 (max 1 (place - bias))

/-- No threshold is below the least one. -/
theorem one_le_threshold (bias place : Nat) : 1 ≤ threshold bias place := by
  unfold threshold; omega

/-- No threshold is above the greatest one. -/
theorem threshold_le (bias place : Nat) : threshold bias place ≤ 26 := by
  unfold threshold; omega

/-- The bias for numbers as great as a damped one. -/
def biasOf (damped : Nat) : Nat :=
  if 455 < damped then 36 + biasOf (damped / 35) else 36 * damped / (damped + 38)
termination_by damped
decreasing_by omega

/-- The bias after a number, with the count of characters by then; the first number is damped
more. -/
def adapt (number count : Nat) (isFirst : Bool) : Nat :=
  let damped := if isFirst then number / 700 else number / 2
  biasOf (damped + damped / count)

/-- The bias at the start. -/
def firstBias : Nat := 72

/-- The first code point that is not in ASCII. -/
def firstPoint : Nat := 128

/-- Whether a character is in ASCII. -/
def isBasic (c : Char) : Bool := c.toNat < firstPoint

/-! ## Writing -/

/-- The digits of a number from a place on. -/
def encodeNumber (bias place number : Nat) : List Char :=
  let t := threshold bias place
  if number < t then [digit number]
  else digit (t + (number - t) % (36 - t)) :: encodeNumber bias (place + 36) ((number - t) / (36 - t))
termination_by number
decreasing_by
  have := one_le_threshold bias place
  exact Nat.lt_of_le_of_lt (Nat.div_le_self _ _) (by omega)

/-- How far the writing of a label has come. -/
structure Progress where
  /-- The digits so far, in reverse order. -/
  written : List Char := []
  /-- The distance from the last character written. -/
  distance : Nat := 0
  bias : Nat := firstBias
  /-- The number of characters that are written. -/
  count : Nat

/-- Goes past a character in search of a code point. -/
def Progress.pass (basic point : Nat) (p : Progress) (c : Char) : Progress :=
  if c.toNat < point then { p with distance := p.distance + 1 }
  else if c.toNat = point then {
    written := (encodeNumber p.bias 36 p.distance).reverse ++ p.written
    distance := 0
    bias := adapt p.distance (p.count + 1) (p.count == basic)
    count := p.count + 1 }
  else p

/-- Writes the places of code points in a label, from one code point on. -/
def Progress.write (basic : Nat) (label : List Char) : List Nat → Nat → Progress → Progress
  | [], _, p => p
  | point :: more, reached, p =>
    let p := { p with distance := p.distance + (point - reached) * (p.count + 1) }
    let p := label.foldl (Progress.pass basic point) p
    write basic label more (point + 1) { p with distance := p.distance + 1 }

/-- Increasing numbers with one more, unless it is among them. -/
def insertPoint (n : Nat) : List Nat → List Nat
  | [] => [n]
  | m :: rest => if n < m then n :: m :: rest else if n = m then m :: rest else m :: insertPoint n rest

/-- A label in letters, digits and dashes. -/
def encode (label : List Char) : List Char :=
  let basic := label.filter isBasic
  let points := ((label.filter (!isBasic ·)).map Char.toNat).foldr insertPoint []
  let p := Progress.write basic.length label points firstPoint { count := basic.length }
  basic ++ (if basic.isEmpty then [] else ['-']) ++ p.written.reverse

/-! ## Reading -/

/-- The least number that is too great. -/
def tooGreat : Nat := 0x100000000

/-- The number at the front of a text, added to what is given, and the rest. -/
def decodeNumber? (bias place weight total : Nat) : List Char → Option (Nat × List Char)
  | [] => none
  | c :: cs =>
    match digitValue? c with
    | none => none
    | some d =>
      let total := total + d * weight
      let t := threshold bias place
      if tooGreat ≤ total then none
      else if d < t then some (total, cs)
      else if tooGreat ≤ weight * (36 - t) then none
      else decodeNumber? bias (place + 36) (weight * (36 - t)) total cs

/-- Reading a number takes at least one digit. -/
theorem length_lt_of_decodeNumber? {bias : Nat} {r : Nat × List Char} :
    ∀ {cs : List Char} {place weight total : Nat},
      decodeNumber? bias place weight total cs = some r → r.2.length < cs.length
  | [], _, _, _, h => by simp [decodeNumber?] at h
  | c :: cs, place, weight, total, h => by
    rw [decodeNumber?] at h
    split at h
    · simp at h
    · dsimp only at h
      split at h
      · simp at h
      · split at h
        · cases h; simp
        · split at h
          · simp at h
          · have := length_lt_of_decodeNumber? h
            simp; omega

/-- Whether a number is the code point of a character. -/
def isPoint (n : Nat) : Bool := n < 0xd800 || (0xdfff < n && n < 0x110000)

/-- Puts characters into a text, from a bias, a code point and a place on. -/
def decodeFrom? (bias point place : Nat) (text : List Char) : List Char → Option (List Char)
  | [] => some text
  | c :: cs =>
    match _found : decodeNumber? bias 36 1 place (c :: cs) with
    | none => none
    | some (n, after) =>
      let count := text.length + 1
      let next := point + n / count
      if isPoint next then
        decodeFrom? (adapt (n - place) count (place == 0)) next (n % count + 1)
          (text.insertIdx (n % count) (Char.ofNat next)) after
      else none
termination_by cs => cs.length
decreasing_by exact length_lt_of_decodeNumber? _found

/-- The label that letters, digits and dashes write. -/
def decode? (cs : List Char) : Option (List Char) :=
  match cs.reverse.span (· != '-') with
  | (_, []) => decodeFrom? firstBias firstPoint 0 [] cs
  | (_, [_]) => none
  | (digits, _ :: basic) => decodeFrom? firstBias firstPoint 0 basic.reverse digits.reverse

end Punycode

end HostName

end FirewallOperator
