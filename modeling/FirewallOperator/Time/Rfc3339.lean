import FirewallOperator.Text.Blank
import FirewallOperator.Time.Timestamp

/-! # Reading points in time

`Timestamp.parse?` reads the notation of RFC 3339 generously: blanks may stand before numbers and
separators, numbers may have fewer digits, a year may have a sign and then any number of digits, and
the offset may be a word. The point is converted to universal time. -/

namespace FirewallOperator

namespace Timestamp

/-- The number that a row of digits denotes. -/
def numberOf (digits : List Char) : Nat :=
  digits.foldl (fun n c => 10 * n + (c.toNat - '0'.toNat)) 0

/-- The digits at the front of a text, at most `width` of them and at least one. -/
def digits? (width : Nat) (cs : List Char) : Option (List Char × List Char) :=
  let ds := (cs.take width).takeWhile Char.isDigit
  if ds.isEmpty then none else some (ds, cs.drop ds.length)

/-- A number of one or two digits up to `limit`, after blanks. -/
def number? (limit : Nat) (cs : List Char) : Option (Nat × List Char) := do
  let (ds, rest) ← digits? 2 (trimBlank cs)
  let n := numberOf ds
  if n ≤ limit then some (n, rest) else none

/-- A year: up to four digits, or a sign and digits. -/
def year? (cs : List Char) : Option (Int × List Char) :=
  match trimBlank cs with
  | '-' :: cs => (digits? cs.length cs).map fun (ds, rest) => (-(numberOf ds : Int), rest)
  | '+' :: cs => (digits? cs.length cs).map fun (ds, rest) => ((numberOf ds : Int), rest)
  | cs => (digits? 4 cs).map fun (ds, rest) => ((numberOf ds : Int), rest)

/-- The text after a separator, which blanks may precede. -/
def separator? (c : Char) (cs : List Char) : Option (List Char) :=
  match trimBlank cs with
  | d :: rest => if c = d then some rest else none
  | [] => none

/-- The fraction of a second in nanoseconds; digits after the ninth are skipped. -/
def fraction? (cs : List Char) : Option (Nat × List Char) :=
  match cs with
  | '.' :: cs => do
    let (ds, rest) ← digits? 9 cs
    some (numberOf ds * Nat.pow 10 (9 - ds.length), rest.dropWhile Char.isDigit)
  | cs => some (0, cs)

/-- Two digits as a number. -/
def twoDigits? : List Char → Option (Nat × List Char)
  | a :: b :: rest => if a.isDigit ∧ b.isDigit then some (numberOf [a, b], rest) else none
  | _ => none

/-- The hours and minutes of an offset, in minutes. -/
def offsetMinutes? (cs : List Char) : Option (Nat × List Char) := do
  let (hours, rest) ← twoDigits? cs
  let (minutes, rest) ← twoDigits? (rest.dropWhile fun c => c == ':' || isBlank c)
  if minutes < 60 ∧ hours < 24 then some (hours * 60 + minutes, rest) else none

/-- The offset from universal time, in minutes. -/
def offset? (cs : List Char) : Option (Int × List Char) :=
  if (cs.take 3).map Char.toUpper = ['U', 'T', 'C'] then some (0, cs.drop 3)
  else
    match cs with
    | 'Z' :: rest | 'z' :: rest => some (0, rest)
    | '+' :: rest => (offsetMinutes? rest).map fun (m, rest) => ((m : Int), rest)
    | '-' :: rest | '\u2212' :: rest =>
      (offsetMinutes? rest).map fun (m, rest) => (-(m : Int), rest)
    | _ => none

/-- The point that a date and time of day with an offset denote. -/
def shifted? (date : Date) (hour minute second nanosecond : Nat) (offset : Int) :
    Option Timestamp :=
  let total : Int := (hour * 60 + minute : Nat) - offset
  let day := if total < 0 then date.previous else if 1440 ≤ total then date.next else date
  let minutes := (total % 1440).toNat
  if date.isValid ∧ day.isValid then
    some ⟨day, minutes / 60, minutes % 60, second, nanosecond⟩
  else none

/-- The point in time that a text denotes. -/
def parse? (text : String) : Option Timestamp := do
  let (year, cs) ← year? text.toList
  let (month, cs) ← number? 12 (← separator? '-' cs)
  let (day, cs) ← number? 31 (← separator? '-' cs)
  let cs ← match cs with
    | 't' :: rest | 'T' :: rest | ' ' :: rest => some rest
    | _ => none
  let (hour, cs) ← number? 23 cs
  let (minute, cs) ← number? 59 (← separator? ':' cs)
  let (second, cs) ← number? 60 (← separator? ':' cs)
  let (nanosecond, cs) ← fraction? cs
  let (offset, cs) ← offset? (trimBlank cs)
  if trimBlank cs = [] then shifted? ⟨year, month, day⟩ hour minute second nanosecond offset
  else none

end Timestamp

end FirewallOperator
