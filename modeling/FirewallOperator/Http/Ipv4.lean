import FirewallOperator.Text.CharTable

/-! # Addresses of four bytes

A host whose last part is a number is an address. It has up to four parts, each decimal, octal with
a zero before it, or hexadecimal with `0x` before it; the last part fills the bytes that the parts
before it leave. -/

namespace FirewallOperator

/-- An address of four bytes. -/
structure Ipv4 where
  value : UInt32
  deriving DecidableEq, Repr

namespace Ipv4

/-- Whether a character is an octal digit. -/
def isOctal (c : Char) : Bool := '0' ≤ c && c ≤ '7'

/-- The number that digits of a base write. -/
def digitsValue (base : Nat) (ds : List Char) : Nat :=
  ds.foldl (fun n d => base * n + (hexValue? d).getD 0) 0

/-- The number that a part writes. Nothing behind the sign of a base is a zero. -/
def number? (part : List Char) : Option Nat :=
  let digits := fun base (isDigit : Char → Bool) ds =>
    if ds.all isDigit then some (digitsValue base ds) else none
  match part with
  | [] => none
  | '0' :: 'x' :: ds | '0' :: 'X' :: ds => digits 16 (hexValue? · |>.isSome) ds
  | ['0'] => some 0
  | '0' :: ds => digits 8 isOctal ds
  | ds => digits 10 Char.isDigit ds

/-- The parts of a host name; a dot at the end does not count. -/
def parts (name : List Char) : List (List Char) :=
  let all := CharTable.parts '.' name
  if all.getLast? = some [] then all.dropLast else all

/-- Whether the last part of a host name is a number, if only one with the wrong digits. -/
def endsInNumber (name : List Char) : Bool :=
  match (parts name).getLast? with
  | none => false
  | some part => (!part.isEmpty && part.all Char.isDigit) || (number? part).isSome

/-- The number of the bytes before the last part, and what the last part adds to it. -/
def sum? : Nat → List Nat → Option Nat
  | _, [] => none
  | bytes, [n] => if n < Nat.pow 256 bytes then some n else none
  | bytes, n :: ns => do
    let rest ← sum? (bytes - 1) ns
    if n < 256 then some (n * Nat.pow 256 (bytes - 1) + rest) else none

/-- The address that a host name writes. -/
def parse? (name : List Char) : Option Ipv4 := do
  let ps := parts name
  if 4 < ps.length then none
  let value ← sum? 4 (← ps.mapM number?)
  return ⟨UInt32.ofNat value⟩

/-- The byte of an address at a place, counted from the last. -/
def byte (a : Ipv4) (place : Nat) : Nat := a.value.toNat / Nat.pow 256 place % 256

/-- An address in four decimal parts. -/
def text (a : Ipv4) : String :=
  ".".intercalate ([3, 2, 1, 0].map fun place => toString (a.byte place))

end Ipv4

end FirewallOperator
