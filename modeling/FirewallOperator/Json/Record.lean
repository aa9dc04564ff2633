import FirewallOperator.Json.Value

/-! # Records in JSON

A record has named fields in a fixed order. It is written as an object, and read from an object or
from an array that gives its fields in order. Members of an object that are no field are ignored; a
field that occurs twice is an error, as is an array with more items than there are fields. A field
with a default may be missing, but is never null unless it is optional. -/

namespace FirewallOperator

namespace Json

/-- The fields of a record that are present. -/
structure Record where
  /-- The present fields by name. -/
  fields : List (String × Json)
  /-- Whether the record was given as an array. -/
  positional : Bool

/-- Whether no name occurs twice. -/
def distinctNames : List (String × Json) → Bool
  | [] => true
  | (name, _) :: rest => !rest.any (·.1 == name) && distinctNames rest

/-- The record with the given field names, from an object only. -/
def keyedRecord? (names : List String) : Json → Option Record
  | .obj members =>
    let fields := members.filter fun m => names.contains m.1
    if distinctNames fields then some ⟨fields, false⟩ else none
  | _ => none

/-- The record with the given field names, from an object or an array. -/
def record? (names : List String) : Json → Option Record
  | .arr items => if items.length ≤ names.length then some ⟨names.zip items, true⟩ else none
  | j => keyedRecord? names j

namespace Record

variable {α : Type}

/-- The field with the given name. -/
def get? (r : Record) (name : String) : Option Json := r.fields.lookup name

/-- A field that has to be present. -/
def required (r : Record) (name : String) (decode : Json → Option α) : Option α :=
  (r.get? name).bind decode

/-- A field with a default. -/
def withDefault (r : Record) (name : String) (default : α) (decode : Json → Option α) : Option α :=
  match r.get? name with
  | none => some default
  | some j => decode j

/-- A field that may be missing or null. -/
def optional (r : Record) (name : String) (decode : Json → Option α) : Option (Option α) :=
  match r.get? name with
  | none => some none
  | some j => j.nullable? decode

/-- A text that is empty unless given. -/
def text (r : Record) (name : String) : Option String := r.withDefault name "" asText?

/-- A list that is empty unless given. -/
def list (r : Record) (name : String) (item : Json → Option α) : Option (List α) :=
  r.withDefault name [] (asList? item)

end Record

/-! ## Scalars of fields -/

/-- A whole number of sixty-four bits with sign. -/
def asInt64? : Json → Option Int64
  | .int n => if -0x8000000000000000 ≤ n ∧ n < 0x8000000000000000 then some (Int64.ofInt n) else none
  | _ => none

/-- A whole number of thirty-two bits with sign. -/
def asInt32? : Json → Option Int32
  | .int n => if -0x80000000 ≤ n ∧ n < 0x80000000 then some (Int32.ofInt n) else none
  | _ => none

/-- A whole number of sixteen bits. -/
def asUInt16? : Json → Option UInt16
  | .int n => if 0 ≤ n ∧ n < 0x10000 then some (UInt16.ofNat n.toNat) else none
  | _ => none

/-- How freely the name of a value is read. Inside an object that had to be looked through before
its type was known, names are read `loosely`. -/
inductive Naming where
  | strictly
  | loosely
  deriving DecidableEq, Repr

/-- One of the named values: its name, or an object with the name alone and null; loosely read, an
empty object may stand in the place of null. -/
def Naming.value? {α : Type} (naming : Naming) (names : List (String × α)) : Json → Option α
  | .str s => names.lookup s
  | .obj [(s, .null)] => names.lookup s
  | .obj [(s, .obj [])] => if naming = .loosely then names.lookup s else none
  | _ => none

/-- One of the named values, strictly read. -/
def asNamed? {α : Type} (names : List (String × α)) : Json → Option α := Naming.strictly.value? names

/-- One of the names; loosely read, the number of one of them. -/
def Naming.name? (naming : Naming) (names : List String) : Json → Option String
  | .str s => if names.contains s then some s else none
  | .int n => if naming = .loosely ∧ 0 ≤ n then names[n.toNat]? else none
  | _ => none

/-- A number of sixty-four bits as JSON. -/
def ofInt64 (n : Int64) : Json := .int n.toInt

/-- A number of thirty-two bits as JSON. -/
def ofInt32 (n : Int32) : Json := .int n.toInt

/-- A number of sixteen bits as JSON. -/
def ofUInt16 (n : UInt16) : Json := .int n.toNat

/-- A number of sixty-four bits is read back. -/
@[simp] theorem asInt64?_ofInt64 (n : Int64) : asInt64? (ofInt64 n) = some n := by
  have hlow : -0x8000000000000000 ≤ n.toInt := Int64.le_toInt n
  have hhigh : n.toInt < 0x8000000000000000 := Int64.toInt_lt n
  simp only [asInt64?, ofInt64]
  rw [if_pos ⟨hlow, hhigh⟩, Int64.ofInt_toInt]

/-- A number of thirty-two bits is read back. -/
@[simp] theorem asInt32?_ofInt32 (n : Int32) : asInt32? (ofInt32 n) = some n := by
  have hlow : -0x80000000 ≤ n.toInt := Int32.le_toInt n
  have hhigh : n.toInt < 0x80000000 := Int32.toInt_lt n
  simp only [asInt32?, ofInt32]
  rw [if_pos ⟨hlow, hhigh⟩, Int32.ofInt_toInt]

/-- A number of sixteen bits is read back. -/
@[simp] theorem asUInt16?_ofUInt16 (n : UInt16) : asUInt16? (ofUInt16 n) = some n := by
  have h : n.toNat < 0x10000 := n.toNat_lt
  simp only [asUInt16?, ofUInt16]
  rw [if_pos ⟨Int.natCast_nonneg _, by omega⟩]
  simp

/-! ## Members of an object that is written -/

/-- A member that is always written. -/
def member (name : String) (value : Json) : List (String × Json) := [(name, value)]

/-- A member that is left out when there is no value. -/
def memberIfSome {α : Type} (name : String) (encode : α → Json) :
    Option α → List (String × Json)
  | none => []
  | some x => [(name, encode x)]

/-- A member that is left out when the list is empty. -/
def memberIfAny {α : Type} (name : String) (encode : α → Json) :
    List α → List (String × Json)
  | [] => []
  | xs => [(name, ofList encode xs)]

end Json

end FirewallOperator
