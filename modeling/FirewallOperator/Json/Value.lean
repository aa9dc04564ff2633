/-! # JSON values

`Json` is the tree that a JSON text denotes. Object members keep the order in which they stand; a
tree that was read loosely may hold a key twice. Whole numbers of the 64-bit ranges are `int`; every
other number is kept as the decimal numeral it was written as. -/

namespace FirewallOperator

/-- A JSON value. -/
inductive Json where
  | null
  | bool (value : Bool)
  /-- A whole number written without fraction and exponent. -/
  | int (value : Int)
  /-- Any other number: sign, significant digits and a power of ten. -/
  | decimal (negative : Bool) (digits : Nat) (exponent : Int)
  | str (value : String)
  | arr (items : List Json)
  | obj (members : List (String × Json))
  /-- A value that is well formed as text, but that no tree can hold: a text with half of a
  surrogate pair, a number beyond the range of doubles, or nesting that is too deep. -/
  | unreadable
  deriving Inhabited, BEq, Repr

namespace Json

/-- The text of a string value. -/
def asText? : Json → Option String
  | .str s => some s
  | _ => none

/-- The truth value of a boolean. -/
def asBool? : Json → Option Bool
  | .bool b => some b
  | _ => none

/-- The items of an array, each decoded. -/
def asList? {α : Type} (item : Json → Option α) : Json → Option (List α)
  | .arr items => items.mapM item
  | _ => none

/-- The decoded value of a field that may be null. -/
def nullable? {α : Type} (value : Json → Option α) : Json → Option (Option α)
  | .null => some none
  | j => (value j).map some

/-- An array of the encodings of a list's members. -/
def ofList {α : Type} (item : α → Json) (xs : List α) : Json := .arr (xs.map item)

/-- The encoding of a value, or null when there is none. -/
def ofOption {α : Type} (value : α → Json) : Option α → Json
  | none => .null
  | some x => value x

/-- The member of an object with the given key; of several the last. -/
def member? (key : String) : Json → Option Json
  | .obj members => members.reverse.lookup key
  | _ => none

mutual

/-- Whether a tree has no unreadable part. -/
def readable : Json → Bool
  | .unreadable => false
  | .arr items => readableItems items
  | .obj members => readableMembers members
  | _ => true

/-- Whether no item has an unreadable part. -/
def readableItems : List Json → Bool
  | [] => true
  | j :: rest => j.readable && readableItems rest

/-- Whether no member has an unreadable part. -/
def readableMembers : List (String × Json) → Bool
  | [] => true
  | (_, j) :: rest => j.readable && readableMembers rest

end

/-! ## Decoding undoes encoding -/

/-- A text is read as itself. -/
@[simp] theorem asText?_str (s : String) : asText? (.str s) = some s := rfl

/-- A truth value is read as itself. -/
@[simp] theorem asBool?_bool (b : Bool) : asBool? (.bool b) = some b := rfl

/-- A list is decoded back when each of its members is. -/
theorem asList?_ofList {α : Type} {item : Json → Option α} {encode : α → Json}
    (h : ∀ x, item (encode x) = some x) (xs : List α) :
    asList? item (ofList encode xs) = some xs := by
  induction xs with
  | nil => rfl
  | cons x xs ih =>
    simp only [asList?, ofList, List.map_cons, List.mapM_cons, h] at ih ⊢
    rw [ih]; rfl

end Json

end FirewallOperator
