import FirewallOperator.Data.SortedMap
import FirewallOperator.Json.Record

/-! # Schemas of JSON values

A `Schema` describes JSON values of one form, so that others can check what they write. It says
which values are valid, `Schema.admits`, and is itself written as JSON, `Schema.toJson`. Members
that a schema does not name are of no concern to it. -/

namespace FirewallOperator

/-- The whole number that a number is, in whatever way it is written. -/
def Json.whole? : Json → Option Int
  | .int n => some n
  | .decimal negative digits exponent =>
    let signed := fun n : Nat => if negative then -(n : Int) else n
    let scale := Nat.pow 10 exponent.natAbs
    if 0 ≤ exponent then some (signed (digits * scale))
    else if digits % scale = 0 then some (signed (digits / scale))
    else none
  | _ => none

/-- Whether a value is null. -/
def Json.isNull : Json → Bool
  | .null => true
  | _ => false

/-- What schemas of every form can say. -/
structure Schema.Traits where
  title : Option String := none
  description : Option String := none
  /-- The value that stands for a missing one. -/
  default : Option Json := none
  /-- What the value is used as, which says nothing about validity. -/
  format : Option String := none
  /-- Whether null is valid too. -/
  nullable : Bool := false

/-- A description of valid values. -/
inductive Schema where
  /-- Texts; if choices are given, only those. -/
  | text (traits : Schema.Traits) (choices : List String)
  /-- Whole numbers; if a least one is given, only from there on. -/
  | whole (traits : Schema.Traits) (least : Option Int)
  /-- Arrays whose items are all described alike. -/
  | list (traits : Schema.Traits) (item : Schema)
  /-- Objects whose members are all described alike. -/
  | table (traits : Schema.Traits) (value : Schema)
  /-- Objects with described members, some of which have to be present. -/
  | record (traits : Schema.Traits) (members : List (String × Schema)) (required : List String)

namespace Schema

/-! ## Validity -/

mutual

/-- Whether a value is valid. -/
def admits : Schema → Json → Bool
  | .text t choices, j =>
    (t.nullable && j.isNull) || j.asText?.any fun s => choices.isEmpty || choices.contains s
  | .whole t least, j =>
    (t.nullable && j.isNull) || j.whole?.any fun n => least.all fun l => decide (l ≤ n)
  | .list t item, j =>
    (t.nullable && j.isNull) || match j with
      | .arr items => items.all fun i => item.admits i
      | _ => false
  | .table t value, j =>
    (t.nullable && j.isNull) || match j with
      | .obj members => members.all fun m => value.admits m.2
      | _ => false
  | .record t members required, j =>
    (t.nullable && j.isNull) || match j with
      | .obj given =>
        required.all (fun name => (Json.member? name (.obj given)).isSome)
          && admitsMembers members (.obj given)
      | _ => false

/-- Whether the described members that an object has are valid. -/
def admitsMembers : List (String × Schema) → Json → Bool
  | [], _ => true
  | (name, s) :: rest, j => ((j.member? name).all fun v => s.admits v) && admitsMembers rest j

end

/-- Where no members are described, everything is valid. -/
@[simp] theorem admitsMembers_nil (j : Json) : admitsMembers [] j = true := rfl

/-- The first described member has to be valid if it is there, and so do the others. -/
@[simp] theorem admitsMembers_cons (name : String) (s : Schema) (rest : List (String × Schema))
    (j : Json) :
    admitsMembers ((name, s) :: rest) j
      = (((j.member? name).all fun v => s.admits v) && admitsMembers rest j) := rfl

/-! ## Schemas as JSON -/

/-- The object with the given members, in the order of their keys. -/
def inKeyOrder (members : List (String × Json)) : Json := .obj (SortedMap.ofList members).entries

/-- What is written of the traits of a schema for values of a type. -/
def Traits.members (t : Traits) (type : String) : List (String × Json) :=
  [("type", .str type)]
    ++ Json.memberIfSome "title" .str t.title
    ++ Json.memberIfSome "description" .str t.description
    ++ Json.memberIfSome "default" id t.default
    ++ Json.memberIfSome "format" .str t.format
    ++ if t.nullable then [("nullable", .bool true)] else []

mutual

/-- The schema as JSON. Bounds are written as decimal numerals. -/
def toJson : Schema → Json
  | .text t choices => inKeyOrder (t.members "string" ++ Json.memberIfAny "enum" .str choices)
  | .whole t least =>
    let bound := fun n : Int => Json.decimal (n < 0) n.natAbs 0
    inKeyOrder (t.members "integer" ++ Json.memberIfSome "minimum" bound least)
  | .list t item => inKeyOrder (("items", item.toJson) :: t.members "array")
  | .table t value => inKeyOrder (("additionalProperties", value.toJson) :: t.members "object")
  | .record t members required =>
    inKeyOrder (("properties", inKeyOrder (toJsonMembers members)) :: t.members "object"
      ++ Json.memberIfAny "required" .str (TextSet.ofList required).keys)

/-- The schemas of members as JSON. -/
def toJsonMembers : List (String × Schema) → List (String × Json)
  | [] => []
  | (name, s) :: rest => (name, s.toJson) :: toJsonMembers rest

end

end Schema

end FirewallOperator
