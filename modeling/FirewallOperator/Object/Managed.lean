import FirewallOperator.Hash.Digest
import FirewallOperator.Object.Fingerprint

/-! # The common view of objects

Stores, differences and patches treat the three kinds of objects alike. `Managed` is what they need
to know of a kind: identity, tags, the mark that asks for removal, and the text that says what an
object does. From it come an object's `owner`, the uid of the resource it was built from, and its
`fingerprint`, by which two versions of an object are compared. -/

namespace FirewallOperator

/-- The kinds of objects. -/
inductive Kind where
  | policy
  | rule
  | group
  deriving DecidableEq, Repr

/-- The name of a kind. -/
def Kind.name : Kind → String
  | .policy => "policy"
  | .rule => "rule"
  | .group => "group"

/-- The name under which the backend's search knows a kind. -/
def Kind.searchName : Kind → String
  | .policy => "SecurityPolicy"
  | .rule => "Rule"
  | .group => "Group"

/-- A kind of objects that the backend manages. -/
class Managed (α : Type) where
  kind : Kind
  id : α → String
  tags : α → List Tag
  marked : α → Bool
  /-- The object with its mark set or cleared. -/
  setMarked : Bool → α → α
  functionText : α → String
  toJson : α → Json
  ofJson? : Json → Option α
  id_setMarked : ∀ b x, id (setMarked b x) = id x := by intros; rfl
  tags_setMarked : ∀ b x, tags (setMarked b x) = tags x := by intros; rfl
  marked_setMarked : ∀ b x, marked (setMarked b x) = b := by intros; rfl
  functionText_setMarked : ∀ b x, functionText (setMarked b x) = functionText x := by intros; rfl

attribute [simp] Managed.id_setMarked Managed.tags_setMarked Managed.marked_setMarked
  Managed.functionText_setMarked

instance : Managed Policy where
  kind := .policy
  id := Policy.id
  tags := Policy.tags
  marked := Policy.marked
  setMarked b p := { p with marked := b }
  functionText := Policy.functionText
  toJson := Policy.toJson
  ofJson? := Policy.ofJson?

instance : Managed Rule where
  kind := .rule
  id := Rule.id
  tags := Rule.tags
  marked := Rule.marked
  setMarked b r := { r with marked := b }
  functionText := Rule.functionText
  toJson := Rule.toJson
  ofJson? := Rule.ofJson?

instance : Managed Group where
  kind := .group
  id := Group.id
  tags := Group.tags
  marked := Group.marked
  setMarked b g := { g with marked := b }
  functionText := Group.functionText
  toJson := Group.toJson
  ofJson? := Group.ofJson?

variable {α : Type} [Managed α]

/-- The value of the first tag that names an owner. -/
def Tag.owner? (tags : List Tag) : Option String :=
  (tags.find? fun t => t.scope == Tag.ownerScope).map (·.value)

/-- The uid of the resource that an object belongs to, if it says so. -/
def owner? (x : α) : Option String := Tag.owner? (Managed.tags x)

/-- The digest of what an object says. -/
def fingerprint (x : α) : String := digest (Managed.functionText x)

/-- A mark for deletion does not change who owns an object. -/
@[simp] theorem owner?_setMarked (b : Bool) (x : α) :
    owner? (Managed.setMarked b x) = owner? x := by simp [owner?]

/-- A mark does not change what an object says. -/
@[simp] theorem fingerprint_setMarked (b : Bool) (x : α) :
    fingerprint (Managed.setMarked b x) = fingerprint x := by simp [fingerprint]

/-- Rules inside a policy are no part of what it says. -/
@[simp] theorem fingerprint_withoutRules (p : Policy) :
    fingerprint p.withoutRules = fingerprint p := rfl

end FirewallOperator
