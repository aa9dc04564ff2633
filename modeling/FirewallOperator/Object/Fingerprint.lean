import FirewallOperator.Object.Codec
import FirewallOperator.Text.Quoted

/-! # What an object says

`functionText` writes down what an object does, its functional fields and its tags, and nothing
else: not its revision, its mark, its type name, nor the rules inside a policy. Tags are a set, so
they are written in order. The backend's own order of tags and its bookkeeping thus never make an
object look changed. -/

namespace FirewallOperator

/-! ## Tags in order -/

namespace Tag

/-- Whether a tag may stand before another: by scope, then by value. -/
def atMost (a b : Tag) : Bool := a.scope < b.scope || (a.scope == b.scope && a.value ≤ b.value)

/-- Ordered tags with one more tag. -/
def insertOrdered (t : Tag) : List Tag → List Tag
  | [] => [t]
  | u :: rest => if t.atMost u then t :: u :: rest else u :: insertOrdered t rest

/-- The tags in order. -/
def sorted : List Tag → List Tag
  | [] => []
  | t :: rest => insertOrdered t (sorted rest)

/-- A tag that is put in its place comes to those that are there. -/
theorem insertOrdered_perm (t : Tag) : ∀ ts : List Tag, (insertOrdered t ts).Perm (t :: ts)
  | [] => .refl _
  | u :: rest => by
    rw [insertOrdered]
    split
    · exact .refl _
    · exact ((insertOrdered_perm t rest).cons u).trans (.swap t u rest)

/-- Ordering loses no tag and adds none. -/
theorem sorted_perm : ∀ ts : List Tag, (sorted ts).Perm ts
  | [] => .refl _
  | t :: rest => (insertOrdered_perm t _).trans ((sorted_perm rest).cons t)

/-- A tag as it stands in a function text. -/
def text (t : Tag) : String :=
  "Tag \x7b scope: " ++ quoted t.scope ++ ", tag: " ++ quoted t.value ++ " \x7d"

/-- Tags as they stand in a function text, in order. -/
def listText (ts : List Tag) : String := listed ((sorted ts).map text)

end Tag

/-! ## Parts of objects -/

/-- A service entry as it stands in a function text. -/
def ServiceEntry.text (s : ServiceEntry) : String :=
  "(" ++ commaSeparated [quoted s.id, quoted s.protocol, quotedList s.ports] ++ ")"

/-- A term as it stands in a function text. -/
def Term.text : Term → String
  | .condition memberType key operator value =>
    "Condition \x7b member_type: " ++ quoted memberType ++ ", key: " ++ quoted key
      ++ ", operator: " ++ quoted operator ++ ", value: " ++ quoted value ++ " \x7d"
  | .conjunction operator =>
    "ConjunctionOperator \x7b conjunction_operator: " ++ quoted operator ++ " \x7d"

/-- A condition is written with its type, its key, its operator and its value. -/
theorem Term.text_condition (memberType key operator value : String) :
    (condition memberType key operator value).text =
      "Condition \x7b member_type: " ++ quoted memberType ++ ", key: " ++ quoted key
        ++ ", operator: " ++ quoted operator ++ ", value: " ++ quoted value ++ " \x7d" := rfl

/-- A conjunction is written with its operator. -/
theorem Term.text_conjunction (operator : String) :
    (conjunction operator).text =
      "ConjunctionOperator \x7b conjunction_operator: " ++ quoted operator ++ " \x7d" := rfl

/-! ## Objects -/

/-- What a policy says apart from its rules. -/
def Policy.functionText (p : Policy) : String :=
  "id=" ++ p.id ++ ";name=" ++ p.displayName ++ ";scope=" ++ quotedList p.scope
    ++ ";seq=" ++ toString p.sequence.toInt ++ ";tags=" ++ Tag.listText p.tags

/-- What a rule says. -/
def Rule.functionText (r : Rule) : String :=
  "id=" ++ r.id ++ ";name=" ++ r.displayName ++ ";dir=" ++ r.direction.name
    ++ ";action=" ++ r.action.name ++ ";src=" ++ quotedList r.sources
    ++ ";dst=" ++ quotedList r.destinations
    ++ ";svc=" ++ listed (r.services.map ServiceEntry.text) ++ ";scope=" ++ quotedList r.scope
    ++ ";seq=" ++ toString r.sequence.toInt ++ ";tags=" ++ Tag.listText r.tags

/-- What a group says. -/
def Group.functionText (g : Group) : String :=
  "id=" ++ g.id ++ ";name=" ++ g.displayName ++ ";expr=" ++ listed (g.expression.map Term.text)
    ++ ";tags=" ++ Tag.listText g.tags

end FirewallOperator
