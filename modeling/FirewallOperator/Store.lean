import FirewallOperator.Data.SortedMap
import FirewallOperator.Object.Managed

/-! # Stores of objects

A `Store` holds the backend's objects of one kind. It finds them by identity, and through an index
by owner: the identities of each owner's objects, in order. An owner without objects is not in the
index. `put`, `delete` and `apply` move both maps together. -/

namespace FirewallOperator

/-- The stored objects of one kind with their index by owner. -/
structure Store (α : Type) where
  /-- The objects by identity. -/
  objects : SortedMap α
  /-- The identities by owner. -/
  index : SortedMap TextSet
  deriving DecidableEq

namespace Store

variable {α : Type}

/-- The store without objects. -/
def empty : Store α := ⟨.empty, .empty⟩

instance : Inhabited (Store α) := ⟨empty⟩

/-- An index with an identity added to an owner's. -/
def addTo (index : SortedMap TextSet) (owner id : String) : SortedMap TextSet :=
  index.insert owner (((index.get? owner).getD .empty).add id)

/-- An index with an identity taken from an owner's; an owner without identities is dropped. -/
def takeFrom (index : SortedMap TextSet) (owner id : String) : SortedMap TextSet :=
  match index.get? owner with
  | none => index
  | some ids =>
    let left := ids.erase id
    if left.isEmpty then index.erase owner else index.insert owner left

/-- The object with an identity. -/
def get? (s : Store α) (id : String) : Option α := s.objects.get? id

/-- The number of objects. -/
def size (s : Store α) : Nat := s.objects.size

/-- Whether the store has no objects. -/
def isEmpty (s : Store α) : Bool := s.objects.isEmpty

/-- The owners that have objects. -/
def owners (s : Store α) : TextSet :=
  TextSet.ofList ((s.index.entries.filter fun e => !e.2.isEmpty).map (·.1))

/-- The objects of an owner, ordered by identity. -/
def ownedBy (s : Store α) (owner : String) : List α :=
  match s.index.get? owner with
  | none => []
  | some ids => ids.keys.filterMap s.get?

variable [Managed α]

/-- The index without the identity of an object that is stored no more. -/
def unindex (index : SortedMap TextSet) (old : Option α) : SortedMap TextSet :=
  match old with
  | none => index
  | some x =>
    match owner? x with
    | none => index
    | some owner => takeFrom index owner (Managed.id x)

/-- Stores an object in place of one with the same identity. -/
def put (s : Store α) (x : α) : Store α where
  objects := s.objects.insert (Managed.id x) x
  index :=
    -- only an object that changes its owner has to leave the index
    let previous := (s.get? (Managed.id x)).filter fun old => owner? old != owner? x
    let cleared := unindex s.index previous
    match owner? x with
    | none => cleared
    | some owner => addTo cleared owner (Managed.id x)

/-- Removes the object with an identity, if there is one. -/
def delete (s : Store α) (id : String) : Store α where
  objects := s.objects.erase id
  index := unindex s.index (s.get? id)

/-- Removes an object that is marked, and stores any other. -/
def apply (s : Store α) (x : α) : Store α :=
  if Managed.marked x then s.delete (Managed.id x) else s.put x

/-- Stores objects one after the other. -/
def putAll (s : Store α) (xs : List α) : Store α := xs.foldl put s

/-- Applies objects one after the other. -/
def applyAll (s : Store α) (xs : List α) : Store α := xs.foldl apply s

/-! ## Objects after each operation -/

/-- A store into which an object was put has it under its identity, and is the same elsewhere. -/
theorem get?_put (s : Store α) (x : α) (id : String) :
    (s.put x).get? id = if id = Managed.id x then some x else s.get? id :=
  SortedMap.get?_insert ..

/-- Where an identity was deleted nothing is found, and the same elsewhere. -/
theorem get?_delete (s : Store α) (id id' : String) :
    (s.delete id).get? id' = if id' = id then none else s.get? id' :=
  SortedMap.get?_erase ..

/-- An applied object is found under its identity unless it is marked, and then nothing is. -/
theorem get?_apply (s : Store α) (x : α) (id : String) :
    (s.apply x).get? id =
      if id = Managed.id x then (if Managed.marked x then none else some x) else s.get? id := by
  rw [apply]
  split
  · rw [get?_delete]
  · rw [get?_put]

end Store

end FirewallOperator
