import FirewallOperator.Object.Managed

/-! # Differences between what exists and what is wanted

Objects are matched by identity and compared by fingerprint. A `Difference` keeps the wanted objects
that are new or different, and the existing objects that are not wanted. `Difference.writes` puts
them in the order in which a patch lists them: removals first, last found first. -/

namespace FirewallOperator

variable {α : Type}

/-- What has to be written to get from existing to wanted objects. -/
structure Difference (α : Type) where
  /-- Wanted objects that are new or differ from what exists, in wanted order. -/
  changed : List α
  /-- Existing objects that are not wanted, in existing order. -/
  stale : List α
  deriving DecidableEq, Repr

namespace Difference

/-- Whether there is nothing to write. -/
def isEmpty (d : Difference α) : Bool := d.changed.isEmpty && d.stale.isEmpty

variable [Managed α]

/-- Whether a wanted object has to be written, given the existing one with its identity. -/
def differs (existing : Option α) (wanted : α) : Bool :=
  match existing with
  | none => true
  | some x => fingerprint x != fingerprint wanted

/-- The last of the objects with an identity. -/
def lastWith (id : String) (xs : List α) : Option α := xs.reverse.find? fun x => Managed.id x == id

/-- The difference between existing and wanted objects. -/
def between (existing wanted : List α) : Difference α where
  changed := wanted.filter fun x => differs (lastWith (Managed.id x) existing) x
  stale := existing.filter fun x => !wanted.any fun w => Managed.id w == Managed.id x

/-- Removal requests for objects, in reverse order. -/
def removals (xs : List α) : List α := xs.reverse.map (Managed.setMarked true)

/-- The objects to write: removals, then changes. -/
def writes (d : Difference α) : List α := removals d.stale ++ d.changed

/-- No objects need no removals. -/
@[simp] theorem removals_nil : removals ([] : List α) = [] := rfl

/-- There is one removal for each object. -/
@[simp] theorem length_removals (xs : List α) : (removals xs).length = xs.length := by
  simp [removals]

/-- Removals come in the reverse order of the objects. -/
theorem ids_removals (xs : List α) :
    (removals xs).map Managed.id = (xs.map Managed.id).reverse := by
  simp [removals, List.map_reverse]

/-- Every removal request is marked. -/
theorem marked_of_mem_removals {xs : List α} {x : α} (h : x ∈ removals xs) :
    Managed.marked x = true := by
  obtain ⟨y, -, rfl⟩ := List.mem_map.1 h
  simp

/-- An object that exists unchanged is not written. -/
theorem differs_self (x : α) : differs (some x) x = false := by simp [differs]

end Difference

end FirewallOperator
