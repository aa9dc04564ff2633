import FirewallOperator.Proofs.Stores
import Mathlib.Data.Set.Card

/-! # A store is a map with an index

Callers use a store as if it were a plain map from identities to objects, of which some look-ups
happen to go by owner. `Store.Refines` says what this means: every look-up of the store is one of
the map, and the index has nothing that the map does not account for. `Store.performAll_refines`
shows it after any row of actions, whatever the objects do to their identities and owners on the
way. -/

namespace FirewallOperator

namespace Store

/-- What can be done to a store. -/
inductive Action (α : Type) where
  /-- Stores an object in place of one with the same identity. -/
  | put (x : α)
  /-- Removes the object with an identity. -/
  | delete (id : String)
  /-- Removes an object that is marked, and stores any other. -/
  | apply (x : α)

variable {α : Type} [Managed α]

/-- The store after an action. -/
def perform (s : Store α) : Action α → Store α
  | .put x => s.put x
  | .delete id => s.delete id
  | .apply x => s.apply x

/-- The store after actions, one after the other. -/
def performAll (s : Store α) (actions : List (Action α)) : Store α := actions.foldl perform s

/-- What an action does to a plain map. -/
def Action.onMap (m : String → Option α) : Action α → String → Option α
  | .put x => Function.update m (Managed.id x) (some x)
  | .delete id => Function.update m id none
  | .apply x => Function.update m (Managed.id x) (if Managed.marked x then none else some x)

/-- A store does what a plain map does, and finds the objects of an owner besides. -/
structure Refines (s : Store α) (m : String → Option α) : Prop where
  /-- Objects are found by identity. -/
  get?_eq : ∀ id, s.get? id = m id
  /-- The size is the number of identities in use. -/
  size_eq : {id | (m id).isSome}.encard = s.size
  /-- The objects of an owner are those that name it. -/
  mem_ownedBy : ∀ owner x, x ∈ s.ownedBy owner ↔ (∃ id, m id = some x) ∧ owner? x = some owner
  /-- They are listed by increasing identity, so none of them comes twice. -/
  ordered : ∀ owner, (s.ownedBy owner).Pairwise fun x y => Managed.id x < Managed.id y
  /-- The owners are those that an object names. -/
  owners : ∀ owner, s.owners.contains owner ↔ ∃ id x, m id = some x ∧ owner? x = some owner
  /-- No owner is kept in the index without identities. -/
  inhabited : ∀ owner ids, s.index.get? owner = some ids → ids.isEmpty = false
  /-- An identity is kept in the index under the owner that its object names, and no other. -/
  indexed : ∀ owner ids id, s.index.get? owner = some ids → ids.contains id →
    ∃ x, m id = some x ∧ owner? x = some owner

variable {s : Store α} {m : String → Option α}

/-! ## One action -/

/-- A store stays coherent by an action. -/
theorem Coherent.perform (h : s.Coherent) (action : Action α) : (s.perform action).Coherent := by
  cases action with
  | put x => exact h.put x
  | delete id => exact h.delete id
  | apply x => exact h.apply x

/-- An action does to the objects what it does to a map of them. -/
theorem get?_perform (h : s.get? = m) (action : Action α) :
    (s.perform action).get? = action.onMap m := by
  funext id
  cases action with
  | put x =>
    show (s.put x).get? id = Function.update m (Managed.id x) (some x) id
    rw [get?_put, h, Function.update_apply]
  | delete id' =>
    show (s.delete id').get? id = Function.update m id' none id
    rw [get?_delete, h, Function.update_apply]
  | apply x =>
    show (s.apply x).get? id = Function.update m (Managed.id x) _ id
    rw [get?_apply, h, Function.update_apply]

/-! ## Look-ups of a coherent store -/

omit [Managed α] in
/-- A store has as many objects as identities that find one. -/
theorem encard_identities (s : Store α) : {id | (s.get? id).isSome}.encard = s.size := by
  have hkeys : {id | (s.get? id).isSome} = (s.objects.keys.toFinset : Set String) := by
    ext id
    rw [Set.mem_ofPred_eq, Finset.mem_coe, List.mem_toFinset, SortedMap.mem_keys_iff]
    rfl
  have hnodup : s.objects.keys.Nodup :=
    s.objects.keys_ordered.imp fun hlt => String.ne_of_lt hlt
  rw [hkeys, Set.encard_coe_eq_coe_finsetCard, List.toFinset_card_of_nodup hnodup]
  exact congrArg Nat.cast (List.length_map _)

/-- A coherent store refines the map of its objects. -/
theorem Coherent.refines (h : s.Coherent) : s.Refines s.get? where
  get?_eq _ := rfl
  size_eq := s.encard_identities
  mem_ownedBy owner x := by rw [h.mem_ownedBy, h.exists_get?_iff]
  ordered := h.ordered_ownedBy
  owners owner := by
    rw [h.contains_owners]
    constructor
    · intro hne
      obtain ⟨x, hx⟩ := List.exists_mem_of_ne_nil _ hne
      obtain ⟨hget, howner⟩ := h.mem_ownedBy.1 hx
      exact ⟨_, x, hget, howner⟩
    · rintro ⟨id, x, hget, howner⟩
      exact List.ne_nil_of_mem (h.mem_ownedBy.2 ⟨h.exists_get?_iff.1 ⟨id, hget⟩, howner⟩)
  inhabited _ _ := h.inhabited
  indexed owner ids id hids hid := by
    refine h.listed.1 ?_
    rw [under, hids]
    exact hid

/-! ## Rows of actions -/

/-- A store stays coherent by actions. -/
theorem Coherent.performAll (h : s.Coherent) (actions : List (Action α)) :
    (s.performAll actions).Coherent := by
  induction actions generalizing s with
  | nil => exact h
  | cons action rest ih => exact ih (h.perform action)

/-- Actions do to a store what they do to the plain map. -/
theorem get?_performAll (h : s.get? = m) (actions : List (Action α)) :
    (s.performAll actions).get? = actions.foldl Action.onMap m := by
  induction actions generalizing s m with
  | nil => exact h
  | cons action rest ih => exact ih (get?_perform h action)

/-- **Refinement.** After any row of actions on an empty store, every look-up gives what the plain
map gives to which the same was done, and the index has exactly the owners of its objects. -/
theorem performAll_refines (actions : List (Action α)) :
    (performAll .empty actions).Refines (actions.foldl Action.onMap fun _ => none) := by
  have hget : (performAll .empty actions).get? = actions.foldl Action.onMap fun _ => none :=
    get?_performAll rfl actions
  rw [← hget]
  exact (coherent_empty.performAll actions).refines

end Store

end FirewallOperator
