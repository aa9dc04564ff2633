import FirewallOperator.Difference
import FirewallOperator.Proofs.Runs
import Mathlib.Data.List.Nodup
import Mathlib.Tactic.ByContra

/-! # Stores and their index

A store keeps its objects twice: by identity, and as an index of identities by owner.
`Store.Coherent` says that the two agree, and every operation keeps it. What the index gives is then
said by the objects alone (`Store.Coherent.mem_ownedBy`), and the objects after a row of operations
are those that were written last (`Store.get?_applyAll`). -/

namespace FirewallOperator

variable {α : Type}

namespace SortedMap

/-- A map from which a key was erased has the other keys. -/
theorem contains_erase {m : SortedMap α} {k k' : String} :
    (m.erase k).contains k' ↔ k' ≠ k ∧ m.contains k' := by
  rw [contains, get?_erase]
  by_cases h : k' = k <;> simp [contains, h]

/-- A map has no entries exactly when it has no keys. -/
theorem isEmpty_iff {m : SortedMap α} : m.isEmpty ↔ ∀ k, ¬ m.contains k := by
  constructor
  · intro h k
    rw [contains, get?, List.isEmpty_iff.1 h]
    simp
  · intro h
    refine List.isEmpty_iff.2 (List.eq_nil_iff_forall_not_mem.2 fun e he => ?_)
    exact h e.1 (by rw [contains, mem_entries_iff.1 he]; rfl)

/-- Sets with the same members are equal. -/
theorem ext_contains {s t : TextSet} (h : ∀ x, s.contains x ↔ t.contains x) : s = t := by
  refine ext_get? fun x => ?_
  have hx : (s.get? x).isSome = (t.get? x).isSome := Bool.eq_iff_iff.2 (h x)
  cases hs : s.get? x <;> cases ht : t.get? x <;> simp_all

end SortedMap

/-! ## The last object with an identity -/

namespace Difference

variable [Managed α]

/-- There is no last object among none. -/
@[simp] theorem lastWith_nil (id : String) : lastWith id ([] : List α) = none := rfl

/-- Later objects hide earlier ones. -/
theorem lastWith_append (id : String) (xs ys : List α) :
    lastWith id (xs ++ ys) = (lastWith id ys).or (lastWith id xs) := by
  rw [lastWith, List.reverse_append, List.find?_append]
  rfl

/-- A single object is the last one of its identity. -/
theorem lastWith_singleton (id : String) (x : α) :
    lastWith id [x] = if id = Managed.id x then some x else none := by
  by_cases h : id = Managed.id x
  · simp [lastWith, h]
  · simp [lastWith, h, Ne.symm h]

/-- The last object of an identity is among the later ones, or else it is the first. -/
theorem lastWith_cons (id : String) (x : α) (xs : List α) :
    lastWith id (x :: xs) =
      (lastWith id xs).or (if id = Managed.id x then some x else none) := by
  rw [← List.singleton_append, lastWith_append, lastWith_singleton]

/-- The last object of an identity is one of the objects, and has it. -/
theorem mem_of_lastWith {id : String} {xs : List α} {x : α} (h : lastWith id xs = some x) :
    x ∈ xs ∧ Managed.id x = id := by
  obtain ⟨hid, hmem⟩ := And.intro (List.find?_some h) (List.mem_of_find?_eq_some h)
  exact ⟨List.mem_reverse.1 hmem, by simpa using hid⟩

/-- There is no last object of an identity that none has. -/
theorem lastWith_eq_none {id : String} {xs : List α} :
    lastWith id xs = none ↔ ∀ x ∈ xs, Managed.id x ≠ id := by
  simp [lastWith]

/-- Among objects with different identities, the one with an identity is found. -/
theorem lastWith_of_mem {xs : List α} {x : α} (hn : (xs.map Managed.id).Nodup) (hx : x ∈ xs) :
    lastWith (Managed.id x) xs = some x := by
  cases h : lastWith (Managed.id x) xs with
  | none => exact absurd rfl (lastWith_eq_none.1 h x hx)
  | some y =>
    obtain ⟨hy, hid⟩ := mem_of_lastWith h
    rw [List.inj_on_of_nodup_map hn hy hx hid]

end Difference

namespace Store

open Difference (lastWith lastWith_nil lastWith_cons)

/-! ## The index -/

/-- The identities that an index has for an owner. -/
def under (index : SortedMap TextSet) (owner : String) : TextSet := (index.get? owner).getD .empty

/-- An index to which an identity is added has it under its owner, and what it had. -/
theorem contains_under_addTo {index : SortedMap TextSet} {owner id owner' id' : String} :
    (under (addTo index owner id) owner').contains id' ↔
      (owner' = owner ∧ id' = id) ∨ (under index owner').contains id' := by
  rw [under, addTo, SortedMap.get?_insert]
  by_cases h : owner' = owner
  · subst h
    simp [under, TextSet.contains_add]
  · simp [under, h]

/-- An index from which an identity is taken has what it had, but for this one under its owner. -/
theorem contains_under_takeFrom {index : SortedMap TextSet} {owner id owner' id' : String} :
    (under (takeFrom index owner id) owner').contains id' ↔
      ¬ (owner' = owner ∧ id' = id) ∧ (under index owner').contains id' := by
  rw [takeFrom]
  by_cases h : owner' = owner
  · subst h
    cases hids : index.get? owner' with
    | none => simp [under, hids, SortedMap.contains]
    | some ids =>
      simp only
      split
      case isTrue he =>
        -- the owner is dropped because no identity but `id` was left
        have hleft := SortedMap.isEmpty_iff.1 he id'
        rw [SortedMap.contains_erase] at hleft
        have hnone : under (index.erase owner') owner' = .empty := by simp [under]
        rw [hnone, under, hids]
        constructor
        · intro hc
          simp [SortedMap.contains] at hc
        · rintro ⟨hne, hc⟩
          exact absurd ⟨fun hid => hne ⟨trivial, hid⟩, hc⟩ hleft
      case isFalse =>
        simp [under, hids, SortedMap.contains_erase]
  · cases hids : index.get? owner with
    | none => simp [h]
    | some ids =>
      simp only
      split <;> simp [under, SortedMap.get?_erase, SortedMap.get?_insert, h]

/-- No owner of an index is without identities. -/
def Inhabited (index : SortedMap TextSet) : Prop :=
  ∀ {owner ids}, index.get? owner = some ids → ids.isEmpty = false

/-- An owner to whom an identity is added is not without one. -/
theorem inhabited_addTo {index : SortedMap TextSet} (h : Store.Inhabited index)
    (owner id : String) : Store.Inhabited (addTo index owner id) := by
  intro owner' ids hids
  rw [addTo, SortedMap.get?_insert] at hids
  split at hids
  · cases hids
    rw [Bool.eq_false_iff]
    intro he
    exact SortedMap.isEmpty_iff.1 he id (by simp [TextSet.contains_add])
  · exact h hids

/-- An owner from whom the last identity is taken vanishes. -/
theorem inhabited_takeFrom {index : SortedMap TextSet} (h : Store.Inhabited index)
    (owner id : String) : Store.Inhabited (takeFrom index owner id) := by
  rw [takeFrom]
  cases index.get? owner with
  | none => exact h
  | some ids =>
    simp only
    split
    · intro owner' ids' hids
      rw [SortedMap.get?_erase] at hids
      split at hids
      · cases hids
      · exact h hids
    case isFalse hne =>
      intro owner' ids' hids
      rw [SortedMap.get?_insert] at hids
      split at hids
      · cases hids
        simpa using hne
      · exact h hids

variable [Managed α]

/-- No owner is left without identities when an object is taken out of the index. -/
theorem inhabited_unindex {index : SortedMap TextSet} (h : Store.Inhabited index)
    (old : Option α) : Store.Inhabited (unindex index old) := by
  cases old with
  | none => exact h
  | some x =>
    rw [unindex]
    cases owner? x with
    | none => exact h
    | some owner => exact inhabited_takeFrom h _ _

/-- An index from which an object is taken out has what it had, but for this object under its owner.
-/
theorem contains_under_unindex {index : SortedMap TextSet} {old : Option α} {owner id : String} :
    (under (unindex index old) owner).contains id ↔
      (∀ x, old = some x → ¬ (owner? x = some owner ∧ id = Managed.id x)) ∧
        (under index owner).contains id := by
  cases old with
  | none => simp [unindex]
  | some x =>
    rw [unindex]
    cases hx : owner? x with
    | none => simp [hx]
    | some o =>
      simp only [contains_under_takeFrom, Option.some.injEq, forall_eq', hx, eq_comm (a := owner)]

/-- The objects are stored under their identities, and the index has exactly their owners. -/
structure Coherent (s : Store α) : Prop where
  keyed : ∀ {id x}, s.get? id = some x → Managed.id x = id
  listed : ∀ {owner id}, (under s.index owner).contains id ↔
    ∃ x, s.get? id = some x ∧ owner? x = some owner
  inhabited : Store.Inhabited s.index

/-- The empty store is coherent. -/
theorem coherent_empty : (empty : Store α).Coherent where
  keyed h := by cases h
  listed := by simp [under, empty, get?, SortedMap.contains]
  inhabited h := by cases h

/-- Storing an object keeps a store coherent: the index is left by an object that had another
owner. -/
theorem Coherent.put {s : Store α} (h : s.Coherent) (x : α) : (s.put x).Coherent where
  keyed {id y} hy := by
    rw [get?_put] at hy
    split at hy
    case isTrue hid =>
      cases hy
      exact hid.symm
    case isFalse => exact h.keyed hy
  listed {owner id} := by
    -- the index loses the identity of `x` only when the object stored there has another owner
    have hcleared : (under (unindex s.index ((s.get? (Managed.id x)).filter
        fun old => owner? old != owner? x)) owner).contains id ↔
        ∃ y, s.get? id = some y ∧ owner? y = some owner ∧
          (id = Managed.id x → owner? x = some owner) := by
      rw [contains_under_unindex, h.listed]
      constructor
      · rintro ⟨hout, y, hy, ho⟩
        refine ⟨y, hy, ho, fun hid => ?_⟩
        subst hid
        by_contra hne
        refine hout y ?_ ⟨ho, (h.keyed hy).symm⟩
        simp [hy, Option.filter, ho, Ne.symm hne]
      · rintro ⟨y, hy, ho, hx⟩
        refine ⟨fun old hold hclash => ?_, y, hy, ho⟩
        obtain ⟨hget, hdiff⟩ := Option.filter_eq_some_iff.1 hold
        have hid : id = Managed.id x := hclash.2.trans (h.keyed hget)
        simp [hclash.1, hx hid] at hdiff
    simp only [Store.put, get?, SortedMap.get?_insert] at hcleared ⊢
    cases hx : owner? x with
    | none =>
      rw [hx] at hcleared
      simp only [hcleared]
      by_cases hid : id = Managed.id x <;> simp [hid, hx]
    | some o =>
      rw [hx] at hcleared
      rw [contains_under_addTo, hcleared]
      by_cases hid : id = Managed.id x
      · simp only [hid, and_true, if_true, Option.some.injEq, exists_eq_left', hx, forall_const]
        constructor
        · rintro (rfl | ⟨y, _, _, rfl⟩) <;> rfl
        · exact fun ho => .inl ho.symm
      · simp [hid]
  inhabited := by
    simp only [Store.put]
    cases owner? x with
    | none => exact inhabited_unindex h.inhabited _
    | some o => exact inhabited_addTo (inhabited_unindex h.inhabited _) _ _

/-- Removing an object keeps a store coherent. -/
theorem Coherent.delete {s : Store α} (h : s.Coherent) (id : String) : (s.delete id).Coherent where
  keyed {id' y} hy := by
    rw [get?_delete] at hy
    split at hy
    · cases hy
    · exact h.keyed hy
  listed {owner id'} := by
    rw [get?_delete]
    simp only [Store.delete]
    rw [contains_under_unindex, h.listed]
    by_cases hid : id' = id
    · subst hid
      simp only [if_true, reduceCtorEq, false_and, exists_false, iff_false]
      rintro ⟨hout, y, hy, ho⟩
      exact hout y hy ⟨ho, (h.keyed hy).symm⟩
    · simp only [hid, if_false, and_iff_right_iff_imp]
      intro _ y hy hclash
      exact hid (hclash.2.trans (h.keyed hy))
  inhabited := inhabited_unindex h.inhabited _

/-- A store stays coherent when an object is applied to it. -/
theorem Coherent.apply {s : Store α} (h : s.Coherent) (x : α) : (s.apply x).Coherent := by
  rw [Store.apply]
  split
  · exact h.delete _
  · exact h.put x

/-- A store stays coherent when objects are put into it. -/
theorem Coherent.putAll {s : Store α} (h : s.Coherent) (xs : List α) : (s.putAll xs).Coherent := by
  induction xs generalizing s with
  | nil => exact h
  | cons x xs ih => exact ih (h.put x)

/-- A store stays coherent when objects are applied to it. -/
theorem Coherent.applyAll {s : Store α} (h : s.Coherent) (xs : List α) :
    (s.applyAll xs).Coherent := by
  induction xs generalizing s with
  | nil => exact h
  | cons x xs ih => exact ih (h.apply x)

/-! ## What the index gives -/

/-- What is stored is stored under its identity. -/
theorem Coherent.exists_get?_iff {s : Store α} (h : s.Coherent) {x : α} :
    (∃ id, s.get? id = some x) ↔ s.get? (Managed.id x) = some x := by
  constructor
  · rintro ⟨id, hx⟩
    rw [h.keyed hx]
    exact hx
  · intro hx
    exact ⟨_, hx⟩

omit [Managed α] in
/-- The index is followed from an owner to identities, and from there to objects. -/
theorem ownedBy_eq_filterMap (s : Store α) (owner : String) :
    s.ownedBy owner = (under s.index owner).keys.filterMap s.get? := by
  rw [ownedBy, under]
  cases s.index.get? owner <;> rfl

omit [Managed α] in
/-- The objects of an owner are stored. -/
theorem exists_of_mem_ownedBy {s : Store α} {owner : String} {x : α} (hx : x ∈ s.ownedBy owner) :
    ∃ id, s.get? id = some x := by
  rw [ownedBy] at hx
  split at hx
  · cases hx
  · obtain ⟨id, -, hid⟩ := List.mem_filterMap.1 hx
    exact ⟨id, hid⟩

/-- The objects of an owner are exactly the stored ones that name it. -/
theorem Coherent.mem_ownedBy {s : Store α} (h : s.Coherent) {owner : String} {x : α} :
    x ∈ s.ownedBy owner ↔ s.get? (Managed.id x) = some x ∧ owner? x = some owner := by
  have hmem : x ∈ s.ownedBy owner ↔ ∃ id, (under s.index owner).contains id ∧ s.get? id = some x := by
    rw [ownedBy, under]
    cases s.index.get? owner with
    | none => simp [SortedMap.contains]
    | some ids => simp [List.mem_filterMap, ← SortedMap.contains_iff_mem_keys]
  rw [hmem]
  constructor
  · rintro ⟨id, hlist, hx⟩
    obtain ⟨y, hy, ho⟩ := h.listed.1 hlist
    obtain rfl : y = x := Option.some.inj (hy.symm.trans hx)
    rw [h.keyed hx]
    exact ⟨hx, ho⟩
  · rintro ⟨hx, ho⟩
    exact ⟨_, h.listed.2 ⟨x, hx, ho⟩, hx⟩

/-- They are given in the order of their identities. -/
theorem Coherent.ids_ownedBy {s : Store α} (h : s.Coherent) (owner : String) :
    (s.ownedBy owner).map Managed.id = (under s.index owner).keys := by
  rw [ownedBy, under]
  cases hids : s.index.get? owner with
  | none => rfl
  | some ids =>
    have hall : ∀ id ∈ ids.keys, ∃ x, s.get? id = some x ∧ Managed.id x = id := by
      intro id hid
      have hlist : (under s.index owner).contains id := by
        rw [under, hids]
        exact SortedMap.contains_iff_mem_keys.2 hid
      obtain ⟨x, hx, -⟩ := h.listed.1 hlist
      exact ⟨x, hx, h.keyed hx⟩
    simp only [Option.getD_some]
    -- nothing is lost in look-up, as every identity that is listed is stored
    generalize ids.keys = keys at hall
    induction keys with
    | nil => rfl
    | cons id rest ih =>
      obtain ⟨x, hx, hid⟩ := hall id List.mem_cons_self
      rw [List.filterMap_cons_some hx, List.map_cons, hid,
        ih fun id' hid' => hall id' (List.mem_cons_of_mem _ hid')]

/-- The objects of an owner have different identities. -/
theorem Coherent.nodup_ownedBy {s : Store α} (h : s.Coherent) (owner : String) :
    ((s.ownedBy owner).map Managed.id).Nodup := by
  rw [h.ids_ownedBy]
  exact (SortedMap.keys_ordered _).imp fun hlt => String.ne_of_lt hlt

/-- The objects of an owner stand in the order of their identities. -/
theorem Coherent.ordered_ownedBy {s : Store α} (h : s.Coherent) (owner : String) :
    (s.ownedBy owner).Pairwise fun x y => Managed.id x < Managed.id y := by
  rw [← List.pairwise_map (R := (· < ·)), h.ids_ownedBy]
  exact SortedMap.keys_ordered _

/-- The owners of a store are those that have objects. -/
theorem Coherent.contains_owners {s : Store α} (hs : s.Coherent) {owner : String} :
    s.owners.contains owner ↔ s.ownedBy owner ≠ [] := by
  have hids : s.ownedBy owner ≠ [] ↔ (under s.index owner).keys ≠ [] := by
    rw [← hs.ids_ownedBy, ne_eq, ne_eq, List.map_eq_nil_iff]
  rw [hids, owners, TextSet.contains_ofList, under]
  simp only [List.contains_iff_mem, List.mem_map, List.mem_filter]
  constructor
  · rintro ⟨⟨owner', ids⟩, ⟨hentry, hsome⟩, rfl⟩
    rw [SortedMap.mem_entries_iff.1 hentry]
    simpa [SortedMap.isEmpty, SortedMap.keys] using hsome
  · intro hkeys
    cases hget : s.index.get? owner with
    | none =>
      rw [hget] at hkeys
      exact absurd rfl hkeys
    | some ids =>
      rw [hget] at hkeys
      refine ⟨(owner, ids), ⟨SortedMap.mem_entries_iff.2 hget, ?_⟩, rfl⟩
      simpa [SortedMap.isEmpty, SortedMap.keys] using hkeys

/-! ## Objects after a row of operations -/

/-- The object that was stored last is there. -/
theorem get?_putAll (s : Store α) (xs : List α) (id : String) :
    (s.putAll xs).get? id = (lastWith id xs).or (s.get? id) := by
  induction xs generalizing s with
  | nil => rfl
  | cons x xs ih =>
    rw [putAll, List.foldl_cons, ← putAll, ih, lastWith_cons, get?_put]
    cases lastWith id xs <;> by_cases hid : id = Managed.id x <;> simp [hid]

/-- In a store that was empty the last object with an identity is there. -/
theorem get?_putAll_empty (xs : List α) (id : String) :
    ((empty : Store α).putAll xs).get? id = lastWith id xs := by
  have hempty : (empty : Store α).get? id = none := rfl
  rw [get?_putAll, hempty, Option.or_none]

/-- The object that was applied last is there, unless it was a removal. -/
theorem get?_applyAll (s : Store α) (xs : List α) (id : String) :
    (s.applyAll xs).get? id =
      match lastWith id xs with
      | none => s.get? id
      | some x => if Managed.marked x then none else some x := by
  induction xs generalizing s with
  | nil => rfl
  | cons x xs ih =>
    rw [applyAll, List.foldl_cons, ← applyAll, ih, lastWith_cons, get?_apply]
    cases lastWith id xs <;> by_cases hid : id = Managed.id x <;> simp [hid]

end Store

end FirewallOperator
