import FirewallOperator.Proofs.Provenance
import Mathlib.Data.List.Forall2

/-! # Objects that are listed again

Between two listings the backend is free to give an object another revision, and to put its tags in
another order. The plain form of an object has neither, so objects with the same plain form differ
in nothing else (`plain_eq_iff`). Objects are `Alike` when they also name the same owner: of several
tags under the owner's scope the first counts, so their order can matter in general, but it does not
for objects that were built.

All that the service asks of its stores has the same answer for stores that hold alike objects,
`Store.Resembles`, and so have all differences that it works out from the answers. A store filled
from a listing of built objects resembles the one that they were listed for
(`Store.Coherent.resembles_putAll`). -/

namespace FirewallOperator

open List (Forall₂)

/-! ## Plain forms -/

/-- Managed objects of which the revision and the tags can be replaced. -/
class Relistable (α : Type) extends Managed α where
  revision : α → Option Int64
  /-- The object with a revision and tags in place of its own. -/
  relisted : Option Int64 → List Tag → α → α
  relisted_self : ∀ x, relisted (revision x) (tags x) x = x := by intros; rfl
  relisted_relisted : ∀ r ts r' ts' x, relisted r ts (relisted r' ts' x) = relisted r ts x := by
    intros; rfl
  id_relisted : ∀ r ts x, id (relisted r ts x) = id x := by intros; rfl
  marked_relisted : ∀ r ts x, marked (relisted r ts x) = marked x := by intros; rfl
  tags_relisted : ∀ r ts x, tags (relisted r ts x) = ts := by intros; rfl
  setMarked_relisted : ∀ b r ts x,
    setMarked b (relisted r ts x) = relisted r ts (setMarked b x) := by intros; rfl
  functionText_relisted : ∀ r ts x, ts.Perm (tags x) →
    functionText (relisted r ts x) = functionText x

instance : Relistable Policy where
  revision := Policy.revision
  relisted r ts p := { p with revision := r, tags := ts }
  functionText_relisted r ts p h := by
    show Policy.functionText { p with revision := r, tags := ts } = p.functionText
    refine (Policy.functionText_eq_iff ?_).2 ⟨rfl, rfl, rfl, h⟩
    rfl

instance : Relistable Rule where
  revision := Rule.revision
  relisted r ts x := { x with revision := r, tags := ts }
  functionText_relisted r ts x h := by
    show Rule.functionText { x with revision := r, tags := ts } = x.functionText
    refine (Rule.functionText_eq_iff ?_).2 ⟨rfl, rfl, rfl, rfl, rfl, rfl, rfl, rfl, h⟩
    rfl

instance : Relistable Group where
  revision := Group.revision
  relisted r ts g := { g with revision := r, tags := ts }
  functionText_relisted r ts g h := by
    show Group.functionText { g with revision := r, tags := ts } = g.functionText
    refine (Group.functionText_eq_iff ?_).2 ⟨rfl, rfl, h⟩
    rfl

section Objects

variable {α : Type} [Relistable α] {x y : α}

/-- The object without a revision, and with its tags in order. -/
def plain (x : α) : α := Relistable.relisted none (Tag.sorted (Managed.tags x)) x

/-- Objects with the same plain form differ in revision and in the order of tags only. -/
theorem plain_eq_iff : plain x = plain y ↔
    (Managed.tags x).Perm (Managed.tags y) ∧
      y = Relistable.relisted (Relistable.revision y) (Managed.tags y) x := by
  constructor
  · intro h
    have htags := congrArg Managed.tags h
    rw [plain, plain, Relistable.tags_relisted, Relistable.tags_relisted] at htags
    refine ⟨Tag.sorted_eq_iff_perm.1 htags, ?_⟩
    have hback := congrArg (Relistable.relisted (Relistable.revision y) (Managed.tags y)) h
    rw [plain, plain, Relistable.relisted_relisted, Relistable.relisted_relisted,
      Relistable.relisted_self] at hback
    exact hback.symm
  · rintro ⟨htags, hy⟩
    rw [plain, plain, Tag.sorted_eq_iff_perm.2 htags]
    conv_rhs => arg 3; rw [hy]
    rw [Relistable.relisted_relisted]

/-- The plain form of an object keeps its identity. -/
@[simp] theorem id_plain (x : α) : Managed.id (plain x) = Managed.id x :=
  Relistable.id_relisted _ _ x

/-- The plain form of an object keeps its mark. -/
@[simp] theorem marked_plain (x : α) : Managed.marked (plain x) = Managed.marked x :=
  Relistable.marked_relisted _ _ x

/-- The plain form of an object keeps its fingerprint. -/
@[simp] theorem fingerprint_plain (x : α) : fingerprint (plain x) = fingerprint x :=
  congrArg digest (Relistable.functionText_relisted _ _ x (Tag.sorted_perm _))

/-- It makes no difference whether an object is marked before or after it is made plain. -/
theorem plain_setMarked (b : Bool) (x : α) :
    plain (Managed.setMarked b x) = Managed.setMarked b (plain x) := by
  rw [plain, plain, Relistable.setMarked_relisted, Managed.tags_setMarked]

/-! ## Alike objects -/

/-- Objects that differ in revision and in the order of tags only, and name the same owner. -/
structure Alike (x y : α) : Prop where
  plain : plain x = plain y
  owner : owner? x = owner? y

namespace Alike

/-- An object is like itself. -/
theorem refl (x : α) : Alike x x := ⟨rfl, rfl⟩

/-- Alike objects have one identity. -/
theorem id (h : Alike x y) : Managed.id x = Managed.id y := by
  rw [← id_plain, h.plain, id_plain]

/-- Alike objects are marked alike. -/
theorem marked (h : Alike x y) : Managed.marked x = Managed.marked y := by
  rw [← marked_plain, h.plain, marked_plain]

/-- Alike objects have one fingerprint. -/
theorem fingerprint (h : Alike x y) : fingerprint x = FirewallOperator.fingerprint y := by
  rw [← fingerprint_plain, h.plain, fingerprint_plain]

/-- Alike objects stay alike when they are marked. -/
theorem setMarked (h : Alike x y) (b : Bool) :
    Alike (Managed.setMarked b x) (Managed.setMarked b y) where
  plain := by rw [plain_setMarked, plain_setMarked, h.plain]
  owner := by rw [owner?_setMarked, owner?_setMarked, h.owner]

/-- The tags of an origin name its owner in any order. -/
theorem of_origin {o : Origin} (hx : Managed.tags x = o.tags)
    (h : FirewallOperator.plain x = FirewallOperator.plain y) : Alike x y where
  plain := h
  owner := by
    have hperm := (plain_eq_iff.1 h).1
    rw [hx] at hperm
    rw [owner?, owner?, hx, Origin.owner?_tags, Origin.owner?_of_perm hperm.symm]

end Alike

variable {xs ys : List α}

/-- Objects are like themselves one by one. -/
theorem forall₂_alike_refl (xs : List α) : Forall₂ Alike xs xs :=
  List.forall₂_same.2 fun x _ => .refl x

/-- Alike objects have the same plain forms, one by one. -/
theorem map_plain_eq (h : Forall₂ Alike xs ys) : xs.map plain = ys.map plain := by
  rw [← List.forall₂_eq_eq_eq, List.forall₂_map_left_iff, List.forall₂_map_right_iff]
  exact h.imp fun _ _ hxy => hxy.plain

/-! ## Differences -/

namespace Difference

/-- A choice between alike objects, or none, has alike outcomes. -/
theorem or_alike {a b c d : Option α} (hab : Option.Rel Alike a b) (hcd : Option.Rel Alike c d) :
    Option.Rel Alike (a.or c) (b.or d) := by
  cases hab with
  | some h => exact .some h
  | none => exact hcd

/-- Among alike objects, the last ones of an identity are alike. -/
theorem lastWith_alike (h : Forall₂ Alike xs ys) (id : String) :
    Option.Rel Alike (lastWith id xs) (lastWith id ys) := by
  induction h with
  | nil => exact .none
  | cons hxy _ ih =>
    rw [lastWith_cons, lastWith_cons, hxy.id]
    refine or_alike ih ?_
    split
    · exact .some hxy
    · exact .none

/-- What is wanted differs from both of two alike objects, or from neither. -/
theorem differs_alike {old old' : Option α} (h : Option.Rel Alike old old') (wanted : α) :
    differs old wanted = differs old' wanted := by
  cases h with
  | none => rfl
  | some hxy => rw [differs, differs, hxy.fingerprint]

/-- What has to be written does not depend on which of two alike rows exists. -/
theorem between_alike (h : Forall₂ Alike xs ys) (wanted : List α) :
    (between xs wanted).changed = (between ys wanted).changed ∧
      Forall₂ Alike (between xs wanted).stale (between ys wanted).stale := by
  constructor
  · exact List.filter_congr fun w _ => differs_alike (lastWith_alike h _) w
  · refine List.rel_filter (fun x y hxy => ?_) h
    simp only [hxy.id]

/-- Nothing differs from alike objects for both, or for neither. -/
theorem isEmpty_alike (h : Forall₂ Alike xs ys) (wanted : List α) :
    (between xs wanted).isEmpty = (between ys wanted).isEmpty := by
  obtain ⟨hchanged, hstale⟩ := between_alike h wanted
  rw [isEmpty, isEmpty, hchanged]
  generalize (between xs wanted).stale = stale, (between ys wanted).stale = stale' at hstale ⊢
  cases hstale <;> rfl

/-- Alike objects are removed by alike objects. -/
theorem removals_alike (h : Forall₂ Alike xs ys) : Forall₂ Alike (removals xs) (removals ys) :=
  List.rel_map (fun _ _ hxy => hxy.setMarked true) (List.rel_reverse h)

/-- Alike objects are brought to what is wanted by alike writes. -/
theorem writes_alike (h : Forall₂ Alike xs ys) (wanted : List α) :
    Forall₂ Alike (between xs wanted).writes (between ys wanted).writes := by
  obtain ⟨hchanged, hstale⟩ := between_alike h wanted
  rw [writes, writes, hchanged]
  exact List.rel_append (removals_alike hstale) (forall₂_alike_refl _)

end Difference

/-- What was built, with what is stored besides, is alike if the stored objects are. -/
theorem Change.withStored_alike (h : Forall₂ Alike xs ys) (built : List α) :
    Forall₂ Alike (withStored built xs) (withStored built ys) := by
  refine List.rel_append (forall₂_alike_refl _) (List.rel_filter (fun x y hxy => ?_) h)
  simp only [hxy.id]

/-! ## Stores -/

namespace Store

variable {s t : Store α}

/-- Stores that have alike objects under the same identities, and agree with their indexes. -/
structure Resembles (s t : Store α) : Prop where
  left : s.Coherent
  right : t.Coherent
  alike : ∀ id, Option.Rel Alike (s.get? id) (t.get? id)

namespace Resembles

/-- Stores that resemble each other still do when one object is put into both. -/
theorem put (h : s.Resembles t) (x : α) : (s.put x).Resembles (t.put x) where
  left := h.left.put x
  right := h.right.put x
  alike id := by
    rw [get?_put, get?_put]
    split
    · exact .some (.refl x)
    · exact h.alike id

/-- Stores that resemble each other still do when alike objects are applied to them. -/
theorem applyAll (h : s.Resembles t) (hxs : Forall₂ Alike xs ys) :
    (s.applyAll xs).Resembles (t.applyAll ys) where
  left := h.left.applyAll xs
  right := h.right.applyAll ys
  alike id := by
    have hlast := Difference.lastWith_alike hxs id
    rw [get?_applyAll, get?_applyAll]
    generalize Difference.lastWith id xs = x, Difference.lastWith id ys = y at hlast ⊢
    cases hlast with
    | none => exact h.alike id
    | some hxy =>
      simp only [hxy.marked]
      split
      · exact .none
      · exact .some hxy

/-- Stores that resemble each other still do when two alike objects are applied to them. -/
theorem apply (h : s.Resembles t) (hxy : Alike x y) : (s.apply x).Resembles (t.apply y) :=
  h.applyAll (.cons hxy .nil)

/-- The index has the same identities for each owner. -/
theorem under_index (h : s.Resembles t) (owner : String) :
    under s.index owner = under t.index owner := by
  refine SortedMap.ext_contains fun id => ?_
  have hid := h.alike id
  rw [h.left.listed, h.right.listed]
  generalize s.get? id = x, t.get? id = y at hid ⊢
  cases hid with
  | none => rfl
  | some hxy => simp [hxy.owner]

/-- Stores that resemble each other have alike objects of each owner. -/
theorem ownedBy (h : s.Resembles t) (owner : String) :
    Forall₂ Alike (s.ownedBy owner) (t.ownedBy owner) := by
  rw [ownedBy_eq_filterMap, ownedBy_eq_filterMap, h.under_index]
  refine List.rel_filterMap (R := Eq) (fun id id' hid => ?_) (List.forall₂_refl _)
  exact hid ▸ h.alike id

/-- Stores that resemble each other have the same owners. -/
theorem contains_owners (h : s.Resembles t) (owner : String) :
    s.owners.contains owner ↔ t.owners.contains owner := by
  have howned := h.ownedBy owner
  rw [h.left.contains_owners, h.right.contains_owners]
  generalize s.ownedBy owner = xs, t.ownedBy owner = ys at howned ⊢
  cases howned <;> simp

end Resembles

/-! ## Listings of stored objects -/

/-- An object is in a coherent store if it is found under its identity. -/
theorem Coherent.mem_values (hs : s.Coherent) :
    x ∈ s.objects.values ↔ s.get? (Managed.id x) = some x := by
  rw [← hs.exists_get?_iff, SortedMap.values, List.mem_map]
  constructor
  · rintro ⟨⟨id, x⟩, he, rfl⟩
    exact ⟨id, SortedMap.mem_entries_iff.1 he⟩
  · rintro ⟨id, hget⟩
    exact ⟨(id, x), SortedMap.mem_entries_iff.2 hget, rfl⟩

/-- The stored objects have different identities. -/
theorem Coherent.nodup_values (hs : s.Coherent) :
    (s.objects.values.map Managed.id).Nodup := by
  have hkeys : s.objects.values.map Managed.id = s.objects.keys := by
    rw [SortedMap.values, List.map_map]
    exact List.map_congr_left fun e he => hs.keyed (SortedMap.mem_entries_iff.1 he)
  rw [hkeys]
  exact s.objects.keys_ordered.imp fun hlt => String.ne_of_lt hlt

/-- A listing of the stored objects, in any order and each with any revision and its tags in any
order, fills a store that resembles the one they were in, when their tags are those of origins. -/
theorem Coherent.resembles_putAll (hs : s.Coherent)
    (htags : ∀ {id x}, s.get? id = some x → ∃ o : Origin, Managed.tags x = o.tags)
    (hxs : (xs.map plain).Perm (s.objects.values.map plain)) :
    s.Resembles ((empty : Store α).putAll xs) := by
  have hids : (xs.map Managed.id).Nodup := by
    have hperm := hxs.map Managed.id
    simp only [List.map_map, Function.comp_def, id_plain] at hperm
    exact hperm.nodup_iff.2 hs.nodup_values
  refine ⟨hs, coherent_empty.putAll xs, fun id => ?_⟩
  rw [get?_putAll_empty]
  cases hx : s.get? id with
  | some x =>
    have hid := hs.keyed hx
    have hvalue : x ∈ s.objects.values := hs.mem_values.2 (hid.symm ▸ hx)
    obtain ⟨y, hy, hplain⟩ := List.mem_map.1 (hxs.mem_iff.2 (List.mem_map_of_mem hvalue))
    obtain ⟨o, ho⟩ := htags hx
    have halike : Alike x y := .of_origin ho hplain.symm
    rw [← hid, halike.id, Difference.lastWith_of_mem hids hy]
    exact .some halike
  | none =>
    -- a listed object would be a stored one
    have hnone : Difference.lastWith id xs = none := by
      refine Difference.lastWith_eq_none.2 fun y hy hid => ?_
      obtain ⟨x, hvalue, hplain⟩ := List.mem_map.1 (hxs.mem_iff.1 (List.mem_map_of_mem hy))
      have hsame : Managed.id x = id := by rw [← id_plain, hplain, id_plain, hid]
      rw [hs.mem_values, hsame, hx] at hvalue
      cases hvalue
    rw [hnone]
    exact .none

end Store

end Objects

/-! ## Inventories -/

namespace Inventory

variable {m n : Inventory} {b : Builder} {rs : Set Resource}

/-- Inventories of which each kind is alike. -/
structure Resembles (m n : Inventory) : Prop where
  policies : m.policies.Resembles n.policies
  rules : m.rules.Resembles n.rules
  groups : m.groups.Resembles n.groups

/-- Inventories that resemble each other have the same owners. -/
theorem Resembles.owners (h : m.Resembles n) : m.owners = n.owners := by
  refine SortedMap.ext_contains fun owner => ?_
  rw [Inventory.owners, Inventory.owners, TextSet.contains_union, TextSet.contains_union,
    Bool.or_eq_true, Bool.or_eq_true, h.policies.contains_owners, h.groups.contains_owners]

/-- A built object has the tags of an origin. -/
theorem BuiltFrom.exists_origin (h : m.BuiltFrom b rs) :
    (∀ {id p}, m.policies.get? id = some p → ∃ o : Origin, p.tags = o.tags) ∧
      (∀ {id x}, m.rules.get? id = some x → ∃ o : Origin, x.tags = o.tags) ∧
      ∀ {id g}, m.groups.get? id = some g → ∃ o : Origin, g.tags = o.tags := by
  refine ⟨fun hp => ?_, fun hx => ?_, fun hg => ?_⟩
  · obtain ⟨r, -, built, hb, rfl⟩ := h.policies hp
    obtain ⟨o, -, hbuilt⟩ := Builder.build_eq_ok hb
    exact ⟨o, (Origin.tags_of_objects hbuilt).1⟩
  · obtain ⟨r, -, built, hb, hx⟩ := h.rules hx
    obtain ⟨o, -, hbuilt⟩ := Builder.build_eq_ok hb
    exact ⟨o, (Origin.tags_of_objects hbuilt).2.1 _ hx⟩
  · obtain ⟨r, -, built, hb, hg⟩ := h.groups hg
    obtain ⟨o, -, hbuilt⟩ := Builder.build_eq_ok hb
    exact ⟨o, (Origin.tags_of_objects hbuilt).2.2 _ hg⟩

end Inventory

/-- Listings that arrive, and show exactly what an inventory has: in any order, and each object with
any revision and its tags in any order. A policy may be shown with its rules. -/
structure Arrivals.Relists (a : Arrivals) (m : Inventory) : Prop where
  faultless : (a.sync .empty).2 = none
  policies : (a.policies.objects.map fun p => plain p.withoutRules).Perm
    (m.policies.objects.values.map plain)
  rules : (a.rules.objects.map plain).Perm (m.rules.objects.values.map plain)
  groups : (a.groups.objects.map plain).Perm (m.groups.objects.values.map plain)

/-- A service that is filled from listings of an inventory of built objects resembles the one that
had the inventory. -/
theorem Inventory.BuiltFrom.resembles_sync {m : Inventory} {b : Builder} {rs : Set Resource}
    {a : Arrivals} (h : m.BuiltFrom b rs) (hm : m.Coherent) (ha : a.Relists m) :
    m.Resembles (a.sync .empty).1 := by
  obtain ⟨hpolicies, hrules, hgroups⟩ := h.exists_origin
  rw [Arrivals.sync_eq_filled ha.faultless]
  refine ⟨hm.policies.resembles_putAll hpolicies ?_, hm.rules.resembles_putAll hrules ha.rules,
    hm.groups.resembles_putAll hgroups ha.groups⟩
  rw [List.map_map]
  exact ha.policies

end FirewallOperator
