import FirewallOperator.Proofs.FunctionTexts
import FirewallOperator.Proofs.Removals
import Mathlib.Data.Set.Function

/-! # Owners do not touch each other's objects

Objects are found again by identities that are made from their owner's uid, and by the owner that
their tags name. A store is `Store.WellOwned` when the two agree. `Builder.jobs_isolated` says that
jobs keep inventories so, and that a job about one owner sends only that owner's objects and leaves
everything that the inventory has of another owner. `Builder.serveAll_sameOf` says the latter of
rows of jobs.

This needs uids without an underscore, as the identities of different such uids are different
(`InFamily.uid_unique`), and coherent inventories, as all that are reached are. -/

namespace FirewallOperator

open Operation

/-! ## Families of identities -/

/-- The identities of the objects that are built for a uid. -/
inductive InFamily (uid : String) : Kind → String → Prop
  | policy : InFamily uid .policy (policyId uid)
  | rule (index : Nat) : InFamily uid .rule (ruleId uid index)
  | group (role : GroupRole) : InFamily uid .group (role.id uid)

namespace InFamily

variable {u v id : String} {k l : Kind}

/-- Where an identity goes on behind the uid, it does so with an underscore. -/
theorem exists_rest (h : InFamily u k id) :
    ∃ rest : String, id = "sp_" ++ (u ++ rest) ∧ ∀ c ∈ rest.toList.head?, c = '_' := by
  have hrule : ∀ (index : Nat) (suffix : String),
      ruleId u index ++ suffix = "sp_" ++ (u ++ ("_" ++ (toString index ++ suffix))) := by
    intro index suffix
    simp only [ruleId, policyId, String.append_assoc]
  cases h with
  | policy => exact ⟨"", by rw [String.append_empty, policyId], by simp⟩
  | rule index =>
    refine ⟨"_" ++ (toString index ++ ""), ?_, by simp⟩
    rw [← hrule, String.append_empty]
  | group role =>
    cases role with
    | policyScope =>
      refine ⟨"_scope", ?_, by simp⟩
      simp only [GroupRole.id, scopeGroupId, policyId, String.append_assoc]
    | ruleScope index => exact ⟨_, hrule index "_scope", by simp⟩
    | source index => exact ⟨_, hrule index "_src", by simp⟩
    | destination index => exact ⟨_, hrule index "_dst", by simp⟩

/-- An identity has one uid, among those without an underscore. -/
theorem uid_unique (hu : '_' ∉ u.toList) (hv : '_' ∉ v.toList) (h : InFamily u k id)
    (h' : InFamily v l id) : u = v := by
  obtain ⟨rest, hid, hrest⟩ := h.exists_rest
  obtain ⟨rest', hid', hrest'⟩ := h'.exists_rest
  have heq : u ++ rest = v ++ rest' := (String.append_right_inj "sp_").1 (hid.symm.trans hid')
  exact (eq_of_append_stop hu hv hrest hrest' heq).1

end InFamily

/-! ## Objects of an owner -/

section Objects

variable {α : Type} [Managed α] {uid u v : String}

/-- An object of an owner, under an identity of the owner's family. -/
structure OfOwner (uid : String) (x : α) : Prop where
  owned : owner? x = some uid
  familiar : InFamily uid (Managed.kind α) (Managed.id x)

/-- An object stays its owner's when it is marked. -/
theorem OfOwner.setMarked {x : α} (h : OfOwner uid x) (b : Bool) :
    OfOwner uid (Managed.setMarked b x) where
  owned := (owner?_setMarked b x).trans h.owned
  familiar := (Managed.id_setMarked b x).symm ▸ h.familiar

/-- What an owner's objects are removed by is the owner's. -/
theorem ofOwner_removals {xs : List α} (h : ∀ x ∈ xs, OfOwner uid x) :
    ∀ x ∈ Difference.removals xs, OfOwner uid x := by
  intro x hx
  obtain ⟨y, hy, rfl⟩ := List.mem_map.1 hx
  exact (h y (List.mem_reverse.1 hy)).setMarked true

/-- What is written to get from objects of an owner to others of the same is the owner's. -/
theorem ofOwner_writes {existing wanted : List α} (he : ∀ x ∈ existing, OfOwner uid x)
    (hw : ∀ x ∈ wanted, OfOwner uid x) :
    ∀ x ∈ (Difference.between existing wanted).writes, OfOwner uid x := by
  intro x hx
  rcases List.mem_append.1 hx with hx | hx
  · exact ofOwner_removals (fun y hy => he y (Difference.mem_stale.1 hy).1) x hx
  · exact hw x (Difference.mem_changed.1 hx).1

/-- What is built for an owner, with what is stored of it besides, is the owner's. -/
theorem ofOwner_withStored {built stored : List α} (hb : ∀ x ∈ built, OfOwner uid x)
    (hs : ∀ x ∈ stored, OfOwner uid x) : ∀ x ∈ Change.withStored built stored, OfOwner uid x := by
  intro x hx
  rcases List.mem_append.1 hx with hx | hx
  · exact hb x hx
  · exact hs x (List.mem_filter.1 hx).1

namespace Store

/-- Every stored object that names an owner has an identity of the owner's family. -/
structure WellOwned (s : Store α) : Prop where
  familiar : ∀ {id x uid}, s.get? id = some x → owner? x = some uid →
    InFamily uid (Managed.kind α) (Managed.id x)

variable {s : Store α}

/-- The empty store is well owned. -/
theorem wellOwned_empty : (empty : Store α).WellOwned := ⟨fun h => by cases h⟩

/-- The objects that the index has for an owner are the owner's. -/
theorem WellOwned.ofOwner_ownedBy (h : s.WellOwned) (hs : s.Coherent) (uid : String) :
    ∀ x ∈ s.ownedBy uid, OfOwner uid x := by
  intro x hx
  obtain ⟨hget, howned⟩ := hs.mem_ownedBy.1 hx
  exact ⟨howned, h.familiar hget howned⟩

/-- Applying objects of an owner keeps a store well owned. -/
theorem WellOwned.applyAll (h : s.WellOwned) {xs : List α} (hxs : ∀ x ∈ xs, OfOwner uid x) :
    (s.applyAll xs).WellOwned := by
  refine ⟨fun {id x owner} hx howner => ?_⟩
  rw [get?_applyAll] at hx
  cases hlast : Difference.lastWith id xs with
  | none =>
    rw [hlast] at hx
    exact h.familiar hx howner
  | some y =>
    rw [hlast] at hx
    have hy := hxs y (Difference.mem_of_lastWith hlast).1
    simp only at hx
    split at hx
    · cases hx
    · cases hx
      obtain rfl : uid = owner := Option.some.inj (hy.owned.symm.trans howner)
      exact hy.familiar

/-! ## What is stored of an owner -/

/-- Stores with the same objects of an owner list them in the same way. -/
theorem Coherent.ownedBy_congr {t : Store α} (hs : s.Coherent) (ht : t.Coherent)
    (h : ∀ x, owner? x = some v →
      (s.get? (Managed.id x) = some x ↔ t.get? (Managed.id x) = some x)) :
    s.ownedBy v = t.ownedBy v := by
  have hnodup : ∀ {s : Store α}, s.Coherent → (s.ownedBy v).Nodup := fun hs =>
    (hs.nodup_ownedBy v).of_map
  have hperm : (s.ownedBy v).Perm (t.ownedBy v) := by
    rw [List.perm_ext_iff_of_nodup (hnodup hs) (hnodup ht)]
    intro x
    rw [hs.mem_ownedBy, ht.mem_ownedBy]
    constructor
    · rintro ⟨hget, ho⟩
      exact ⟨(h x ho).1 hget, ho⟩
    · rintro ⟨hget, ho⟩
      exact ⟨(h x ho).2 hget, ho⟩
  refine hperm.eq_of_pairwise (fun x y _ _ hxy hyx => ?_) (hs.ordered_ownedBy v)
    (ht.ordered_ownedBy v)
  exact absurd hyx (String.lt_asymm hxy)

/-- Applying objects of one owner leaves those of another as they are. -/
theorem WellOwned.ownedBy_applyAll (h : s.WellOwned) (hs : s.Coherent) {xs : List α}
    (hxs : ∀ x ∈ xs, OfOwner u x) (hne : u ≠ v) (hu : '_' ∉ u.toList) (hv : '_' ∉ v.toList) :
    (s.applyAll xs).ownedBy v = s.ownedBy v := by
  refine (hs.applyAll xs).ownedBy_congr hs fun x ho => ?_
  rw [get?_applyAll]
  cases hlast : Difference.lastWith (Managed.id x) xs with
  | none => exact Iff.rfl
  | some y =>
    obtain ⟨hy, hid⟩ := Difference.mem_of_lastWith hlast
    obtain ⟨howned, hfamily⟩ := hxs y hy
    constructor
    -- what is stored now under the identity is the first owner's
    · intro hget
      simp only at hget
      split at hget
      · cases hget
      · rw [Option.some.inj hget, ho] at howned
        exact absurd (Option.some.inj howned).symm hne
    -- what was stored there would have an identity of both families
    · intro hget
      exact absurd (InFamily.uid_unique hu hv (hid ▸ hfamily) (h.familiar hget ho)) hne

end Store

end Objects

/-! ## Changes for an owner -/

/-- What is built for a uid is the uid's. -/
structure Built.IsOf (built : Built) (uid : String) : Prop where
  policy : OfOwner uid built.policy
  rules : ∀ x ∈ built.policy.rules, OfOwner uid x
  groups : ∀ g ∈ built.groups, OfOwner uid g

/-- A policy stays its owner's when its rules are left out. -/
theorem Built.IsOf.withoutRules {built : Built} {uid : String} (h : built.IsOf uid) :
    OfOwner uid built.policy.withoutRules :=
  ⟨h.policy.owned, h.policy.familiar⟩

/-- What is built from a resource is its uid's. -/
theorem Builder.isOf_of_build {b : Builder} {r : Resource} {built : Built}
    (h : b.build r = .ok built) : built.IsOf (r.metadata.uid.getD "") := by
  obtain ⟨o, ho, hbuilt⟩ := build_eq_ok h
  obtain ⟨hrules, hruleIds⟩ := Origin.rules_of_objects hbuilt
  obtain ⟨hgroups, hgroupIds⟩ := Origin.groups_of_objects hbuilt
  have hpolicy := Origin.belongs_of_objects hbuilt
  rw [(origin_eq_ok ho).1, Option.getD_some]
  refine ⟨⟨hpolicy.policy_owner, ?_⟩, fun x hx => ⟨(hrules x hx).1, ?_⟩,
    fun g hg => ⟨(hgroups g hg).1, ?_⟩⟩
  · have hid : Managed.id built.policy = policyId o.uid := hpolicy.policy_id
    exact hid ▸ .policy
  · have hid : Managed.id x ∈ built.policy.rules.map Rule.id := List.mem_map_of_mem hx
    rw [hruleIds] at hid
    obtain ⟨index, -, hindex⟩ := List.mem_map.1 hid
    exact hindex ▸ .rule index
  · have hid : Managed.id g ∈ built.groups.map Group.id := List.mem_map_of_mem hg
    obtain ⟨role, -, hrole⟩ := List.mem_map.1 (hgroupIds.subset hid)
    exact hrole ▸ .group role

namespace Inventory

/-- Every stored object that names an owner has an identity of the owner's family. -/
structure WellOwned (m : Inventory) : Prop where
  policies : m.policies.WellOwned
  rules : m.rules.WellOwned
  groups : m.groups.WellOwned

/-- Two inventories have the same of an owner. -/
structure SameOf (v : String) (m n : Inventory) : Prop where
  policy : m.policies.get? (policyId v) = n.policies.get? (policyId v)
  policies : m.policies.ownedBy v = n.policies.ownedBy v
  rules : m.rules.ownedBy v = n.rules.ownedBy v
  groups : m.groups.ownedBy v = n.groups.ownedBy v
  owner : m.owners.contains v = n.owners.contains v

end Inventory

/-- A change writes objects of an owner only. A policy that is only resent need not be the
owner's. -/
structure Change.WritesOf (c : Change) (m : Inventory) (uid : String) : Prop where
  policies : c.after.policies = m.policies ∨
    OfOwner uid c.policy ∧ c.after.policies = m.policies.applyAll [c.policy]
  rules : (∀ x ∈ c.rules, OfOwner uid x) ∧ c.after.rules = m.rules.applyAll c.rules
  groups : (∀ g ∈ c.groups, OfOwner uid g) ∧ c.after.groups = m.groups.applyAll c.groups

namespace Change

variable {m : Inventory} {uid u v : String} {built : Built} {c : Change}

/-- The change to what is built for a uid writes objects of the uid only. -/
theorem writesOf_of_toBuilt (hm : m.Coherent) (hown : m.WellOwned) (hb : built.IsOf uid)
    (hc : toBuilt m uid built = some c) : c.WritesOf m uid := by
  obtain ⟨hrules, hgroups⟩ := writes_of_toBuilt hc
  have hwritten : ∀ x ∈ c.rules, OfOwner uid x := by
    rw [hrules]
    exact ofOwner_writes (hown.rules.ofOwner_ownedBy hm.rules uid) hb.rules
  have hwritten' : ∀ g ∈ c.groups, OfOwner uid g := by
    rw [hgroups]
    exact ofOwner_writes (hown.groups.ofOwner_ownedBy hm.groups uid) hb.groups
  rw [toBuilt] at hc
  split at hc
  · cases hc
  · cases hc
    refine ⟨?_, ⟨hwritten, rfl⟩, ⟨hwritten', rfl⟩⟩
    simp only
    split
    · exact .inr ⟨hb.withoutRules, rfl⟩
    · exact .inl rfl

/-- A removal of an owner's objects writes objects of the owner only. -/
theorem writesOf_removing {policy : Policy} {rules : List Rule} {groups : List Group}
    (hp : OfOwner uid policy) (hr : ∀ x ∈ rules, OfOwner uid x)
    (hg : ∀ g ∈ groups, OfOwner uid g) : (removing m policy rules groups).WritesOf m uid where
  policies := .inr ⟨hp.setMarked true, rfl⟩
  rules := ⟨ofOwner_removals hr, rfl⟩
  groups := ⟨ofOwner_removals hg, rfl⟩

/-- The removal of what is built for a uid writes objects of the uid only. -/
theorem writesOf_ofBuilt (hm : m.Coherent) (hown : m.WellOwned) (hb : built.IsOf uid) :
    (ofBuilt m uid built).WritesOf m uid :=
  writesOf_removing hb.withoutRules
    (ofOwner_withStored hb.rules (hown.rules.ofOwner_ownedBy hm.rules uid))
    (ofOwner_withStored hb.groups (hown.groups.ofOwner_ownedBy hm.groups uid))

/-- The removal of what an owner has writes objects of the owner only, and the policy is one of
them. -/
theorem writesOf_of_forOwner (hm : m.Coherent) (hown : m.WellOwned)
    (hc : forOwner m uid = some c) : c.WritesOf m uid ∧ owner? c.policy = some uid := by
  obtain ⟨policy, hpolicy, rfl⟩ := Option.map_eq_some_iff.1 hc
  have hp : OfOwner uid policy :=
    hown.policies.ofOwner_ownedBy hm.policies uid _ (List.mem_of_mem_head? hpolicy)
  exact ⟨writesOf_removing hp (hown.rules.ofOwner_ownedBy hm.rules uid)
    (hown.groups.ofOwner_ownedBy hm.groups uid), (hp.setMarked true).owned⟩

/-- A change that writes objects of an owner keeps an inventory well owned. -/
theorem WritesOf.wellOwned (h : c.WritesOf m uid) (hown : m.WellOwned) : c.after.WellOwned where
  policies := by
    rcases h.policies with heq | ⟨hp, heq⟩
    · exact heq ▸ hown.policies
    · exact heq ▸ hown.policies.applyAll (by simpa using hp)
  rules := h.rules.2 ▸ hown.rules.applyAll h.rules.1
  groups := h.groups.2 ▸ hown.groups.applyAll h.groups.1

/-- It keeps stores and their indexes in agreement. -/
theorem WritesOf.coherent (h : c.WritesOf m uid) (hm : m.Coherent) : c.after.Coherent where
  policies := by
    rcases h.policies with heq | ⟨-, heq⟩
    · exact heq ▸ hm.policies
    · exact heq ▸ hm.policies.applyAll _
  rules := h.rules.2 ▸ hm.rules.applyAll _
  groups := h.groups.2 ▸ hm.groups.applyAll _

/-- It keeps what there is of any other owner. -/
theorem WritesOf.sameOf (h : c.WritesOf m u) (hm : m.Coherent) (hown : m.WellOwned) (hne : u ≠ v)
    (hu : '_' ∉ u.toList) (hv : '_' ∉ v.toList) : c.after.SameOf v m := by
  have hpolicies : c.after.policies.get? (policyId v) = m.policies.get? (policyId v) ∧
      c.after.policies.ownedBy v = m.policies.ownedBy v := by
    rcases h.policies with heq | ⟨hp, heq⟩ <;> rw [heq]
    · exact ⟨rfl, rfl⟩
    · have hid : policyId v ≠ Managed.id c.policy := fun hid =>
        hne (InFamily.uid_unique hu hv hp.familiar (hid ▸ InFamily.policy))
      constructor
      · rw [Store.get?_applyAll, Difference.lastWith_singleton, if_neg hid]
      · exact hown.policies.ownedBy_applyAll hm.policies (by simpa using hp) hne hu hv
  -- rules and groups are written whether the policy is or not
  have hrules : c.after.rules.ownedBy v = m.rules.ownedBy v := by
    rw [h.rules.2]
    exact hown.rules.ownedBy_applyAll hm.rules h.rules.1 hne hu hv
  have hgroups : c.after.groups.ownedBy v = m.groups.ownedBy v := by
    rw [h.groups.2]
    exact hown.groups.ownedBy_applyAll hm.groups h.groups.1 hne hu hv
  have hafter := h.coherent hm
  refine ⟨hpolicies.1, hpolicies.2, hrules, hgroups, ?_⟩
  rw [Bool.eq_iff_iff, Inventory.owners, Inventory.owners, TextSet.contains_union,
    TextSet.contains_union, Bool.or_eq_true, Bool.or_eq_true, hafter.policies.contains_owners,
    hm.policies.contains_owners, hafter.groups.contains_owners, hm.groups.contains_owners,
    hpolicies.2, hgroups]

end Change

/-! ## What is sent -/

/-- Tags that are an origin's in another order name its owner: one of them only is under the owner's
scope. -/
theorem Origin.owner?_of_perm {o : Origin} {ts : List Tag} (h : ts.Perm o.tags) :
    Tag.owner? ts = some o.uid := by
  have hscopes : Tag.clusterScope ≠ Tag.ownerScope ∧ Tag.namespaceScope ≠ Tag.ownerScope ∧
      Tag.nameScope ≠ Tag.ownerScope := by decide
  have hvalue : ∀ t ∈ ts, t.scope = Tag.ownerScope → t.value = o.uid := by
    intro t ht hscope
    have hmem := h.mem_iff.1 ht
    simp only [tags, List.mem_cons, List.not_mem_nil, or_false] at hmem
    rcases hmem with rfl | rfl | rfl | rfl
    · exact absurd hscope hscopes.1
    · exact absurd hscope hscopes.2.1
    · exact absurd hscope hscopes.2.2
    · rfl
  have howner : ⟨Tag.ownerScope, o.uid⟩ ∈ ts := h.mem_iff.2 (by simp [tags])
  rw [Tag.owner?]
  cases hfind : ts.find? fun t => t.scope == Tag.ownerScope with
  | none => exact absurd (List.find?_eq_none.1 hfind _ howner) (by simp)
  | some t =>
    have hscope : t.scope = Tag.ownerScope := by simpa using List.find?_some hfind
    rw [Option.map_some, hvalue t (List.mem_of_find?_eq_some hfind) hscope]

/-- The function texts of stored objects. -/
def Store.texts {α : Type} [Managed α] (s : Store α) : Set String :=
  {t | ∃ id x, s.get? id = some x ∧ Managed.functionText x = t}

/-- A patch has objects of one owner only. -/
structure Patch.CarriesOnly (p : Patch) (uid : String) : Prop where
  policy : ∀ mark q, .policy mark q ∈ p.children → owner? q = some uid
  rules : ∀ mark q, .policy mark q ∈ p.children → ∀ x ∈ q.rules, owner? x = some uid
  groups : ∀ mark g, .group mark g ∈ p.children → owner? g = some uid

namespace Change

variable {m : Inventory} {uid : String} {built : Built} {c : Change}

/-- A policy that is only resent is the owner's too, if the digests of different texts differ: it
says the same as the built one, so it has the same tags. -/
theorem owner?_policy_of_toBuilt {b : Builder} {r : Resource} (hm : m.Coherent)
    (hb : b.build r = .ok built) (hc : toBuilt m (r.metadata.uid.getD "") built = some c)
    (hdigest : Set.InjOn digest (insert built.policy.functionText m.policies.texts)) :
    owner? c.policy = some (r.metadata.uid.getD "") := by
  have hbelongs := Builder.belongs_of_build hb
  rcases policy_of_toBuilt hc hbelongs with ⟨old, hold, hfp, hpolicy⟩ | ⟨-, hpolicy⟩
  · have htext : old.functionText = built.policy.functionText :=
      hdigest (.inr ⟨_, old, hold, rfl⟩) (.inl rfl) hfp
    have hid : old.id = built.policy.id := (hm.policies.keyed hold).trans hbelongs.policy_id.symm
    have htags := ((Policy.functionText_eq_iff hid).1 htext).tags
    obtain ⟨o, ho, hbuilt⟩ := Builder.build_eq_ok hb
    obtain ⟨_, _, -, -, rfl⟩ := Origin.objects_eq_ok hbuilt
    rw [hpolicy, (Builder.origin_eq_ok ho).1]
    exact Origin.owner?_of_perm htags
  · rw [hpolicy]
    exact hbelongs.policy_owner

/-- The patch of a change that writes objects of an owner only, the policy included, has no others.
-/
theorem WritesOf.carriesOnly (h : c.WritesOf m uid) (hp : owner? c.policy = some uid)
    (domain : String) : (c.patch domain).CarriesOnly uid where
  policy mark q hq := by
    obtain ⟨-, rfl⟩ := Patch.policy_mem_wrap.1 hq
    exact hp
  rules mark q hq x hx := by
    obtain ⟨-, rfl⟩ := Patch.policy_mem_wrap.1 hq
    exact (h.rules.1 x hx).owned
  groups mark g hg := (h.groups.1 g (Patch.group_mem_wrap.1 hg).1).owned

/-- Submitting a change makes one request, and the inventory comes to be as the change has it or
stays as it was. -/
theorem after_submit (c : Change) (domain : String) (w : World) :
    (c.submit domain).sent w = [.patchInfra false (c.patch domain)] ∧
      (((c.submit domain).after w).inventory = c.after ∨
        ((c.submit domain).after w).inventory = w.inventory) := by
  rw [sent, Operation.after, exec_submit]
  cases w.answer with
  | none => exact ⟨List.drop_left, .inl rfl⟩
  | some fault => exact ⟨List.drop_left, .inr rfl⟩

end Change

/-! ## Jobs about one owner -/

/-- The uid that a job is about, when it is about the objects of one. -/
def Job.target? : Job → Option String
  | .update r => r.metadata.uid
  | .remove r => r.metadata.uid
  | .removeOwner uid => some uid
  | .updateGroups _ => none
  | .collect _ => none

namespace Builder

variable {b : Builder} {w : World} {u v : String} {job : Job}

/-- The function texts of the policies that a job compares: the stored ones, and for an update the
built one. -/
def policyTexts (b : Builder) (m : Inventory) (job : Job) : Set String :=
  m.policies.texts ∪
    {t | ∃ r built, job = .update r ∧ b.build r = .ok built ∧ built.policy.functionText = t}

/-- An operation does nothing, or it submits a change that writes objects of an owner. If digests do
not collide on some texts, the change's policy is the owner's too. -/
def Submits (b : Builder) (op : Operation Unit) (uid : String) (texts : Set String)
    (w : World) : Prop :=
  op.after w = w ∨ ∃ c : Change, c.WritesOf w.inventory uid ∧
    (Set.InjOn digest texts → owner? c.policy = some uid) ∧ op.after w = (c.submit b.domain).after w

/-- An update submits a change for the uid of the resource, if any. -/
theorem update_submits (hm : w.inventory.Coherent) (hown : w.inventory.WellOwned) (r : Resource) :
    b.Submits (b.update r) (r.metadata.uid.getD "") (b.policyTexts w.inventory (.update r)) w := by
  rcases b.after_update_cases r w with hsame | ⟨built, c, hb, hc, hafter⟩
  · exact .inl hsame
  · refine .inr ⟨c, Change.writesOf_of_toBuilt hm hown (isOf_of_build hb) hc, fun hdigest => ?_,
      hafter⟩
    refine Change.owner?_policy_of_toBuilt hm hb hc (hdigest.mono ?_)
    rintro t (rfl | ht)
    · exact .inr ⟨r, built, rfl, hb, rfl⟩
    · exact .inl ht

/-- A removal submits a change for the uid of the resource, if any. -/
theorem remove_submits (hm : w.inventory.Coherent) (hown : w.inventory.WellOwned) (r : Resource)
    (texts : Set String) : b.Submits (b.remove r) (r.metadata.uid.getD "") texts w := by
  rcases b.after_remove_cases r w with hsame | ⟨built, hb, hafter⟩
  · exact .inl hsame
  · exact .inr ⟨_, Change.writesOf_ofBuilt hm hown (isOf_of_build hb),
      fun _ => (belongs_of_build hb).policy_owner, hafter⟩

/-- A removal by owner submits a change for the owner, if any. -/
theorem removeOwner_submits (hm : w.inventory.Coherent) (hown : w.inventory.WellOwned)
    (uid : String) (texts : Set String) : b.Submits (b.removeOwner uid) uid texts w := by
  rcases b.after_removeOwner_cases uid w with hsame | ⟨c, hc, hafter⟩
  · exact .inl hsame
  · obtain ⟨hwrites, howner⟩ := Change.writesOf_of_forOwner hm hown hc
    exact .inr ⟨c, hwrites, fun _ => howner, hafter⟩

/-- A job about one uid submits a change for it, if any. -/
theorem serve_submits (hm : w.inventory.Coherent) (hown : w.inventory.WellOwned)
    (ht : job.target? = some u) :
    b.Submits (b.serve job) u (b.policyTexts w.inventory job) w := by
  cases job with
  | update r =>
    have hsubmits := b.update_submits hm hown r
    rwa [show r.metadata.uid = some u from ht] at hsubmits
  | remove r =>
    have hsubmits := b.remove_submits hm hown r (b.policyTexts w.inventory (.remove r))
    rwa [show r.metadata.uid = some u from ht] at hsubmits
  | removeOwner uid =>
    obtain rfl : uid = u := Option.some.inj ht
    exact b.removeOwner_submits hm hown uid _
  | updateGroups gs => cases ht
  | collect live => cases ht

/-- Whatever the backend answers, the inventory stays coherent and well owned. -/
theorem Submits.wellOwned {op : Operation Unit} {texts : Set String} (h : b.Submits op u texts w)
    (hm : w.inventory.Coherent) (hown : w.inventory.WellOwned) :
    (op.after w).inventory.Coherent ∧ (op.after w).inventory.WellOwned := by
  rcases h with hw | ⟨c, hwrites, -, hw⟩ <;> rw [hw]
  · exact ⟨hm, hown⟩
  · rcases (c.after_submit b.domain w).2 with hafter | hafter <;> rw [hafter]
    · exact ⟨hwrites.coherent hm, hwrites.wellOwned hown⟩
    · exact ⟨hm, hown⟩

/-- Whatever the backend answers, what there is of another owner stays. -/
theorem Submits.sameOf {op : Operation Unit} {texts : Set String} (h : b.Submits op u texts w)
    (hm : w.inventory.Coherent) (hown : w.inventory.WellOwned) (hne : u ≠ v)
    (hu : '_' ∉ u.toList) (hv : '_' ∉ v.toList) :
    (op.after w).inventory.SameOf v w.inventory := by
  have hsame : w.inventory.SameOf v w.inventory := ⟨rfl, rfl, rfl, rfl, rfl⟩
  rcases h with hw | ⟨c, hwrites, -, hw⟩ <;> rw [hw]
  · exact hsame
  · rcases (c.after_submit b.domain w).2 with hafter | hafter <;> rw [hafter]
    · exact hwrites.sameOf hm hown hne hu hv
    · exact hsame

/-- The request carries only objects of the owner. -/
theorem Submits.carriesOnly {op : Operation Unit} {texts : Set String}
    (h : b.Submits op u texts w) (hdigest : Set.InjOn digest texts) {call : Call}
    (hcall : call ∈ op.sent w) : ∃ p, call = .patchInfra false p ∧ p.CarriesOnly u := by
  rcases h with hw | ⟨c, hwrites, howner, hw⟩ <;> rw [sent, hw] at hcall
  · simp at hcall
  · rw [← sent, (c.after_submit b.domain w).1] at hcall
    exact ⟨_, List.mem_singleton.1 hcall, hwrites.carriesOnly (howner hdigest) _⟩

/-- A row of jobs about other owners leaves all that there is of an owner. -/
theorem serveAll_sameOf {jobs : List Job} (hm : w.inventory.Coherent)
    (hown : w.inventory.WellOwned) (hv : '_' ∉ v.toList)
    (hjobs : ∀ job ∈ jobs, ∃ u, job.target? = some u ∧ u ≠ v ∧ '_' ∉ u.toList) :
    (b.serveAll jobs w).inventory.SameOf v w.inventory := by
  -- each job finds the inventory as coherent and as well owned as the one before
  induction jobs generalizing w with
  | nil => exact ⟨rfl, rfl, rfl, rfl, rfl⟩
  | cons job rest ih =>
    obtain ⟨u, ht, hne, hu⟩ := hjobs job List.mem_cons_self
    have hsubmits : b.Submits (b.serve job) u (b.policyTexts w.inventory job) w :=
      serve_submits hm hown ht
    obtain ⟨hm', hown'⟩ := hsubmits.wellOwned hm hown
    have hfirst := hsubmits.sameOf hm hown hne hu hv
    have hrest := ih hm' hown' fun next hnext => hjobs next (List.mem_cons_of_mem _ hnext)
    exact ⟨hrest.policy.trans hfirst.policy, hrest.policies.trans hfirst.policies,
      hrest.rules.trans hfirst.rules, hrest.groups.trans hfirst.groups,
      hrest.owner.trans hfirst.owner⟩

/-- **Isolation.** Updates and removals keep an inventory well owned, for any resource and whatever
the backend answers. One that is about an owner sends only that owner's objects, if the digests of
the policies that it compares do not collide, and it leaves all that the inventory has of another
owner. -/
theorem jobs_isolated (hm : w.inventory.Coherent) (hown : w.inventory.WellOwned) :
    (∀ r, ((b.update r).after w).inventory.WellOwned) ∧
      (∀ r, ((b.remove r).after w).inventory.WellOwned) ∧
      (∀ uid, ((b.removeOwner uid).after w).inventory.WellOwned) ∧
      ∀ job u v, job.target? = some u → u ≠ v → '_' ∉ u.toList → '_' ∉ v.toList →
        ((b.serve job).after w).inventory.SameOf v w.inventory ∧
          (Set.InjOn digest (b.policyTexts w.inventory job) →
            ∀ call ∈ (b.serve job).sent w, ∃ p, call = .patchInfra false p ∧ p.CarriesOnly u) := by
  refine ⟨fun r => ((update_submits hm hown r).wellOwned hm hown).2,
    fun r => ((remove_submits hm hown r ∅).wellOwned hm hown).2,
    fun uid => ((removeOwner_submits hm hown uid ∅).wellOwned hm hown).2,
    fun job u v ht hne hu hv => ?_⟩
  have hsubmits : b.Submits (b.serve job) u (b.policyTexts w.inventory job) w :=
    serve_submits hm hown ht
  exact ⟨hsubmits.sameOf hm hown hne hu hv, fun hdigest call hcall =>
    hsubmits.carriesOnly hdigest hcall⟩

/-- The policy of one resource is stored as it is built, and its group is missing. The update
resends the policy with the group, and leaves the group of another resource. -/
theorem jobs_isolated_resent :
    let b : Builder := ⟨"k", "default"⟩
    let r : Resource := {
      metadata := { name := some "web", ownNamespace := some "shop", uid := some "u" }
      spec := { appliedTo := [{ pods := some .empty }] } }
    let stored : Policy := {
      id := "sp_u"
      displayName := "shop-web"
      scope := [groupPath "default" "sp_u_scope"]
      tags := [⟨Tag.clusterScope, "k"⟩, ⟨Tag.namespaceScope, "shop"⟩, ⟨Tag.nameScope, "web"⟩,
        ⟨Tag.ownerScope, "u"⟩] }
    let other : Group := { id := "sp_v_scope", tags := [⟨Tag.ownerScope, "v"⟩] }
    let w : World := {
      inventory := Inventory.empty.putAll { policies := [stored], groups := [other] } }
    w.inventory.Coherent ∧ w.inventory.WellOwned ∧
      Set.InjOn digest (b.policyTexts w.inventory (.update r)) ∧
      (b.update r).sent w ≠ [] ∧ w.inventory.groups.ownedBy "v" = [other] ∧
      ((b.update r).after w).inventory.SameOf "v" w.inventory ∧
      ∀ call ∈ (b.update r).sent w, ∃ p, call = .patchInfra false p ∧ p.CarriesOnly "u" := by
  intro b r stored other w
  have hm : w.inventory.Coherent := ⟨Store.coherent_empty.putAll [stored],
    Store.coherent_empty, Store.coherent_empty.putAll [other]⟩
  have hstored : ∀ x ∈ [stored], OfOwner "u" x := List.forall_mem_singleton.2 ⟨rfl, .policy⟩
  have hother : ∀ x ∈ [other], OfOwner "v" x :=
    List.forall_mem_singleton.2 ⟨rfl, .group .policyScope⟩
  have hown : w.inventory.WellOwned := ⟨Store.wellOwned_empty.applyAll hstored,
    Store.wellOwned_empty, Store.wellOwned_empty.applyAll hother⟩
  obtain ⟨built, hb, hpolicy, hgroups⟩ : ∃ built, b.build r = .ok built ∧
      built.policy = stored ∧ built.groups.length = 1 := ⟨_, rfl, rfl, rfl⟩
  have htexts : ∀ t ∈ b.policyTexts w.inventory (.update r), t = stored.functionText := by
    rintro t (⟨id, x, hx, rfl⟩ | ⟨r', built', hjob, hb', rfl⟩)
    · have hx : (if id = "sp_u" then some stored else none) = some x := by
        rw [← hx]
        exact (Store.get?_put .empty stored id).symm
      split at hx
      · cases hx
        rfl
      · cases hx
    · obtain rfl : r = r' := Job.update.inj hjob
      rw [hb] at hb'
      cases hb'
      rw [hpolicy]
  have hdigest : Set.InjOn digest (b.policyTexts w.inventory (.update r)) := by
    intro t ht t' ht' _
    rw [htexts t ht, htexts t' ht']
  -- were nothing sent, the group would be there
  have hsent : (b.update r).sent w ≠ [] := by
    rw [sent_update, Change.forUpdate_of_build hb]
    cases hc : Change.toBuilt w.inventory (r.metadata.uid.getD "") built with
    | some c => exact List.cons_ne_nil _ _
    | none =>
      have hsettled :=
        ((Change.toBuilt_eq_none_iff hm (belongs_of_build hb)).1 hc).groups.length_eq
      have hnone : w.inventory.groups.ownedBy (r.metadata.uid.getD "") = [] := rfl
      rw [List.length_map, List.length_map, hnone, hgroups] at hsettled
      cases hsettled
  obtain ⟨hsame, hcarries⟩ := (jobs_isolated hm hown).2.2.2 (.update r) "u" "v" rfl (by decide)
    (by decide) (by decide)
  exact ⟨hm, hown, hdigest, hsent, rfl, hsame, hcarries hdigest⟩

end Builder

end FirewallOperator
