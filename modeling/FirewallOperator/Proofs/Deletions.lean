import FirewallOperator.Proofs.Isolation
import FirewallOperator.Proofs.Releases
import FirewallOperator.Proofs.Requests

/-! # Removing exactly one owner

A removal takes objects out of the stores by their identities: those that are built now, whether
they are stored or not, and those that are left over from earlier versions, or those that the index
has for a uid. `Store.AllOwned.without_removals` says that this takes out the objects of one owner
and nothing else, where all stored objects have owners with plain uids and identities of their
owners' families. `Builder.removal_exact` puts this together with what the request carries, for both
ways of asking for a removal. -/

namespace FirewallOperator

open Operation

/-! ## Stores -/

namespace Store

variable {α : Type} [Managed α] {s t : Store α} {uid : String} {xs : List α}

/-- Every stored object has an owner, with a uid without underscores, and an identity of this
owner's family for objects of its kind. -/
def AllOwned (s : Store α) : Prop :=
  ∀ id x, s.get? id = some x → ∃ owner : String, '_' ∉ owner.toList ∧ OfOwner owner x

/-- The empty store has no object without an owner. -/
theorem allOwned_empty : (empty : Store α).AllOwned := fun id x hget => by cases hget

/-- Objects of owners with plain uids may be stored. -/
theorem AllOwned.putAll (h : s.AllOwned)
    (hxs : ∀ x ∈ xs, ∃ owner : String, '_' ∉ owner.toList ∧ OfOwner owner x) :
    (s.putAll xs).AllOwned := by
  intro id x hget
  rw [get?_putAll, Option.or_eq_some_iff] at hget
  rcases hget with hlast | ⟨-, hget⟩
  · exact hxs x (Difference.mem_of_lastWith hlast).1
  · exact h id x hget

/-- Objects in a request ask for the removal of all that is stored of an owner, and name nothing
twice. -/
structure Removes (s : Store α) (uid : String) (xs : List α) : Prop where
  marked : ∀ x ∈ xs, Managed.marked x = true
  distinct : (xs.map Managed.id).Nodup
  complete : ∀ id x, s.get? id = some x → owner? x = some uid → id ∈ xs.map Managed.id

/-- A store has what another has, less the objects of an owner. -/
def Without (t s : Store α) (uid : String) : Prop :=
  ∀ id x, t.get? id = some x ↔ s.get? id = some x ∧ owner? x ≠ some uid

/-- A store without the objects of a uid is clear of it. -/
theorem Without.clear (h : t.Without s uid) : t.Clear uid := fun id x hx => ((h id x).1 hx).2

/-- Removals that name all objects of an owner, once each. -/
theorem Coherent.removes (hs : s.Coherent) (hn : (xs.map Managed.id).Nodup)
    (hall : ∀ x ∈ s.ownedBy uid, Managed.id x ∈ xs.map Managed.id) :
    s.Removes uid (Difference.removals xs) where
  marked _ hx := Difference.marked_of_mem_removals hx
  distinct := (removalsFirst_removals hn).distinct
  complete id x hget howner := by
    obtain rfl := hs.keyed hget
    rw [Difference.ids_removals, List.mem_reverse]
    exact hall x (hs.mem_ownedBy.2 ⟨hget, howner⟩)

/-- Such removals take out the owner's objects, and nothing that has another owner. -/
theorem AllOwned.without_removals (h : s.AllOwned) (hs : s.Coherent) (hu : '_' ∉ uid.toList)
    (hxs : ∀ x ∈ xs, OfOwner uid x)
    (hall : ∀ x ∈ s.ownedBy uid, Managed.id x ∈ xs.map Managed.id) :
    (s.applyAll (Difference.removals xs)).Without s uid := by
  intro id x
  rw [get?_applyAll_removals]
  constructor
  · intro hget
    split at hget
    case isTrue => cases hget
    case isFalse hnot =>
      refine ⟨hget, fun howner => hnot ?_⟩
      obtain rfl := hs.keyed hget
      exact hall x (hs.mem_ownedBy.2 ⟨hget, howner⟩)
  · rintro ⟨hget, hother⟩
    rw [if_neg, hget]
    -- an identity that is removed is of the owner's family, and so is what is stored under it
    intro hmem
    obtain ⟨y, hy, hid⟩ := List.mem_map.1 hmem
    obtain ⟨owner, howner, hx⟩ := h id x hget
    have hsame : Managed.id y = Managed.id x := hid.trans (hs.keyed hget).symm
    obtain rfl := InFamily.uid_unique hu howner (hxs y hy).familiar (hsame ▸ hx.familiar)
    exact hother hx.owned

end Store

/-- A policy of an owner has the one identity that the owner's policy can have. -/
theorem OfOwner.id_policy {uid : String} {p : Policy} (h : OfOwner uid p) :
    p.id = policyId uid := by
  have hfamily : InFamily uid .policy p.id := h.familiar
  generalize p.id = id at hfamily
  cases hfamily
  rfl

/-- In a store of owned objects, what is found under an owner is the owner's. -/
theorem Store.AllOwned.ofOwner_of_mem {α : Type} [Managed α] {s : Store α} (h : s.AllOwned)
    (hs : s.Coherent) {uid : String} {x : α} (hx : x ∈ s.ownedBy uid) : OfOwner uid x := by
  obtain ⟨hget, howner⟩ := hs.mem_ownedBy.1 hx
  obtain ⟨owner, -, hof⟩ := h _ _ hget
  obtain rfl : owner = uid := Option.some.inj (hof.owned.symm.trans howner)
  exact hof

/-! ## Inventories -/

/-- Every stored object has an owner with a plain uid and an identity of this owner's family. -/
structure Inventory.AllOwned (m : Inventory) : Prop where
  policies : m.policies.AllOwned
  rules : m.rules.AllOwned
  groups : m.groups.AllOwned

/-- A request asks for the removal of all that an inventory has of an owner, and the inventory comes
to be what it was less the owner's objects. -/
structure Inventory.DropsOwner (m : Inventory) (domain uid : String) (p : Patch) (n : Inventory) :
    Prop where
  request : ∃ gs policy, p.WellFormed domain gs policy ∧ m.policies.Removes uid [policy] ∧
    m.rules.Removes uid policy.rules ∧ m.groups.Removes uid gs
  policies : n.policies.Without m.policies uid
  rules : n.rules.Without m.rules uid
  groups : n.groups.Without m.groups uid
  unlisted : ¬ n.owners.contains uid

/-- An inventory that has nothing of an owner does not list the owner. -/
theorem Inventory.Coherent.contains_owners_of_clear {m : Inventory} (hm : m.Coherent) {uid : String}
    (hpolicies : m.policies.Clear uid) (hgroups : m.groups.Clear uid) :
    ¬ m.owners.contains uid := by
  rw [Inventory.owners, TextSet.contains_union, Bool.or_eq_true, hm.groups.contains_owners,
    hm.policies.contains_owners, hm.groups.clear_iff.1 hgroups, hm.policies.clear_iff.1 hpolicies]
  simp

namespace Change

variable {b : Builder} {m : Inventory} {uid : String}

/-- A planned removal of an owner's objects, among them all that are stored, drops the owner. -/
theorem dropsOwner_removing (hm : m.Coherent) (hall : m.AllOwned) (hu : '_' ∉ uid.toList)
    {policy : Policy} {rules : List Rule} {groups : List Group}
    (hplanned : Planned b m (removing m policy rules groups)) (hpolicy : OfOwner uid policy)
    (hrules : ∀ x ∈ rules, OfOwner uid x) (hgroups : ∀ g ∈ groups, OfOwner uid g)
    (hruleIds : (rules.map Managed.id).Nodup) (hgroupIds : (groups.map Managed.id).Nodup)
    (hruleAll : ∀ x ∈ m.rules.ownedBy uid, Managed.id x ∈ rules.map Managed.id)
    (hgroupAll : ∀ g ∈ m.groups.ownedBy uid, Managed.id g ∈ groups.map Managed.id)
    (domain : String) :
    m.DropsOwner domain uid ((removing m policy rules groups).patch domain)
      (removing m policy rules groups).after := by
  have hone : ∀ p ∈ m.policies.ownedBy uid, Managed.id p ∈ [policy].map Managed.id := by
    intro p hp
    have hid : p.id = policy.id :=
      (hall.policies.ofOwner_of_mem hm.policies hp).id_policy.trans hpolicy.id_policy.symm
    exact List.mem_singleton.2 hid
  have hpolicies := hall.policies.without_removals hm.policies hu
    (List.forall_mem_singleton.2 hpolicy) hone
  have hgroupsLeft := hall.groups.without_removals hm.groups hu hgroups hgroupAll
  have hcarried : m.policies.Removes uid (Difference.removals [policy]) :=
    hm.policies.removes (List.nodup_singleton (Managed.id policy)) hone
  exact {
    request := ⟨_, _, hplanned.wellFormed hm domain,
      -- the rules that a policy carries are no part of what is said of it here
      ⟨List.forall_mem_singleton.2 (Managed.marked_setMarked true policy), hcarried.distinct,
        hcarried.complete⟩,
      hm.rules.removes hruleIds hruleAll, hm.groups.removes hgroupIds hgroupAll⟩
    policies := hpolicies
    rules := hall.rules.without_removals hm.rules hu hrules hruleAll
    groups := hgroupsLeft
    unlisted := (hm.after hplanned).contains_owners_of_clear hpolicies.clear hgroupsLeft.clear }

/-- The removal of what is built drops the owner's objects, and nothing else. -/
theorem dropsOwner_ofBuilt (hm : m.Coherent) (hall : m.AllOwned) (hu : '_' ∉ uid.toList)
    {r : Resource} {built : Built} (hr : r.metadata.uid = some uid) (hb : b.build r = .ok built)
    (domain : String) :
    m.DropsOwner domain uid ((ofBuilt m uid built).patch domain) (ofBuilt m uid built).after := by
  have huid : r.metadata.uid.getD "" = uid := by rw [hr, Option.getD_some]
  have hof : built.IsOf uid := huid ▸ Builder.isOf_of_build hb
  have hbelongs : built.Belongs uid := huid ▸ Builder.belongs_of_build hb
  have hplanned : Planned b m (ofBuilt m uid built) := huid ▸ .removal hb
  exact dropsOwner_removing hm hall hu hplanned hof.withoutRules
    (ofOwner_withStored hof.rules fun _ hx => hall.rules.ofOwner_of_mem hm.rules hx)
    (ofOwner_withStored hof.groups fun _ hg => hall.groups.ofOwner_of_mem hm.groups hg)
    (nodup_withStored hbelongs.rules.distinct (hm.rules.nodup_ownedBy uid))
    (nodup_withStored hbelongs.groups.distinct (hm.groups.nodup_ownedBy uid))
    (fun _ hx => id_mem_withStored _ hx) (fun _ hg => id_mem_withStored _ hg) domain

/-- The removal by owner drops the owner's objects, and nothing else. -/
theorem dropsOwner_of_forOwner (b : Builder) (hm : m.Coherent) (hall : m.AllOwned)
    (hu : '_' ∉ uid.toList) {c : Change} (hc : forOwner m uid = some c) (domain : String) :
    m.DropsOwner domain uid (c.patch domain) c.after := by
  have hplanned : Planned b m c := .owner hc
  obtain ⟨policy, hhead, rfl⟩ := Option.map_eq_some_iff.1 hc
  exact dropsOwner_removing hm hall hu hplanned
    (hall.policies.ofOwner_of_mem hm.policies (List.mem_of_mem_head? hhead))
    (fun _ hx => hall.rules.ofOwner_of_mem hm.rules hx)
    (fun _ hg => hall.groups.ofOwner_of_mem hm.groups hg) (hm.rules.nodup_ownedBy uid)
    (hm.groups.nodup_ownedBy uid) (fun _ hx => List.mem_map_of_mem hx)
    (fun _ hg => List.mem_map_of_mem hg) domain

end Change

/-! ## Operations -/

/-- An operation makes one request, which is accepted, and the inventory drops an owner by it. -/
def Operation.DropsOwner (op : Operation Unit) (domain uid : String) (w : World) : Prop :=
  ∃ p v, op.exec w = (.ok (), v) ∧ op.sent w = [.patchInfra false p] ∧
    w.inventory.DropsOwner domain uid p v.inventory

/-- A change that drops an owner does so when it is accepted. -/
theorem Operation.dropsOwner_of_submit {op : Operation Unit} {c : Change} {domain uid : String}
    {w : World} (hexec : op.exec w = (c.submit domain).exec w) (ha : w.answer = none)
    (hc : w.inventory.DropsOwner domain uid (c.patch domain) c.after) :
    op.DropsOwner domain uid w := by
  have hsent : op.sent w = (c.submit domain).sent w := by
    rw [sent, sent, after, after, hexec]
  rw [Change.exec_submit, ha] at hexec
  exact ⟨_, _, hexec, hsent.trans (c.after_submit domain w).1, hc⟩

namespace Builder

variable {b : Builder} {w : World} {uid : String}

/-- **Exact removal.** All stored objects have owners with plain uids and identities of their
owners' families. When the backend accepts it, the removal of a resource that can be built takes out
what is stored of its uid, from whichever version of the resource, and nothing else; and so does the
removal of a uid that has a policy. The request names all of that once, and marks everything in
it. -/
theorem removal_exact (hm : w.inventory.Coherent) (hall : w.inventory.AllOwned)
    (hu : '_' ∉ uid.toList) (ha : w.answer = none) :
    (∀ r built, r.metadata.uid = some uid → b.build r = .ok built →
      (b.remove r).DropsOwner b.domain uid w) ∧
      ∀ id policy, w.inventory.policies.get? id = some policy → owner? policy = some uid →
        (b.removeOwner uid).DropsOwner b.domain uid w := by
  constructor
  · intro r built hr hb
    have hexec : (b.remove r).exec w =
        ((Change.ofBuilt w.inventory uid built).submit b.domain).exec w := by
      rw [exec_remove_of_build hb, hr, Option.getD_some]
    exact dropsOwner_of_submit hexec ha (Change.dropsOwner_ofBuilt hm hall hu hr hb b.domain)
  · intro id policy hget howner
    obtain rfl := hm.policies.keyed hget
    have hmem : policy ∈ w.inventory.policies.ownedBy uid :=
      hm.policies.mem_ownedBy.2 ⟨hget, howner⟩
    cases hc : Change.forOwner w.inventory uid with
    | none =>
      -- only without a policy there is nothing to remove
      have hnil := List.head?_eq_none_iff.1 (Option.map_eq_none_iff.1 hc)
      rw [hnil] at hmem
      cases hmem
    | some c =>
      have hexec : (b.removeOwner uid).exec w = (c.submit b.domain).exec w := by
        rw [exec_removeOwner, hc]
      exact dropsOwner_of_submit hexec ha (Change.dropsOwner_of_forOwner b hm hall hu hc b.domain)

/-- The inventory has objects of two owners, and of the first one also a rule and a group of an
earlier version. Both removals take out all of them and keep those of the second. -/
theorem removal_exact_with_leftover :
    let b : Builder := ⟨"k", "default"⟩
    let r : Resource := {
      metadata := { name := some "web", ownNamespace := some "shop", uid := some "u" }
      spec := { appliedTo := [{ pods := some .empty }], rules := [{}] } }
    let ownedBy (uid : String) : List Tag := [⟨Tag.ownerScope, uid⟩]
    let policies : List Policy :=
      [{ id := "sp_u", tags := ownedBy "u" }, { id := "sp_v", tags := ownedBy "v" }]
    let rules : List Rule := [{ id := "sp_u_0", tags := ownedBy "u" },
      { id := "sp_u_7", tags := ownedBy "u" }, { id := "sp_v_0", tags := ownedBy "v" }]
    let groups : List Group := [{ id := "sp_u_scope", tags := ownedBy "u" },
      { id := "sp_u_7_src", tags := ownedBy "u" }, { id := "sp_v_scope", tags := ownedBy "v" }]
    let w : World := { inventory := Inventory.empty.putAll { policies, rules, groups } }
    w.inventory.Coherent ∧ w.inventory.AllOwned ∧ '_' ∉ "u".toList ∧ w.answer = none ∧
      (b.remove r).DropsOwner "default" "u" w ∧ (b.removeOwner "u").DropsOwner "default" "u" w ∧
      ((b.remove r).after w).inventory.rules.objects.keys = ["sp_v_0"] ∧
      ((b.removeOwner "u").after w).inventory.groups.objects.keys = ["sp_v_scope"] := by
  intro b r ownedBy policies rules groups w
  have hm : w.inventory.Coherent := Inventory.coherent_empty.putAll _
  have hplain : '_' ∉ "u".toList ∧ '_' ∉ "v".toList := by decide
  have hpolicies : ∀ p ∈ policies, ∃ owner : String, '_' ∉ owner.toList ∧ OfOwner owner p :=
    List.forall_mem_cons.2 ⟨⟨"u", hplain.1, rfl, .policy⟩,
      List.forall_mem_singleton.2 ⟨"v", hplain.2, rfl, .policy⟩⟩
  have hrules : ∀ x ∈ rules, ∃ owner : String, '_' ∉ owner.toList ∧ OfOwner owner x :=
    List.forall_mem_cons.2 ⟨⟨"u", hplain.1, rfl, .rule 0⟩, List.forall_mem_cons.2
      ⟨⟨"u", hplain.1, rfl, .rule 7⟩, List.forall_mem_singleton.2 ⟨"v", hplain.2, rfl, .rule 0⟩⟩⟩
  have hgroups : ∀ g ∈ groups, ∃ owner : String, '_' ∉ owner.toList ∧ OfOwner owner g :=
    List.forall_mem_cons.2 ⟨⟨"u", hplain.1, rfl, .group .policyScope⟩,
      List.forall_mem_cons.2 ⟨⟨"u", hplain.1, rfl, .group (.source 7)⟩,
        List.forall_mem_singleton.2 ⟨"v", hplain.2, rfl, .group .policyScope⟩⟩⟩
  have hall : w.inventory.AllOwned := ⟨Store.allOwned_empty.putAll hpolicies,
    Store.allOwned_empty.putAll hrules, Store.allOwned_empty.putAll hgroups⟩
  obtain ⟨hresource, howner⟩ := removal_exact (b := b) hm hall hplain.1 rfl
  exact ⟨hm, hall, hplain.1, rfl, hresource r _ rfl rfl,
    howner "sp_u" { id := "sp_u", tags := ownedBy "u" } (by decide) rfl, by decide +kernel,
    by decide +kernel⟩

end Builder

end FirewallOperator
