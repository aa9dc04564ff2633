import FirewallOperator.Proofs.Isolation
import FirewallOperator.Proofs.Releases

/-! # What a collection sends

A collection goes through the owners that are not alive, and removes each from the inventory that
the removals before it have left. Such a removal takes away objects of its own owner only, so the
next ones find what they would have found at the start (`Store.Coherent.ownedBy_applyAll_removals`).
What is sent is therefore told by the first inventory alone, whatever the backend answers on the
way: `Builder.sent_collect`. -/

namespace FirewallOperator

open Operation

/-! ## Removals and other owners -/

/-- Removing objects of an owner touches nothing that has another owner, or none. -/
theorem Store.Coherent.get?_removals_iff {α : Type} [Managed α] {s : Store α} (hs : s.Coherent)
    {u : String} {xs : List α} (hxs : ∀ x ∈ xs, x ∈ s.ownedBy u) {id : String} {x : α}
    (hne : owner? x ≠ some u) :
    (s.applyAll (Difference.removals xs)).get? id = some x ↔ s.get? id = some x := by
  rw [get?_applyAll_removals]
  split
  case isTrue hmem =>
    -- what is stored under the identity is the owner's
    obtain ⟨y, hy, hid⟩ := List.mem_map.1 hmem
    obtain ⟨hget, hu⟩ := hs.mem_ownedBy.1 (hxs y hy)
    constructor
    · intro hnone
      cases hnone
    · intro hx
      rw [← hid, hget] at hx
      exact absurd (Option.some.inj hx ▸ hu) hne
  case isFalse => exact Iff.rfl

/-- Removing objects of one owner leaves those of another as they are. -/
theorem Store.Coherent.ownedBy_applyAll_removals {α : Type} [Managed α] {s : Store α}
    (hs : s.Coherent) {u v : String} {xs : List α} (hxs : ∀ x ∈ xs, x ∈ s.ownedBy u)
    (hne : u ≠ v) : (s.applyAll (Difference.removals xs)).ownedBy v = s.ownedBy v := by
  refine (hs.applyAll _).ownedBy_congr hs fun x hv => hs.get?_removals_iff hxs fun hu => hne ?_
  exact Option.some.inj (hu.symm.trans hv)

/-- No text comes twice in a difference of sets. -/
theorem TextSet.nodup_difference (s t : TextSet) : (s.difference t).Nodup := by
  refine List.Nodup.filter _ ?_
  exact (SortedMap.keys_ordered _).imp fun hlt => String.ne_of_lt hlt

namespace Inventory

/-- Two inventories have the same objects of an owner. -/
structure SameOwned (v : String) (m n : Inventory) : Prop where
  policies : m.policies.ownedBy v = n.policies.ownedBy v
  rules : m.rules.ownedBy v = n.rules.ownedBy v
  groups : m.groups.ownedBy v = n.groups.ownedBy v

variable {m n : Inventory} {u v : String} {c : Change}

/-- A removal by owner is that of one of the owner's policies, with all rules and groups. -/
theorem exists_policy_of_forOwner (hc : Change.forOwner m u = some c) :
    ∃ policy, (∀ p ∈ [policy], p ∈ m.policies.ownedBy u) ∧
      c = Change.removing m policy (m.rules.ownedBy u) (m.groups.ownedBy u) := by
  obtain ⟨policy, hhead, rfl⟩ := Option.map_eq_some_iff.1 hc
  refine ⟨policy, fun p hp => ?_, rfl⟩
  rw [List.mem_singleton.1 hp]
  exact List.mem_of_mem_head? hhead

/-- The removal of what an owner has leaves what another one has. -/
theorem sameOwned_of_forOwner (hm : m.Coherent) (hc : Change.forOwner m u = some c)
    (hne : u ≠ v) : c.after.SameOwned v m := by
  obtain ⟨policy, hpolicy, rfl⟩ := exists_policy_of_forOwner hc
  exact ⟨hm.policies.ownedBy_applyAll_removals hpolicy hne,
    hm.rules.ownedBy_applyAll_removals (fun _ hx => hx) hne,
    hm.groups.ownedBy_applyAll_removals (fun _ hg => hg) hne⟩

end Inventory

/-! ## Rows of removals -/

namespace Builder

variable {b : Builder} {w : World} {m n : Inventory} {u v : String}

/-- The request that removes an owner, if the inventory has a policy of it. -/
def removal? (b : Builder) (m : Inventory) (owner : String) : Option Call :=
  (Change.forOwner m owner).map fun c => .patchInfra false (c.patch b.domain)

/-- It is told by the owner's objects. -/
theorem removal?_congr (h : m.SameOwned v n) : b.removal? m v = b.removal? n v := by
  simp only [removal?, Change.forOwner, Option.map_map, h.policies, h.rules, h.groups]
  rfl

/-- A removal by owner makes the one call that it plans, if any. -/
theorem calls_removeOwner (b : Builder) (owner : String) (w : World) :
    ((b.removeOwner owner).after w).calls = w.calls ++ (b.removal? w.inventory owner).toList := by
  rw [after, exec_removeOwner, removal?]
  cases Change.forOwner w.inventory owner with
  | none => exact (List.append_nil _).symm
  | some c =>
    simp only [Change.exec_submit]
    cases w.answer <;> rfl

/-- Whether the removal is accepted or not, the next owner's objects stay. -/
theorem sameOwned_removeOwner (hm : w.inventory.Coherent) (hne : u ≠ v) :
    ((b.removeOwner u).after w).inventory.SameOwned v w.inventory := by
  have hsame : w.inventory.SameOwned v w.inventory := ⟨rfl, rfl, rfl⟩
  rcases b.after_removeOwner_cases u w with hstay | ⟨c, hc, hafter⟩
  · rw [hstay]
    exact hsame
  · rw [hafter]
    exact submit_keeps (P := (·.SameOwned v w.inventory))
      (Inventory.sameOwned_of_forOwner hm hc hne) hsame

/-- The world after the removal of a vanished owner is that after a removal by owner. -/
theorem sweepOne_snd (b : Builder) (owner : String) (w : World) :
    (b.sweepOne owner w).2 = (b.removeOwner owner).after w := by
  rw [sweepOne]
  split
  case isTrue hempty =>
    have hnone : Change.forOwner w.inventory owner = none := by
      rw [Change.forOwner, List.isEmpty_iff.1 hempty]
      rfl
    rw [after, exec_removeOwner, hnone]
  case isFalse =>
    rw [after]
    rcases (b.removeOwner owner).exec w with ⟨_ | _, v⟩ <;> rfl

/-- A sweep removes one owner after the other. -/
theorem after_sweep_cons (b : Builder) (owner : String) (rest : List String) (w : World) :
    (b.sweep (owner :: rest)).after w = (b.sweep rest).after ((b.removeOwner owner).after w) := by
  rw [after, exec_sweep_cons, sweepOne_snd]
  generalize (b.removeOwner owner).after w = v
  rw [after]
  rcases (b.sweep rest).exec v with ⟨_ | _, _⟩ <;> rfl

/-- Every removal of a sweep is the one that is planned on the first inventory. -/
theorem calls_sweep (hm : w.inventory.Coherent) {owners : List String} (hn : owners.Nodup) :
    ((b.sweep owners).after w).calls = w.calls ++ owners.filterMap (b.removal? w.inventory) := by
  induction owners generalizing w with
  | nil => exact (List.append_nil _).symm
  | cons owner rest ih =>
    obtain ⟨hnew, hrest⟩ := List.nodup_cons.1 hn
    have hlater : rest.filterMap (b.removal? ((b.removeOwner owner).after w).inventory) =
        rest.filterMap (b.removal? w.inventory) := by
      refine List.filterMap_congr fun v hv => removal?_congr (sameOwned_removeOwner hm ?_)
      rintro rfl
      exact hnew hv
    rw [after_sweep_cons, ih ((b.removeOwner_steps owner w).coherent hm) hrest, hlater,
      calls_removeOwner, List.append_assoc]
    cases hcall : b.removal? w.inventory owner with
    | none => rw [List.filterMap_cons_none hcall]; rfl
    | some call => rw [List.filterMap_cons_some hcall]; rfl

/-- A collection lists the resources, and then removes each owner that is not alive and has a
policy, as the inventory had it at the start. -/
theorem sent_collect (hm : w.inventory.Coherent) (live : TextSet) :
    (b.collect { uids := .ok live }).sent w =
      .listLive :: (w.inventory.owners.difference live).filterMap (b.removal? w.inventory) := by
  have hcalls := calls_sweep (b := b) (w := (w.called .listLive).stocked w.inventory) hm
    (w.inventory.owners.nodup_difference live)
  rw [World.calls_stocked, World.calls_called, List.append_assoc] at hcalls
  rw [sent, after, exec_collect]
  show List.drop _ ((b.sweep (w.inventory.owners.difference live)).after
    ((w.called .listLive).stocked w.inventory)).calls = _
  rw [hcalls, List.drop_left]
  rfl

/-- An owner that is removed is one that the inventory has. -/
theorem contains_owners_of_removal? (hm : m.Coherent) {owner : String} {call : Call}
    (h : b.removal? m owner = some call) : m.owners.contains owner := by
  obtain ⟨c, hc, -⟩ := Option.map_eq_some_iff.1 h
  obtain ⟨policy, hhead, -⟩ := Option.map_eq_some_iff.1 hc
  have hpolicies : m.policies.owners.contains owner :=
    hm.policies.contains_owners.2 (List.ne_nil_of_mem (List.mem_of_mem_head? hhead))
  rw [Inventory.owners, TextSet.contains_union, hpolicies, Bool.true_or]

/-- The calls of a collection are the listing, and the removals of the owners that are not alive. -/
theorem mem_sent_collect (hm : w.inventory.Coherent) {live : TextSet} {call : Call} :
    call ∈ (b.collect { uids := .ok live }).sent w ↔
      call = .listLive ∨
        ∃ owner, ¬ live.contains owner ∧ b.removal? w.inventory owner = some call := by
  rw [sent_collect hm, List.mem_cons, List.mem_filterMap]
  refine or_congr_right (exists_congr fun owner => ?_)
  rw [TextSet.mem_difference]
  constructor
  · rintro ⟨⟨-, hlive⟩, hcall⟩
    exact ⟨hlive, hcall⟩
  · rintro ⟨hlive, hcall⟩
    exact ⟨⟨contains_owners_of_removal? hm hcall, hlive⟩, hcall⟩

end Builder

end FirewallOperator
