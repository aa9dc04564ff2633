import FirewallOperator.Proofs.Convergence

/-! # What an update asks to be removed

An update sends rules and groups that are built as they are, and those that are not built any more
with a mark: `Patch.RemovesStale`. It should never mark the policy itself (`Patch.KeepsPolicy`), but
an unchanged policy is sent as it was found, and a mark is no part of what is compared.
`Builder.update_marks` says exactly when the policy goes out marked: when the stored one was marked
in the listing that filled the inventory, and is otherwise as built. -/

namespace FirewallOperator

open Operation

/-! ## Marks in a request -/

namespace Patch

/-- The rules and groups of a request that are marked are exactly those that are not built. -/
structure RemovesStale (p : Patch) (built : Built) : Prop where
  rules : ∀ mark q, .policy mark q ∈ p.children → ∀ x ∈ q.rules,
    x.marked = true ↔ x.id ∉ built.policy.rules.map Rule.id
  groups : ∀ mark g, .group mark g ∈ p.children →
    mark = g.marked ∧ (g.marked = true ↔ g.id ∉ built.groups.map Group.id)

/-- No policy of a request is marked, neither in itself nor where it is carried. -/
def KeepsPolicy (p : Patch) : Prop :=
  ∀ mark q, .policy mark q ∈ p.children → mark = false ∧ q.marked = false

variable {domain : String} {policy : Policy} {gs : List Group}

/-- The policy that was wrapped is the only one in a patch. -/
theorem policy_mem_wrap {mark : Bool} {q : Policy} :
    .policy mark q ∈ (wrap domain policy gs).children ↔ mark = policy.marked ∧ q = policy := by
  simp [children_wrap]

/-- The groups that were wrapped are the only ones in a patch. -/
theorem group_mem_wrap {mark : Bool} {g : Group} :
    .group mark g ∈ (wrap domain policy gs).children ↔ g ∈ gs ∧ mark = g.marked := by
  simp only [children_wrap, List.mem_append, List.mem_map, List.mem_singleton, reduceCtorEq,
    or_false, Child.group.injEq]
  constructor
  · rintro ⟨x, hx, rfl, rfl⟩
    exact ⟨hx, rfl⟩
  · rintro ⟨hg, rfl⟩
    exact ⟨g, hg, rfl, rfl⟩

/-- The policy of a request is kept exactly when it is not marked itself. -/
theorem keepsPolicy_wrap : (wrap domain policy gs).KeepsPolicy ↔ policy.marked = false := by
  constructor
  · intro h
    exact (h policy.marked policy (policy_mem_wrap.2 ⟨rfl, rfl⟩)).2
  · intro hm mark q hq
    obtain ⟨rfl, rfl⟩ := policy_mem_wrap.1 hq
    exact ⟨hm, hm⟩

end Patch

/-- Of the objects to write, those that are not wanted are marked, and no others. -/
theorem Difference.marked_iff_of_mem_writes {α : Type} [Managed α] {uid : String}
    {existing wanted : List α} (hw : Wanted uid wanted) {x : α}
    (hx : x ∈ (between existing wanted).writes) :
    Managed.marked x = true ↔ Managed.id x ∉ wanted.map Managed.id := by
  rcases List.mem_append.1 hx with hx | hx
  · obtain ⟨y, hy, rfl⟩ := List.mem_map.1 hx
    have hnot := (mem_stale.1 (List.mem_reverse.1 hy)).2
    rw [Managed.marked_setMarked, Managed.id_setMarked, List.mem_map]
    exact iff_of_true rfl fun ⟨w, hwm, hid⟩ => hnot w hwm hid
  · have hxm := (mem_changed.1 hx).1
    rw [hw.unmarked x hxm]
    exact iff_of_false Bool.false_ne_true fun hnot => hnot (List.mem_map_of_mem hxm)

/-! ## Planned updates -/

namespace Change

variable {m : Inventory} {uid : String} {built : Built} {c : Change}

/-- The rules and groups of a planned update are the differences to what is stored. -/
theorem writes_of_toBuilt (hc : toBuilt m uid built = some c) :
    c.rules = (Difference.between (m.rules.ownedBy uid) built.policy.rules).writes ∧
      c.groups = (Difference.between (m.groups.ownedBy uid) built.groups).writes := by
  rw [toBuilt] at hc
  split at hc
  · cases hc
  · cases hc
    exact ⟨rfl, rfl⟩

/-- The policy of a planned update is the stored one when that says the same, and the built one
otherwise. -/
theorem policy_of_toBuilt (hc : toBuilt m uid built = some c) (hb : built.Belongs uid) :
    (∃ old, m.policies.get? (policyId uid) = some old ∧
        fingerprint old = fingerprint built.policy ∧ c.policy = old) ∨
      ((∀ old, m.policies.get? (policyId uid) = some old →
        fingerprint old ≠ fingerprint built.policy) ∧ c.policy = built.policy.withoutRules) := by
  have hid : built.policy.withoutRules.id = policyId uid := hb.policy_id
  rw [toBuilt] at hc
  split at hc
  · cases hc
  · cases hc
    simp only
    cases hdiff : Difference.differs (m.policies.get? built.policy.withoutRules.id)
        built.policy.withoutRules with
    | false =>
      obtain ⟨old, hold, hfp⟩ := Difference.differs_eq_false_iff.1 hdiff
      rw [if_neg Bool.false_ne_true, hold]
      exact .inl ⟨old, hid ▸ hold, hfp, rfl⟩
    | true =>
      refine .inr ⟨fun old hold hfp => ?_, rfl⟩
      have hsame : fingerprint old = fingerprint built.policy.withoutRules := hfp
      rw [Difference.differs_eq_false_iff.2 ⟨old, hid.symm ▸ hold, hsame⟩] at hdiff
      cases hdiff

/-- The rules and groups of a planned update are marked when they are not built. -/
theorem removesStale_of_toBuilt (hc : toBuilt m uid built = some c) (hb : built.Belongs uid)
    (domain : String) : (c.patch domain).RemovesStale built := by
  obtain ⟨hrules, hgroups⟩ := writes_of_toBuilt hc
  constructor
  · intro mark q hq x hx
    obtain ⟨-, rfl⟩ := Patch.policy_mem_wrap.1 hq
    rw [hrules] at hx
    exact Difference.marked_iff_of_mem_writes hb.rules hx
  · intro mark g hg
    obtain ⟨hg, hmark⟩ := Patch.group_mem_wrap.1 hg
    rw [hgroups] at hg
    exact ⟨hmark, Difference.marked_iff_of_mem_writes hb.groups hg⟩

/-- The policy of a planned update is marked exactly when the stored one is, and says the same as
the built one. -/
theorem keepsPolicy_of_toBuilt (hc : toBuilt m uid built = some c) (hb : built.Belongs uid)
    (domain : String) :
    (c.patch domain).KeepsPolicy ↔ ¬ ∃ old, m.policies.get? (policyId uid) = some old ∧
      old.marked = true ∧ fingerprint old = fingerprint built.policy := by
  have hpatch : (c.patch domain).KeepsPolicy ↔ c.policy.marked = false := Patch.keepsPolicy_wrap
  rw [hpatch]
  rcases policy_of_toBuilt hc hb with ⟨old, hold, hfp, hpolicy⟩ | ⟨hnone, hpolicy⟩
  · rw [hpolicy, ← Bool.not_eq_true, not_iff_not]
    constructor
    · intro hm
      exact ⟨old, hold, hm, hfp⟩
    · rintro ⟨other, hother, hm, -⟩
      obtain rfl : old = other := Option.some.inj (hold.symm.trans hother)
      exact hm
  · rw [hpolicy]
    exact iff_of_true hb.policy_unmarked fun ⟨old, hold, _, hfp⟩ => hnone old hold hfp

end Change

/-! ## Updates -/

namespace Builder

variable {b : Builder} {a : Arrivals} {r : Resource} {w : World}

/-- The request of an update is a planned one. -/
theorem mem_sent_update {call : Call} (h : call ∈ (b.update r).sent w) :
    ∃ built c, b.build r = .ok built ∧
      Change.toBuilt w.inventory (r.metadata.uid.getD "") built = some c ∧
      call = .patchInfra false (c.patch b.domain) := by
  rw [sent_update] at h
  split at h
  case h_1 c hplan =>
    obtain ⟨built, hb, hc⟩ := bind_eq_ok.1 hplan
    exact ⟨built, c, hb, pure_eq_ok.1 hc, List.mem_singleton.1 h⟩
  case h_2 => cases h

/-- A stored policy that is marked was listed so. -/
theorem Reaches.listed_of_marked {m : Inventory} (h : b.Reaches a m) {id : String} {p : Policy}
    (hp : m.policies.get? id = some p) (hm : p.marked = true) :
    ∃ old ∈ a.policies.objects, old.marked = true ∧ p = old.withoutRules := by
  have hall : ∀ id p, m.policies.get? id = some p → p.marked = true →
      ∃ old ∈ a.policies.objects, p = old.withoutRules := by
    -- jobs store no marked policy, so it is there since the inventory was filled
    refine h.invariant (P := fun m => ∀ id p, m.policies.get? id = some p → p.marked = true →
      ∃ old ∈ a.policies.objects, p = old.withoutRules) (fun hfill => ?_) ?_ fun g hm => hm
    · intro id p hp _
      have hempty : (Store.empty : Store Policy).get? id = none := rfl
      rw [Arrivals.sync_eq_filled hfill] at hp
      simp only [Arrivals.filled, Inventory.empty, Store.get?_putAll, hempty, Option.or_none] at hp
      obtain ⟨old, hold, hwithout⟩ := List.mem_map.1 (Difference.mem_of_lastWith hp).1
      exact ⟨old, hold, hwithout.symm⟩
    · intro m c hm hc id p hp hmarked
      rcases hc.policy_after hp with hold | hunmarked
      · exact hm id p hold hmarked
      · rw [hmarked] at hunmarked
        cases hunmarked
  obtain ⟨old, hold, rfl⟩ := hall id p hp hm
  exact ⟨old, hold, hm, rfl⟩

/-- **Removals.** From any inventory that is reached, the request of an update marks exactly those
rules and groups that are not built. It keeps the policy, unless the stored policy is one that was
listed as marked and that otherwise says what was built. -/
theorem update_marks (hw : b.Reaches a w.inventory) {enforceRevision : Bool} {p : Patch}
    (hp : .patchInfra enforceRevision p ∈ (b.update r).sent w) :
    ∃ uid built, r.metadata.uid = some uid ∧ b.build r = .ok built ∧ p.RemovesStale built ∧
      (p.KeepsPolicy ↔ ¬ ∃ old ∈ a.policies.objects, old.marked = true ∧
        w.inventory.policies.get? (policyId uid) = some old.withoutRules ∧
        fingerprint old = fingerprint built.policy) := by
  obtain ⟨built, c, hb, hc, hcall⟩ := mem_sent_update hp
  obtain ⟨-, rfl⟩ := Call.patchInfra.inj hcall
  have hbelongs := belongs_of_build hb
  refine ⟨_, built, uid_of_build hb, hb, Change.removesStale_of_toBuilt hc hbelongs _, ?_⟩
  rw [Change.keepsPolicy_of_toBuilt hc hbelongs, not_iff_not]
  constructor
  · rintro ⟨p, hstored, hm, hfp⟩
    obtain ⟨old, hold, hmold, rfl⟩ := hw.listed_of_marked hstored hm
    exact ⟨old, hold, hmold, hstored, hfp⟩
  · rintro ⟨old, -, hm, hstored, hfp⟩
    exact ⟨old.withoutRules, hstored, hm, hfp⟩

/-- The first update of a resource with one rule: the request keeps the policy. -/
theorem update_marks_from_empty :
    let b : Builder := ⟨"k", "default"⟩
    let r : Resource := {
      metadata := { name := some "web", ownNamespace := some "shop", uid := some "u" }
      spec := { appliedTo := [{ pods := some .empty }], rules := [{}] } }
    let w : World := {}
    b.Reaches {} w.inventory ∧ ∃ p, .patchInfra false p ∈ (b.update r).sent w ∧
      ∃ uid built, r.metadata.uid = some uid ∧ b.build r = .ok built ∧ p.RemovesStale built ∧
        (p.KeepsPolicy ↔ ¬ ∃ old ∈ ([] : List Policy), old.marked = true ∧
          w.inventory.policies.get? (policyId uid) = some old.withoutRules ∧
          fingerprint old = fingerprint built.policy) := by
  intro b r w
  have hw : b.Reaches {} w.inventory := .filled rfl
  obtain ⟨p, hp⟩ : ∃ p, (b.update r).sent w = [.patchInfra false p] := ⟨_, rfl⟩
  have hmem : .patchInfra false p ∈ (b.update r).sent w := hp ▸ List.mem_singleton_self _
  exact ⟨hw, p, hmem, update_marks hw hmem⟩

/-- A policy was listed as marked, and its group and rule were not listed. The update that is to
create the group and the rule asks for the removal of the policy. -/
theorem update_removes_listed_policy :
    let b : Builder := ⟨"k", "default"⟩
    let r : Resource := {
      metadata := { name := some "web", ownNamespace := some "shop", uid := some "u" }
      spec := { appliedTo := [{ pods := some .empty }], rules := [{}] } }
    let listed : Policy := {
      id := "sp_u"
      displayName := "shop-web"
      scope := [groupPath "default" "sp_u_scope"]
      tags := [⟨Tag.clusterScope, "k"⟩, ⟨Tag.namespaceScope, "shop"⟩, ⟨Tag.nameScope, "web"⟩,
        ⟨Tag.ownerScope, "u"⟩]
      marked := true }
    let a : Arrivals := { policies := { objects := [listed] } }
    let w : World := { inventory := (a.sync .empty).1 }
    b.Reaches a w.inventory ∧ ∃ p, .patchInfra false p ∈ (b.update r).sent w ∧ ¬ p.KeepsPolicy := by
  intro b r listed a w
  have hw : b.Reaches a w.inventory := .filled rfl
  have hstored : w.inventory.policies.get? (policyId "u") = some listed := rfl
  obtain ⟨built, hb, hfp, hrules⟩ : ∃ built, b.build r = .ok built ∧
      fingerprint listed = fingerprint built.policy ∧ built.policy.rules.length = 1 :=
    ⟨_, rfl, rfl, rfl⟩
  have hbelongs : built.Belongs "u" := belongs_of_build hb
  cases hc : Change.toBuilt w.inventory "u" built with
  | none =>
    have hsettled := ((Change.toBuilt_eq_none_iff hw.coherent hbelongs).1 hc).rules.length_eq
    have hnone : w.inventory.rules.ownedBy "u" = [] := rfl
    rw [List.length_map, List.length_map, hnone, hrules] at hsettled
    cases hsettled
  | some c =>
    have hplan : Change.forUpdate b w.inventory r = .ok (some c) :=
      (Change.forUpdate_of_build hb).trans (congrArg Except.ok hc)
    refine ⟨hw, c.patch b.domain, ?_, ?_⟩
    · rw [sent_update, hplan]
      exact List.mem_singleton_self _
    · rw [Change.keepsPolicy_of_toBuilt hc hbelongs, not_not]
      exact ⟨listed, hstored, rfl, hfp⟩

end Builder

end FirewallOperator
