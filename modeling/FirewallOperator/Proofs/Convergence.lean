import FirewallOperator.Proofs.Building
import FirewallOperator.Proofs.Filling
import Mathlib.Data.List.Perm.Lattice

/-! # Updates converge

An update compares what is stored of an owner with what its resource is built into.
`Difference.isEmpty_between_iff` says when the comparison finds nothing: when both have the same
identities with the same fingerprints. `Store.Coherent.settled_applyAll` says that this is so once
the difference has been written. Hence `Builder.update_converges`: after an update that succeeds the
inventory has what was built, and the same update again does nothing. -/

namespace FirewallOperator

variable {α : Type} [Managed α]

/-- What is compared of an object: its identity and its fingerprint. -/
def signature (x : α) : String × String := (Managed.id x, fingerprint x)

/-- Stored objects are as wanted: they have the same identities with the same fingerprints. -/
def Settled (existing wanted : List α) : Prop :=
  (existing.map signature).Perm (wanted.map signature)

/-- Objects with different identities have different signatures. -/
theorem nodup_signature {xs : List α} (h : (xs.map Managed.id).Nodup) :
    (xs.map signature).Nodup := by
  refine List.Nodup.of_map Prod.fst ?_
  rw [List.map_map]
  exact h

/-- Objects are as wanted when each wanted one is there, and nothing else. -/
theorem settled_of_matching {existing wanted : List α} (he : (existing.map Managed.id).Nodup)
    (hw : (wanted.map Managed.id).Nodup)
    (hfound : ∀ w ∈ wanted, ∃ x ∈ existing, signature x = signature w)
    (honly : ∀ x ∈ existing, ∃ w ∈ wanted, Managed.id w = Managed.id x) :
    Settled existing wanted := by
  rw [Settled, List.perm_ext_iff_of_nodup (nodup_signature he) (nodup_signature hw)]
  intro s
  rw [List.mem_map, List.mem_map]
  constructor
  -- what is there is wanted, and is the one that was found for it, as identities are distinct
  · rintro ⟨x, hx, rfl⟩
    obtain ⟨w, hwm, hid⟩ := honly x hx
    obtain ⟨y, hy, hsig⟩ := hfound w hwm
    have hyx : Managed.id y = Managed.id x := (congrArg Prod.fst hsig).trans hid
    rw [List.inj_on_of_nodup_map he hy hx hyx] at hsig
    exact ⟨w, hwm, hsig.symm⟩
  · rintro ⟨w, hwm, rfl⟩
    obtain ⟨x, hx, hsig⟩ := hfound w hwm
    exact ⟨x, hx, hsig⟩

/-! ## Differences -/

namespace Difference

variable {existing wanted : List α} {w x : α}

/-- What is wanted counts as equal exactly to an object with its fingerprint. -/
theorem differs_eq_false_iff {old : Option α} :
    differs old w = false ↔ ∃ x, old = some x ∧ fingerprint x = fingerprint w := by
  cases old with
  | none => simp [differs]
  | some x => simp [differs]

/-- What is wanted is written if it differs from the last object of its identity. -/
theorem mem_changed :
    w ∈ (between existing wanted).changed ↔
      w ∈ wanted ∧ differs (lastWith (Managed.id w) existing) w = true := by
  rw [between, List.mem_filter]

/-- What exists is removed if nothing of its identity is wanted. -/
theorem mem_stale :
    x ∈ (between existing wanted).stale ↔
      x ∈ existing ∧ ∀ w ∈ wanted, Managed.id w ≠ Managed.id x := by
  simp [between, List.mem_filter]

/-- There is nothing to write exactly when the stored objects are as wanted. -/
theorem isEmpty_between_iff (he : (existing.map Managed.id).Nodup)
    (hw : (wanted.map Managed.id).Nodup) :
    (between existing wanted).isEmpty = true ↔ Settled existing wanted := by
  rw [isEmpty, Bool.and_eq_true, List.isEmpty_iff, List.isEmpty_iff,
    List.eq_nil_iff_forall_not_mem, List.eq_nil_iff_forall_not_mem]
  constructor
  -- what is not rewritten has its partner in the last object of its identity
  · rintro ⟨hchanged, hstale⟩
    refine settled_of_matching he hw (fun w hwm => ?_) fun x hx => ?_
    · have hsame : differs (lastWith (Managed.id w) existing) w = false :=
        Bool.eq_false_iff.2 fun hd => hchanged w (mem_changed.2 ⟨hwm, hd⟩)
      obtain ⟨x, hlast, hfp⟩ := differs_eq_false_iff.1 hsame
      obtain ⟨hx, hid⟩ := mem_of_lastWith hlast
      exact ⟨x, hx, Prod.ext hid hfp⟩
    · by_contra hnone
      exact hstale x (mem_stale.2 ⟨hx, fun w hwm hid => hnone ⟨w, hwm, hid⟩⟩)
  · intro hsettled
    constructor
    · intro w hch
      obtain ⟨hwm, hdiff⟩ := mem_changed.1 hch
      obtain ⟨x, hx, hsig⟩ := List.mem_map.1 (hsettled.mem_iff.2 (List.mem_map_of_mem hwm))
      have hid : Managed.id x = Managed.id w := congrArg Prod.fst hsig
      have hlast : lastWith (Managed.id w) existing = some x := hid ▸ lastWith_of_mem he hx
      rw [differs_eq_false_iff.2 ⟨x, hlast, congrArg Prod.snd hsig⟩] at hdiff
      cases hdiff
    · intro x hst
      obtain ⟨hx, hnot⟩ := mem_stale.1 hst
      obtain ⟨w, hwm, hsig⟩ := List.mem_map.1 (hsettled.mem_iff.1 (List.mem_map_of_mem hx))
      exact hnot w hwm (congrArg Prod.fst hsig)

/-- Among the objects to write, a wanted identity stands for the wanted object, if it differs. -/
theorem lastWith_writes_of_mem (hw : (wanted.map Managed.id).Nodup) (hwm : w ∈ wanted) :
    lastWith (Managed.id w) (between existing wanted).writes =
      if differs (lastWith (Managed.id w) existing) w then some w else none := by
  have hremovals : lastWith (Managed.id w) (removals (between existing wanted).stale) = none := by
    refine lastWith_eq_none.2 fun y hy hid => ?_
    obtain ⟨x, hx, rfl⟩ := List.mem_map.1 hy
    rw [Managed.id_setMarked] at hid
    exact (mem_stale.1 (List.mem_reverse.1 hx)).2 w hwm hid.symm
  have hchanged : ((between existing wanted).changed.map Managed.id).Nodup :=
    hw.sublist (List.filter_sublist.map _)
  rw [writes, lastWith_append, hremovals, Option.or_none]
  split
  case isTrue hdiff => exact lastWith_of_mem hchanged (mem_changed.2 ⟨hwm, hdiff⟩)
  case isFalse hsame =>
    refine lastWith_eq_none.2 fun y hy hid => ?_
    obtain ⟨hym, hdiff⟩ := mem_changed.1 hy
    rw [List.inj_on_of_nodup_map hw hym hwm hid] at hdiff
    exact hsame hdiff

/-- What exists under an identity that is not wanted is written as a removal. -/
theorem lastWith_writes_of_stale (hx : x ∈ (between existing wanted).stale) :
    ∃ y, lastWith (Managed.id x) (between existing wanted).writes = some y ∧
      Managed.marked y = true := by
  have hchanged : lastWith (Managed.id x) (between existing wanted).changed = none :=
    lastWith_eq_none.2 fun y hy => (mem_stale.1 hx).2 y (mem_changed.1 hy).1
  rw [writes, lastWith_append, hchanged, Option.none_or]
  cases hlast : lastWith (Managed.id x) (removals (between existing wanted).stale) with
  | none =>
    have hmem : Managed.setMarked true x ∈ removals (between existing wanted).stale :=
      List.mem_map_of_mem (List.mem_reverse.2 hx)
    exact absurd (Managed.id_setMarked true x) (lastWith_eq_none.1 hlast _ hmem)
  | some y => exact ⟨y, rfl, marked_of_mem_removals (mem_of_lastWith hlast).1⟩

/-- An identity that neither exists nor is wanted is not written. -/
theorem lastWith_writes_eq_none {id : String} (he : ∀ x ∈ existing, Managed.id x ≠ id)
    (hw : ∀ w ∈ wanted, Managed.id w ≠ id) :
    lastWith id (between existing wanted).writes = none := by
  refine lastWith_eq_none.2 fun y hy => ?_
  rcases List.mem_append.1 hy with hy | hy
  · obtain ⟨x, hx, rfl⟩ := List.mem_map.1 hy
    rw [Managed.id_setMarked]
    exact he x (mem_stale.1 (List.mem_reverse.1 hx)).1
  · exact hw y (mem_changed.1 hy).1

end Difference

/-! ## Stores -/

namespace Store

open Difference (between lastWith lastWith_eq_none mem_of_lastWith lastWith_writes_of_mem
  lastWith_writes_of_stale lastWith_writes_eq_none differs_eq_false_iff mem_stale)

variable {s : Store α} {uid : String} {wanted : List α}

/-- Once the difference has been written, each wanted object is stored, or one that says the
same. -/
theorem Coherent.get?_written (hs : s.Coherent) (hw : Wanted uid wanted) {w : α}
    (hwm : w ∈ wanted) :
    ∃ x, (s.applyAll (between (s.ownedBy uid) wanted).writes).get? (Managed.id w) = some x ∧
      owner? x = some uid ∧ fingerprint x = fingerprint w := by
  rw [get?_applyAll, lastWith_writes_of_mem hw.distinct hwm]
  cases hdiff : Difference.differs (lastWith (Managed.id w) (s.ownedBy uid)) w with
  | true => exact ⟨w, by simp [hw.unmarked w hwm], hw.owned w hwm, rfl⟩
  | false =>
    obtain ⟨x, hlast, hfp⟩ := differs_eq_false_iff.1 hdiff
    obtain ⟨hx, hid⟩ := mem_of_lastWith hlast
    obtain ⟨hget, ho⟩ := hs.mem_ownedBy.1 hx
    exact ⟨x, hid ▸ hget, ho, hfp⟩

/-- Once the difference has been written, the owner has no other objects. -/
theorem Coherent.exists_wanted_of_written (hs : s.Coherent) {x : α}
    (hx : x ∈ (s.applyAll (between (s.ownedBy uid) wanted).writes).ownedBy uid) :
    ∃ w ∈ wanted, Managed.id w = Managed.id x := by
  by_contra hnone
  have hnot : ∀ w ∈ wanted, Managed.id w ≠ Managed.id x := fun w hwm hid => hnone ⟨w, hwm, hid⟩
  obtain ⟨hget, ho⟩ := (hs.applyAll _).mem_ownedBy.1 hx
  rw [get?_applyAll] at hget
  -- an object that is not wanted was either there before, and is removed now, or is not written
  cases hlast : lastWith (Managed.id x) (s.ownedBy uid) with
  | some y =>
    obtain ⟨hy, hid⟩ := mem_of_lastWith hlast
    obtain ⟨z, hz, hmarked⟩ := lastWith_writes_of_stale (mem_stale.2 ⟨hy, hid ▸ hnot⟩)
    rw [hid] at hz
    rw [hz] at hget
    simp [hmarked] at hget
  | none =>
    have habsent := lastWith_eq_none.1 hlast
    rw [lastWith_writes_eq_none habsent hnot] at hget
    exact habsent x (hs.mem_ownedBy.2 ⟨hget, ho⟩) rfl

/-- Writing the difference makes the owner's objects as wanted. -/
theorem Coherent.settled_applyAll (hs : s.Coherent) (hw : Wanted uid wanted) :
    Settled ((s.applyAll (between (s.ownedBy uid) wanted).writes).ownedBy uid) wanted := by
  have hs' := hs.applyAll (between (s.ownedBy uid) wanted).writes
  refine settled_of_matching (hs'.nodup_ownedBy uid) hw.distinct (fun w hwm => ?_)
    fun x hx => hs.exists_wanted_of_written hx
  obtain ⟨x, hget, ho, hfp⟩ := hs.get?_written hw hwm
  have hid := hs'.keyed hget
  exact ⟨x, hs'.mem_ownedBy.2 ⟨hid.symm ▸ hget, ho⟩, Prod.ext hid hfp⟩

end Store

/-! ## Inventories -/

/-- An inventory has what was built for a uid: the policy, and of rules and groups exactly the built
ones, by identity and fingerprint. -/
structure Inventory.Realizes (m : Inventory) (uid : String) (built : Built) : Prop where
  policy : ∃ p, m.policies.get? (policyId uid) = some p ∧ fingerprint p = fingerprint built.policy
  rules : Settled (m.rules.ownedBy uid) built.policy.rules
  groups : Settled (m.groups.ownedBy uid) built.groups

/-- An inventory that has what was built has something else that was built exactly when both compare
as equal. -/
theorem Inventory.Realizes.iff_settled {m : Inventory} {uid : String} {first second : Built}
    (h : m.Realizes uid first) :
    m.Realizes uid second ↔ fingerprint first.policy = fingerprint second.policy ∧
      Settled first.policy.rules second.policy.rules ∧ Settled first.groups second.groups := by
  obtain ⟨stored, hstored, hfp⟩ := h.policy
  constructor
  · intro hsecond
    obtain ⟨other, hother, hfp'⟩ := hsecond.policy
    obtain rfl : stored = other := Option.some.inj (hstored.symm.trans hother)
    exact ⟨hfp.symm.trans hfp', (List.Perm.symm h.rules).trans hsecond.rules,
      (List.Perm.symm h.groups).trans hsecond.groups⟩
  · rintro ⟨hpolicy, hrules, hgroups⟩
    exact ⟨⟨stored, hstored, hfp.trans hpolicy⟩, List.Perm.trans h.rules hrules,
      List.Perm.trans h.groups hgroups⟩

namespace Change

variable {m : Inventory} {uid : String} {built : Built}

/-- Nothing is planned exactly when the inventory already has what was built. -/
theorem toBuilt_eq_none_iff (hm : m.Coherent) (hb : built.Belongs uid) :
    toBuilt m uid built = none ↔ m.Realizes uid built := by
  have hpolicy : Difference.differs (m.policies.get? built.policy.withoutRules.id)
      built.policy.withoutRules = false ↔
      ∃ p, m.policies.get? (policyId uid) = some p ∧ fingerprint p = fingerprint built.policy := by
    rw [Difference.differs_eq_false_iff, fingerprint_withoutRules, ← hb.policy_id]
    rfl
  have hrules := Difference.isEmpty_between_iff (hm.rules.nodup_ownedBy uid) hb.rules.distinct
  have hgroups := Difference.isEmpty_between_iff (hm.groups.nodup_ownedBy uid) hb.groups.distinct
  rw [toBuilt]
  simp only [ite_eq_left_iff, reduceCtorEq, imp_false, not_not, Bool.and_eq_true,
    Bool.not_eq_true', hpolicy, hrules, hgroups]
  constructor
  · rintro ⟨⟨hp, hr⟩, hg⟩
    exact ⟨hp, hr, hg⟩
  · intro h
    exact ⟨⟨h.policy, h.rules⟩, h.groups⟩

/-- A planned change brings about what was built. -/
theorem realizes_of_toBuilt {c : Change} (hm : m.Coherent) (hb : built.Belongs uid)
    (hc : toBuilt m uid built = some c) : c.after.Realizes uid built := by
  rw [toBuilt] at hc
  split at hc
  · cases hc
  · cases hc
    refine ⟨?_, hm.rules.settled_applyAll hb.rules, hm.groups.settled_applyAll hb.groups⟩
    simp only
    rw [← hb.policy_id]
    split
    case isTrue =>
      refine ⟨built.policy.withoutRules, ?_, fingerprint_withoutRules _⟩
      have hunmarked : Managed.marked built.policy.withoutRules = false := hb.policy_unmarked
      have hid : Managed.id built.policy.withoutRules = built.policy.id := rfl
      rw [Store.get?_apply, hid, if_pos rfl, hunmarked]
      rfl
    case isFalse hsame =>
      exact Difference.differs_eq_false_iff.1 (Bool.eq_false_iff.2 hsame)

end Change

/-! ## Updates -/

namespace Builder

variable {b : Builder} {a : Arrivals} {r : Resource} {w w' : World}

/-- An update of a resource that is already realized does nothing. -/
theorem exec_update_of_realizes {built : Built} (hm : w.inventory.Coherent)
    (hb : b.build r = .ok built)
    (hr : w.inventory.Realizes (r.metadata.uid.getD "") built) :
    (b.update r).exec w = (.ok (), w) := by
  have hnone := (Change.toBuilt_eq_none_iff hm (belongs_of_build hb)).2 hr
  rw [exec_update, Change.forUpdate_of_build hb, hnone]

/-- After an update that succeeds, the inventory has what was built. -/
theorem realizes_of_update (hm : w.inventory.Coherent)
    (h : (b.update r).exec w = (.ok (), w')) :
    ∃ built, b.build r = .ok built ∧ w'.inventory.Realizes (r.metadata.uid.getD "") built := by
  rw [exec_update] at h
  cases hb : b.build r with
  | error fault =>
    rw [Change.forUpdate_of_fault hb] at h
    cases h
  | ok built =>
    have hbelongs := belongs_of_build hb
    rw [Change.forUpdate_of_build hb] at h
    cases hc : Change.toBuilt w.inventory (r.metadata.uid.getD "") built with
    | none =>
      rw [hc] at h
      cases h
      exact ⟨built, rfl, (Change.toBuilt_eq_none_iff hm hbelongs).1 hc⟩
    | some c =>
      simp only [hc, Change.exec_submit] at h
      cases ha : w.answer with
      | some fault =>
        rw [ha] at h
        cases h
      | none =>
        rw [ha] at h
        cases h
        exact ⟨built, rfl, Change.realizes_of_toBuilt hm hbelongs hc⟩

/-- What an update that succeeds leaves is reached too. -/
theorem Reaches.updated (hw : b.Reaches a w.inventory) (h : (b.update r).exec w = (.ok (), w')) :
    b.Reaches a w'.inventory := by
  have hafter : ((b.serve (.update r)).after w).inventory = w'.inventory := by
    rw [serve, Operation.after, h]
  exact hafter ▸ .served _ hw

/-- **Convergence.** From any inventory that is reached, an update that succeeds leaves an inventory
that has what was built: the policy, and of the uid's rules and groups exactly the built ones. The
same update in any world with that inventory succeeds and does nothing. -/
theorem update_converges (hw : b.Reaches a w.inventory)
    (h : (b.update r).exec w = (.ok (), w')) :
    ∃ uid built, r.metadata.uid = some uid ∧ b.build r = .ok built ∧
      w'.inventory.Realizes uid built ∧
      ∀ v : World, v.inventory = w'.inventory → (b.update r).exec v = (.ok (), v) := by
  obtain ⟨built, hb, hrealizes⟩ := realizes_of_update hw.coherent h
  refine ⟨_, built, uid_of_build hb, hb, hrealizes, fun v hv => ?_⟩
  exact exec_update_of_realizes (hv ▸ (hw.updated h).coherent) hb (hv ▸ hrealizes)

/-- The first update of a resource with one rule: the rule is stored, and the same update is done. -/
theorem update_converges_from_empty :
    let b : Builder := ⟨"k", "default"⟩
    let r : Resource := {
      metadata := { name := some "web", ownNamespace := some "shop", uid := some "u" }
      spec := { appliedTo := [{ pods := some .empty }], rules := [{}] } }
    let w : World := {}
    let w' := (b.update r).after w
    b.Reaches {} w.inventory ∧ (b.update r).exec w = (.ok (), w') ∧
      (w'.inventory.rules.ownedBy "u").map (·.id) = ["sp_u_0"] ∧
      ∃ uid built, r.metadata.uid = some uid ∧ b.build r = .ok built ∧
        w'.inventory.Realizes uid built ∧
        ∀ v : World, v.inventory = w'.inventory → (b.update r).exec v = (.ok (), v) := by
  intro b r w w'
  have hw : b.Reaches {} w.inventory := .filled rfl
  have h : (b.update r).exec w = (.ok (), w') := rfl
  exact ⟨hw, h, by decide, update_converges hw h⟩

end Builder

end FirewallOperator
