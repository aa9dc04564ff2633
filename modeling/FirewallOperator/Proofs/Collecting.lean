import FirewallOperator.Proofs.Sweeping

/-! # What collections leave

A collection sends one request for each owner that is not alive and has a policy, in order, and goes
on when one is refused. `Builder.Pass` is such a row of requests with what the backend answers, and
the number of them that it accepts. `Builder.collect_passes` says that a collection from any
inventory that is reached is such a row, which owners it is about, that nothing else changes, and
how many collections it takes until no policy is left over: each takes away one policy of every
owner that is not alive, with all of the owner's rules and groups. -/

namespace FirewallOperator

open Operation

/-! ## What a removal leaves -/

/-- What is stored and has no owner, or one that is alive, is the same in both stores. -/
def Store.SameAlive {α : Type} [Managed α] (live : TextSet) (s t : Store α) : Prop :=
  ∀ id x, (∀ u, owner? x = some u → live.contains u) → (s.get? id = some x ↔ t.get? id = some x)

namespace Store

variable {α : Type} [Managed α] {s : Store α} {live : TextSet} {u : String} {xs : List α}

/-- Removing objects of an owner that is not alive leaves the others as they are. -/
theorem Coherent.sameAlive_applyAll_removals (hs : s.Coherent) (hlive : ¬ live.contains u)
    (hxs : ∀ x ∈ xs, x ∈ s.ownedBy u) :
    (s.applyAll (Difference.removals xs)).SameAlive live s := by
  intro id x hx
  exact hs.get?_removals_iff hxs fun hu => hlive (hx u hu)

/-- Removing the first object of an owner leaves the owner's others. -/
theorem Coherent.ownedBy_removal_head {x : α} {rest : List α} (hs : s.Coherent)
    (hlist : s.ownedBy u = x :: rest) :
    (s.applyAll (Difference.removals [x])).ownedBy u = rest := by
  have hafter : (s.applyAll (Difference.removals [x])).Coherent := hs.applyAll _
  have hnodup := hs.nodup_ownedBy u
  have hordered := hs.ordered_ownedBy u
  rw [hlist, List.map_cons, List.nodup_cons] at hnodup
  rw [hlist, List.pairwise_cons] at hordered
  have hmem : ∀ y, y ∈ (s.applyAll (Difference.removals [x])).ownedBy u ↔ y ∈ rest := by
    intro y
    have hy : y ∈ s.ownedBy u ↔ y = x ∨ y ∈ rest := by rw [hlist, List.mem_cons]
    rw [hs.mem_ownedBy] at hy
    rw [hafter.mem_ownedBy, get?_applyAll_removals]
    split
    case isTrue hid =>
      refine iff_of_false (fun h => nomatch h.1) fun hrest => hnodup.1 ?_
      exact List.mem_singleton.1 hid ▸ List.mem_map_of_mem hrest
    case isFalse hid =>
      rw [hy, or_iff_right]
      rintro rfl
      exact hid List.mem_cons_self
  have hperm : ((s.applyAll (Difference.removals [x])).ownedBy u).Perm rest :=
    (List.perm_ext_iff_of_nodup (hafter.nodup_ownedBy u).of_map hnodup.2.of_map).2 hmem
  refine hperm.eq_of_pairwise (fun y z _ _ hyz hzy => ?_) (hafter.ordered_ownedBy u) hordered.2
  exact absurd hzy (String.lt_asymm hyz)

/-- Removing all objects of an owner leaves none. -/
theorem Coherent.ownedBy_removals (hs : s.Coherent) (u : String) :
    (s.applyAll (Difference.removals (s.ownedBy u))).ownedBy u = [] := by
  rw [← (hs.applyAll _).clear_iff, hs.clear_applyAll_removals]
  exact fun x hx => List.mem_map_of_mem hx

end Store

namespace Inventory

/-- The objects without an owner, and those whose owner is alive, are the same in both inventories. -/
structure SameAlive (live : TextSet) (m n : Inventory) : Prop where
  policies : m.policies.SameAlive live n.policies
  rules : m.rules.SameAlive live n.rules
  groups : m.groups.SameAlive live n.groups

/-- An owner has one policy less than before, and nothing else is left of it. -/
structure Reduced (u : String) (m n : Inventory) : Prop where
  policies : m.policies.ownedBy u = (n.policies.ownedBy u).tail
  rules : m.rules.ownedBy u = []
  groups : m.groups.ownedBy u = []

/-- No policy is left over: each has no owner, or one that is alive. -/
def Collected (m : Inventory) (live : TextSet) : Prop :=
  ∀ id p u, m.policies.get? id = some p → owner? p = some u → live.contains u

variable {live : TextSet} {m n k : Inventory} {u : String} {c : Change}

/-- An inventory has the same of living owners as itself. -/
theorem SameAlive.refl (live : TextSet) (m : Inventory) : m.SameAlive live m :=
  ⟨fun _ _ _ => Iff.rfl, fun _ _ _ => Iff.rfl, fun _ _ _ => Iff.rfl⟩

/-- What two changes leave to living owners, they leave together. -/
theorem SameAlive.trans (h : m.SameAlive live n) (h' : n.SameAlive live k) : m.SameAlive live k where
  policies id x hx := (h.policies id x hx).trans (h'.policies id x hx)
  rules id x hx := (h.rules id x hx).trans (h'.rules id x hx)
  groups id x hx := (h.groups id x hx).trans (h'.groups id x hx)

/-- An inventory has the same of an owner as itself. -/
theorem SameOwned.refl (u : String) (m : Inventory) : m.SameOwned u m := ⟨rfl, rfl, rfl⟩

/-- What two changes leave to an owner, they leave together. -/
theorem SameOwned.trans (h : m.SameOwned u n) (h' : n.SameOwned u k) : m.SameOwned u k :=
  ⟨h.policies.trans h'.policies, h.rules.trans h'.rules, h.groups.trans h'.groups⟩

/-- What is taken from an owner can be told from an inventory with the same of the owner. -/
theorem Reduced.congr_left (h : n.Reduced u k) (hsame : m.SameOwned u n) : m.Reduced u k :=
  ⟨hsame.policies.trans h.policies, hsame.rules.trans h.rules, hsame.groups.trans h.groups⟩

/-- What is left to an owner can be told from an inventory with the same of the owner. -/
theorem Reduced.congr_right (h : m.Reduced u n) (hsame : n.SameOwned u k) : m.Reduced u k :=
  ⟨hsame.policies ▸ h.policies, h.rules, h.groups⟩

/-- The removal of what an owner has leaves a coherent inventory coherent. -/
theorem Coherent.forOwner (hm : m.Coherent) (hc : Change.forOwner m u = some c) :
    c.after.Coherent := by
  obtain ⟨policy, -, rfl⟩ := Option.map_eq_some_iff.1 hc
  have hpolicies : (m.policies.apply (Managed.setMarked true policy)).Coherent :=
    hm.policies.apply _
  exact ⟨hpolicies, hm.rules.applyAll _, hm.groups.applyAll _⟩

/-- A removal touches no object but those of its owner. -/
theorem sameAlive_of_forOwner (hm : m.Coherent) (hlive : ¬ live.contains u)
    (hc : Change.forOwner m u = some c) : c.after.SameAlive live m := by
  obtain ⟨policy, hpolicy, rfl⟩ := exists_policy_of_forOwner hc
  exact ⟨hm.policies.sameAlive_applyAll_removals hlive hpolicy,
    hm.rules.sameAlive_applyAll_removals hlive fun _ hx => hx,
    hm.groups.sameAlive_applyAll_removals hlive fun _ hg => hg⟩

/-- A removal takes away the owner's first policy, and all of its rules and groups. -/
theorem reduced_of_forOwner (hm : m.Coherent) (hc : Change.forOwner m u = some c) :
    c.after.Reduced u m := by
  obtain ⟨policy, hhead, rfl⟩ := Option.map_eq_some_iff.1 hc
  obtain ⟨rest, hlist⟩ := List.head?_eq_some_iff.1 hhead
  refine ⟨?_, hm.rules.ownedBy_removals u, hm.groups.ownedBy_removals u⟩
  rw [hlist]
  exact hm.policies.ownedBy_removal_head hlist

/-- No policy is left over exactly when no owner that is not alive has one. -/
theorem Coherent.collected_iff (hm : m.Coherent) :
    m.Collected live ↔ ∀ u, ¬ live.contains u → m.policies.ownedBy u = [] := by
  constructor
  · intro h u hlive
    rw [← hm.policies.clear_iff]
    exact fun id p hget howner => hlive (h id p u hget howner)
  · intro h id p u hget howner
    by_contra hlive
    exact (hm.policies.clear_iff.2 (h u hlive)) id p hget howner

end Inventory

/-! ## Rows of requests -/

namespace Builder

/-- A row of removals, one for each owner, and the number of those that the backend accepts. What it
refuses changes nothing, and the row goes on. -/
inductive Pass (b : Builder) : World → List String → Nat → World → Prop
  | done (w : World) : Pass b w [] 0 w
  | accepted {w v : World} {u : String} {us : List String} {n : Nat} {c : Change}
      (hc : Change.forOwner w.inventory u = some c) (ha : w.answer = none)
      (rest : Pass b ((w.written (.patchInfra false (c.patch b.domain))).stocked c.after) us n v) :
      Pass b w (u :: us) (n + 1) v
  | refused {w v : World} {u : String} {us : List String} {n : Nat} {c : Change} {fault : Fault}
      (hc : Change.forOwner w.inventory u = some c) (ha : w.answer = some fault)
      (rest : Pass b (w.written (.patchInfra false (c.patch b.domain))) us n v) :
      Pass b w (u :: us) n v

/-- The owners among those given that have a policy. -/
def withPolicy (m : Inventory) (owners : List String) : List String :=
  owners.filter fun u => !(m.policies.ownedBy u).isEmpty

variable {b : Builder} {a : Arrivals} {w v : World} {us : List String} {n : Nat} {live : TextSet}
  {u : String}

/-- A sweep is a row of removals, for the owners that have a policy at the start. -/
theorem exec_sweep (hm : w.inventory.Coherent) {owners : List String} (hn : owners.Nodup) :
    ∃ n v, (b.sweep owners).exec w = (.ok n, v) ∧
      b.Pass w (withPolicy w.inventory owners) n v := by
  -- on the owners, for every world: each is removed from what the removals before it have left
  induction owners generalizing w with
  | nil => exact ⟨0, w, rfl, .done w⟩
  | cons u rest ih =>
    obtain ⟨hnew, hrest⟩ := List.nodup_cons.1 hn
    rw [exec_sweep_cons, sweepOne]
    cases hlist : w.inventory.policies.ownedBy u with
    | nil =>
      obtain ⟨n, v, hexec, hpass⟩ := ih hm hrest
      refine ⟨n, v, ?_, ?_⟩
      · simp [hexec]
      · simpa [withPolicy, hlist] using hpass
    | cons policy others =>
      obtain ⟨c, hc⟩ : ∃ c, Change.forOwner w.inventory u = some c := by
        rw [Change.forOwner, hlist]
        exact ⟨_, rfl⟩
      have howners : withPolicy w.inventory (u :: rest) = u :: withPolicy w.inventory rest := by
        simp [withPolicy, hlist]
      simp only [List.isEmpty_cons, Bool.false_eq_true, if_false, exec_removeOwner, hc,
        Change.exec_submit]
      rw [howners]
      cases ha : w.answer with
      | none =>
        obtain ⟨n, v, hexec, hpass⟩ := ih
          (w := (w.written (.patchInfra false (c.patch b.domain))).stocked c.after)
          (hm.forOwner hc) hrest
        have hlater : withPolicy c.after rest = withPolicy w.inventory rest := by
          refine List.filter_congr fun v hv => ?_
          have hne : u ≠ v := by
            rintro rfl
            exact hnew hv
          rw [(Inventory.sameOwned_of_forOwner hm hc hne).policies]
        rw [World.inventory_stocked, hlater] at hpass
        refine ⟨n + 1, v, ?_, .accepted hc ha hpass⟩
        simp [hexec, Nat.add_comm]
      | some fault =>
        obtain ⟨n, v, hexec, hpass⟩ := ih
          (w := w.written (.patchInfra false (c.patch b.domain))) hm hrest
        refine ⟨n, v, ?_, .refused hc ha hpass⟩
        simp [hexec]

namespace Pass

/-- A row of removals leaves a coherent inventory coherent. -/
theorem coherent (h : b.Pass w us n v) (hm : w.inventory.Coherent) : v.inventory.Coherent := by
  induction h with
  | done => exact hm
  | accepted hc _ _ ih => exact ih (hm.forOwner hc)
  | refused _ _ _ ih => exact ih hm

/-- No more requests are accepted than are sent. -/
theorem le_length (h : b.Pass w us n v) : n ≤ us.length := by
  induction h with
  | done => exact Nat.le_refl 0
  | accepted _ _ _ ih => exact Nat.succ_le_succ ih
  | refused _ _ _ ih => exact Nat.le_succ_of_le ih

/-- When no answer is a fault, all are accepted, and no later answer is a fault. -/
theorem eq_length (h : b.Pass w us n v) (hw : ∀ answer ∈ w.writes, answer = none) :
    n = us.length ∧ ∀ answer ∈ v.writes, answer = none := by
  induction h with
  | done => exact ⟨rfl, hw⟩
  | accepted _ _ _ ih =>
    obtain ⟨hlength, hlater⟩ := ih fun answer hanswer => hw answer (List.mem_of_mem_tail hanswer)
    exact ⟨congrArg (· + 1) hlength, hlater⟩
  | @refused w _ _ _ _ _ fault _ ha _ _ =>
    -- the refusal would be one of the answers
    rw [World.answer] at ha
    cases hwrites : w.writes with
    | nil => rw [hwrites] at ha; cases ha
    | cons answer rest =>
      rw [hwrites] at ha
      obtain rfl : answer = some fault := by simpa using ha
      cases hw _ (hwrites ▸ List.mem_cons_self)

/-- The objects without an owner, and those whose owner is alive, stay as they are. -/
theorem sameAlive (h : b.Pass w us n v) (hm : w.inventory.Coherent)
    (hus : ∀ u ∈ us, ¬ live.contains u) : v.inventory.SameAlive live w.inventory := by
  induction h with
  | done => exact .refl live _
  | accepted hc _ _ ih =>
    have hrest := ih (hm.forOwner hc) fun u hu => hus u (List.mem_cons_of_mem _ hu)
    exact hrest.trans (Inventory.sameAlive_of_forOwner hm (hus _ List.mem_cons_self) hc)
  | refused _ _ _ ih => exact ih hm fun u hu => hus u (List.mem_cons_of_mem _ hu)

/-- So do the objects of an owner that no request is sent for. -/
theorem sameOwned (h : b.Pass w us n v) (hm : w.inventory.Coherent) (hu : u ∉ us) :
    v.inventory.SameOwned u w.inventory := by
  induction h with
  | done => exact .refl u _
  | accepted hc _ _ ih =>
    rw [List.mem_cons, not_or] at hu
    exact (ih (hm.forOwner hc) hu.2).trans
      (Inventory.sameOwned_of_forOwner hm hc (Ne.symm hu.1))
  | refused _ _ _ ih => exact ih hm fun hmem => hu (List.mem_cons_of_mem _ hmem)

/-- When all requests are accepted, every owner that one is sent for is reduced. -/
theorem reduced (h : b.Pass w us us.length v) (hm : w.inventory.Coherent) (hn : us.Nodup)
    (hu : u ∈ us) : v.inventory.Reduced u w.inventory := by
  generalize hlength : us.length = n at h
  induction h with
  | done => cases hu
  | @accepted w v u' us n c hc _ hrest ih =>
    obtain ⟨hnew, hn⟩ := List.nodup_cons.1 hn
    have hafter : c.after.Coherent := hm.forOwner hc
    rcases List.mem_cons.1 hu with rfl | hu
    -- the owner at the front is reduced now, and the rest of the row leaves it alone
    · exact (Inventory.reduced_of_forOwner hm hc).congr_left (hrest.sameOwned hafter hnew)
    · have hne : u' ≠ u := by
        rintro rfl
        exact hnew hu
      exact (ih hafter hn hu (Nat.succ.inj hlength)).congr_right
        (Inventory.sameOwned_of_forOwner hm hc hne)
  | refused _ _ hrest _ =>
    have hle := hrest.le_length
    rw [List.length_cons] at hlength
    omega

end Pass

/-! ## Collections -/

/-- What a collection does to the world when only the given uids are alive: the owners that it sends
a request for, and the number of owners it returns. -/
structure Collects (b : Builder) (live : TextSet) (w : World) (us : List String) (n : Nat)
    (v : World) : Prop where
  exec : (b.collect { uids := .ok live }).exec w = (.ok n, v)
  nodup : us.Nodup
  mem : ∀ u, u ∈ us ↔
    w.inventory.owners.contains u ∧ ¬ live.contains u ∧ w.inventory.policies.ownedBy u ≠ []
  pass : b.Pass (w.called .listLive) us n v
  sent : ∃ calls, (b.collect { uids := .ok live }).sent w = .listLive :: calls ∧
    List.Forall₂ (fun u call => b.removal? w.inventory u = some call) us calls
  sameAlive : v.inventory.SameAlive live w.inventory
  cleared : n = us.length → ∀ u ∈ us, v.inventory.rules.Clear u ∧ v.inventory.groups.Clear u

/-- There is a request for each owner that has a policy. -/
theorem forall₂_removals (b : Builder) (m : Inventory) (owners : List String) :
    List.Forall₂ (fun u call => b.removal? m u = some call) (withPolicy m owners)
      (owners.filterMap (b.removal? m)) := by
  induction owners with
  | nil => exact .nil
  | cons u rest ih =>
    cases hlist : m.policies.ownedBy u with
    | nil =>
      have hnone : b.removal? m u = none := by simp [removal?, Change.forOwner, hlist]
      rw [List.filterMap_cons_none hnone]
      simpa [withPolicy, hlist] using ih
    | cons policy others =>
      obtain ⟨call, hcall⟩ : ∃ call, b.removal? m u = some call := by
        simp [removal?, Change.forOwner, hlist]
      rw [List.filterMap_cons_some hcall]
      simpa [withPolicy, hlist, hcall] using ih

/-- From a coherent inventory, a collection sends requests for some owners, and returns a number. -/
theorem exists_collects (hm : w.inventory.Coherent) (live : TextSet) :
    ∃ us n v, b.Collects live w us n v := by
  have hn := w.inventory.owners.nodup_difference live
  obtain ⟨n, v, hexec, hpass⟩ := exec_sweep (b := b) (w := w.called .listLive) hm hn
  have hmem : ∀ u, u ∈ withPolicy w.inventory (w.inventory.owners.difference live) ↔
      w.inventory.owners.contains u ∧ ¬ live.contains u ∧ w.inventory.policies.ownedBy u ≠ [] := by
    intro u
    rw [withPolicy, List.mem_filter, TextSet.mem_difference]
    simp [and_assoc]
  refine ⟨_, n, v, ?_, hn.filter _, hmem, hpass, ?_, ?_, ?_⟩
  · rw [exec_collect]
    exact hexec
  · exact ⟨_, sent_collect hm live, b.forall₂_removals w.inventory _⟩
  · exact hpass.sameAlive hm fun u hu => ((hmem u).1 hu).2.1
  · rintro rfl u hu
    have hreduced := hpass.reduced hm (hn.filter _) hu
    have hafter := hpass.coherent hm
    exact ⟨hafter.rules.clear_iff.2 hreduced.rules, hafter.groups.clear_iff.2 hreduced.groups⟩

/-- A collection whose requests are all accepted takes away one policy of every owner that is not
alive. -/
theorem Collects.ownedBy (h : b.Collects live w us us.length v) (hm : w.inventory.Coherent)
    (hlive : ¬ live.contains u) :
    v.inventory.policies.ownedBy u = (w.inventory.policies.ownedBy u).tail := by
  by_cases hu : u ∈ us
  · exact (h.pass.reduced hm h.nodup hu).policies
  · rw [(h.pass.sameOwned hm hu).policies]
    -- an owner that is passed over has no policy
    have hnone : w.inventory.policies.ownedBy u = [] := by
      by_contra hsome
      refine hu ((h.mem u).2 ⟨?_, hlive, hsome⟩)
      have hpolicies := hm.policies.contains_owners.2 hsome
      rw [Inventory.owners, TextSet.contains_union, hpolicies, Bool.true_or]
    rw [World.inventory_called, hnone, List.tail_nil]

/-- The world after a number of collections with the same uids alive. -/
def collected (b : Builder) (live : TextSet) (passes : Nat) (w : World) : World :=
  (b.collectAll (List.replicate passes { uids := .ok live })).after w

/-- The backend accepts every request that the collections send. -/
def AllAccepted (b : Builder) (live : TextSet) (passes : Nat) (w : World) : Prop :=
  ∀ k < passes, ∀ us n v, b.Collects live (b.collected live k w) us n v → n = us.length

/-- Collections follow one another. -/
theorem collected_succ (h : b.Collects live w us n v) (passes : Nat) :
    b.collected live (passes + 1) w = b.collected live passes v := by
  simp only [collected, List.replicate_succ, after, collectAll, exec_bind, exec_tryCatch, h.exec]

/-- When no answer of the backend is a fault, everything is accepted. -/
theorem allAccepted_of_writes (hm : w.inventory.Coherent)
    (hw : ∀ answer ∈ w.writes, answer = none) (passes : Nat) : b.AllAccepted live passes w := by
  intro k _ us n v hcollects
  induction k generalizing w with
  | zero => exact (hcollects.pass.eq_length hw).1
  | succ k ih =>
    obtain ⟨_, _, v', hfirst⟩ := exists_collects (b := b) hm live
    rw [collected_succ hfirst] at hcollects
    exact ih (hfirst.pass.coherent hm) (hfirst.pass.eq_length hw).2 (by omega) hcollects

/-- After some collections, as many policies of every owner that is not alive are gone. -/
theorem ownedBy_collected (hm : w.inventory.Coherent) {passes : Nat}
    (haccepted : b.AllAccepted live passes w) :
    (b.collected live passes w).inventory.Coherent ∧ ∀ u, ¬ live.contains u →
      (b.collected live passes w).inventory.policies.ownedBy u =
        (w.inventory.policies.ownedBy u).drop passes := by
  -- on the collections, for every world: each goes on from what the last one has left
  induction passes generalizing w with
  | zero => exact ⟨hm, fun u _ => rfl⟩
  | succ passes ih =>
    obtain ⟨us, n, v, hfirst⟩ := exists_collects (b := b) hm live
    obtain rfl : n = us.length := haccepted 0 (Nat.succ_pos _) us n v hfirst
    have hrest : b.AllAccepted live passes v := by
      intro k hk us' n' v' hlater
      refine haccepted (k + 1) (Nat.succ_lt_succ hk) us' n' v' ?_
      rw [collected_succ hfirst]
      exact hlater
    obtain ⟨hcoherent, hpolicies⟩ := ih (hfirst.pass.coherent hm) hrest
    rw [collected_succ hfirst]
    refine ⟨hcoherent, fun u hlive => ?_⟩
    rw [hpolicies u hlive, hfirst.ownedBy hm hlive, List.drop_tail]

/-- **Collecting.** From any inventory that is reached, whichever uids are alive and whatever the
backend answers, a collection sends one request for each owner that is not alive and has a policy,
and no other. The number it returns is that of the requests that are accepted; what is refused
changes nothing, and the rest goes on. Objects without an owner or with one that is alive stay. When
all requests are accepted, no rules and groups of these owners are left, and it takes as many
collections until no policy is left over as there are policies of one owner that is not alive. -/
theorem collect_passes (hw : b.Reaches a w.inventory) (live : TextSet) :
    (∃ us n v, b.Collects live w us n v) ∧
    ∀ passes, b.AllAccepted live passes w →
      ((b.collected live passes w).inventory.Collected live ↔
        ∀ u, ¬ live.contains u → (w.inventory.policies.ownedBy u).length ≤ passes) := by
  refine ⟨exists_collects hw.coherent live, fun passes haccepted => ?_⟩
  obtain ⟨hm, hpolicies⟩ := ownedBy_collected hw.coherent haccepted
  rw [hm.collected_iff]
  refine forall_congr' fun u => imp_congr_right fun hlive => ?_
  rw [hpolicies u hlive, List.drop_eq_nil_iff]

/-- Two policies are left of an owner. One collection is not enough, and two are. -/
theorem collect_passes_twice :
    let b : Builder := ⟨"k", "default"⟩
    let gone : List Tag := [⟨Tag.ownerScope, "gone"⟩]
    let kept : List Tag := [⟨Tag.ownerScope, "kept"⟩]
    let a : Arrivals := {
      policies := { objects := [{ id := "sp_a", tags := gone }, { id := "sp_b", tags := gone },
        { id := "sp_c", tags := kept }] }
      groups := { objects := [{ id := "sp_a_scope", tags := gone }] } }
    let w : World := { inventory := (a.sync .empty).1 }
    let live := TextSet.ofList ["kept"]
    b.Reaches a w.inventory ∧ b.AllAccepted live 1 w ∧ b.AllAccepted live 2 w ∧
      (∃ us v, b.Collects live w us 1 v) ∧
      ¬ (b.collected live 1 w).inventory.Collected live ∧
      (b.collected live 2 w).inventory.Collected live := by
  intro b gone kept a w live
  have hw : b.Reaches a w.inventory := .filled rfl
  have haccepted : ∀ passes, b.AllAccepted live passes w :=
    allAccepted_of_writes hw.coherent fun answer hanswer => nomatch hanswer
  obtain ⟨⟨us, n, v, hcollects⟩, hpasses⟩ := collect_passes hw live
  have hn : ((b.collect { uids := .ok live }).exec w).1.toOption = some 1 := by decide
  rw [hcollects.exec] at hn
  obtain rfl : n = 1 := Option.some.inj hn
  have hgone : (w.inventory.policies.ownedBy "gone").length = 2 := by decide
  refine ⟨hw, haccepted 1, haccepted 2, ⟨us, v, hcollects⟩, ?_, ?_⟩
  · rw [hpasses 1 (haccepted 1)]
    intro h
    have hle := h "gone" (by decide)
    omega
  · rw [hpasses 2 (haccepted 2)]
    intro u hlive
    -- only the two owners have policies at all
    by_cases hu : w.inventory.policies.ownedBy u = []
    · simp [hu]
    · have howner : w.inventory.policies.owners.contains u := hw.coherent.policies.contains_owners.2 hu
      have hall : ∀ u ∈ w.inventory.policies.owners.keys, ¬ live.contains u →
          (w.inventory.policies.ownedBy u).length ≤ 2 := by decide
      exact hall u (SortedMap.contains_iff_mem_keys.1 howner) hlive

end Builder

end FirewallOperator
