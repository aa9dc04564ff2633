import FirewallOperator.Proofs.Building
import FirewallOperator.Proofs.Filling

/-! # Letting go of a resource

A resource that is being deleted is let go of once its removal has succeeded, and by then the
inventory should have nothing of its uid any more (`Inventory.Clear`). `Builder.reconcile_releases`
says exactly when that is so. Two things are overlooked. Of policies only one is removed: the one
that is built, or the first that is found for the uid. And what is removed by uid is taken to be
gone already when there is no policy to be found, whatever rules and groups there are. -/

namespace FirewallOperator

open Operation

/-! ## What is left of an owner -/

namespace Store

variable {α : Type} [Managed α] {s : Store α} {uid : String}

/-- No stored object names the owner. -/
def Clear (s : Store α) (uid : String) : Prop :=
  ∀ id x, s.get? id = some x → owner? x ≠ some uid

/-- A store is clear of a uid exactly if it has nothing under the uid's index. -/
theorem Coherent.clear_iff (hs : s.Coherent) : s.Clear uid ↔ s.ownedBy uid = [] := by
  rw [List.eq_nil_iff_forall_not_mem]
  constructor
  · intro h x hx
    obtain ⟨hget, ho⟩ := hs.mem_ownedBy.1 hx
    exact h _ x hget ho
  · intro h id x hget ho
    exact h x (hs.mem_ownedBy.2 ⟨(hs.keyed hget).symm ▸ hget, ho⟩)

/-- Removals take away what has one of their identities. -/
theorem get?_applyAll_removals (s : Store α) (xs : List α) (id : String) :
    (s.applyAll (Difference.removals xs)).get? id =
      if id ∈ xs.map Managed.id then none else s.get? id := by
  rw [get?_applyAll]
  cases hlast : Difference.lastWith id (Difference.removals xs) with
  | none =>
    have hnot : id ∉ xs.map Managed.id := by
      rw [← List.mem_reverse, ← Difference.ids_removals]
      intro hmem
      obtain ⟨y, hy, hid⟩ := List.mem_map.1 hmem
      exact Difference.lastWith_eq_none.1 hlast y hy hid
    rw [if_neg hnot]
  | some y =>
    obtain ⟨hy, hid⟩ := Difference.mem_of_lastWith hlast
    have hmem : id ∈ xs.map Managed.id := by
      rw [← List.mem_reverse, ← Difference.ids_removals]
      exact hid ▸ List.mem_map_of_mem hy
    simp only [Difference.marked_of_mem_removals hy, if_true, if_pos hmem]

/-- Removals leave nothing of an owner exactly when they name all of its objects. -/
theorem Coherent.clear_applyAll_removals (hs : s.Coherent) (xs : List α) :
    (s.applyAll (Difference.removals xs)).Clear uid ↔
      ∀ x ∈ s.ownedBy uid, Managed.id x ∈ xs.map Managed.id := by
  constructor
  · intro h x hx
    obtain ⟨hget, ho⟩ := hs.mem_ownedBy.1 hx
    by_contra hnot
    exact h (Managed.id x) x (by rw [get?_applyAll_removals, if_neg hnot, hget]) ho
  · intro h id x hget ho
    rw [get?_applyAll_removals] at hget
    split at hget
    · cases hget
    case isFalse hnot =>
      have hid := hs.keyed hget
      exact hnot (hid ▸ h x (hs.mem_ownedBy.2 ⟨hid.symm ▸ hget, ho⟩))

end Store

/-- Nothing that is stored names the owner. -/
structure Inventory.Clear (m : Inventory) (uid : String) : Prop where
  policies : m.policies.Clear uid
  rules : m.rules.Clear uid
  groups : m.groups.Clear uid

/-! ## Planned removals -/

namespace Change

variable {m : Inventory} {uid : String} {policy : Policy} {rules : List Rule} {groups : List Group}
  {built : Built} {c : Change}

/-- A removal that names all rules and groups of an owner leaves nothing of it exactly when its
policy is the only one. -/
theorem clear_removing (hm : m.Coherent)
    (hr : ∀ x ∈ m.rules.ownedBy uid, Managed.id x ∈ rules.map Managed.id)
    (hg : ∀ g ∈ m.groups.ownedBy uid, Managed.id g ∈ groups.map Managed.id) :
    (removing m policy rules groups).after.Clear uid ↔
      ∀ p ∈ m.policies.ownedBy uid, p.id = policy.id := by
  have hpolicies : (removing m policy rules groups).after.policies.Clear uid ↔
      ∀ p ∈ m.policies.ownedBy uid, Managed.id p ∈ [policy].map Managed.id :=
    hm.policies.clear_applyAll_removals [policy]
  simp only [List.map_cons, List.map_nil, List.mem_singleton] at hpolicies
  constructor
  · intro h
    exact hpolicies.1 h.policies
  · intro h
    exact ⟨hpolicies.2 h, (hm.rules.clear_applyAll_removals rules).2 hr,
      (hm.groups.clear_applyAll_removals groups).2 hg⟩

/-- What is stored is among what is built and stored, at least by its identity. -/
theorem id_mem_withStored {α : Type} [Managed α] (built : List α) {stored : List α} {x : α}
    (hx : x ∈ stored) : Managed.id x ∈ (withStored built stored).map Managed.id := by
  by_cases hbuilt : built.any fun b => Managed.id b == Managed.id x
  · obtain ⟨y, hy, hid⟩ := List.any_eq_true.1 hbuilt
    rw [← eq_of_beq hid]
    exact List.mem_map_of_mem (List.mem_append_left _ hy)
  · have hkept : x ∈ stored.filter fun x => !built.any fun b => Managed.id b == Managed.id x :=
      List.mem_filter.2 ⟨hx, by simpa using hbuilt⟩
    exact List.mem_map_of_mem (List.mem_append_right _ hkept)

/-- The removal of what is built leaves nothing of the owner, unless there is another policy. -/
theorem clear_ofBuilt (hm : m.Coherent) (hb : built.Belongs uid) :
    (ofBuilt m uid built).after.Clear uid ↔
      ∀ p ∈ m.policies.ownedBy uid, p.id = policyId uid := by
  rw [ofBuilt, clear_removing hm (fun x hx => id_mem_withStored _ hx)
    fun g hg => id_mem_withStored _ hg]
  exact hb.policy_id ▸ Iff.rfl

/-- The removal of an owner leaves nothing of it, unless there is a second policy. -/
theorem clear_of_forOwner (hm : m.Coherent) (hc : forOwner m uid = some c) :
    c.after.Clear uid ↔ (m.policies.ownedBy uid).length = 1 := by
  obtain ⟨policy, hhead, rfl⟩ := Option.map_eq_some_iff.1 hc
  rw [clear_removing hm (fun x hx => List.mem_map_of_mem hx) fun g hg => List.mem_map_of_mem hg]
  obtain ⟨rest, hlist⟩ := List.head?_eq_some_iff.1 hhead
  have hnodup := hm.policies.nodup_ownedBy uid
  rw [hlist, List.map_cons, List.nodup_cons] at hnodup
  rw [hlist]
  cases rest with
  | nil => simp
  | cons q rest =>
    -- the second policy has an identity of its own, so it is not removed
    refine iff_of_false (fun h => hnodup.1 ?_) (by simp)
    have hid : Managed.id q = Managed.id policy := h q (by simp)
    exact hid ▸ List.mem_map_of_mem List.mem_cons_self

end Change

/-! ## Looking at a resource that is being deleted -/

namespace Builder

variable {b : Builder} {a : Arrivals} {now : Timestamp} {r : Resource} {w v : World} {uid : String}

/-- A resource is removed by what it is built into, or by its owner if it cannot be built. -/
theorem exec_clear (b : Builder) (r : Resource) (w : World) :
    (b.clear r).exec w =
      match (b.remove r).exec w with
      | (.ok (), v) => (.ok (), v)
      | (.error fault, v) =>
        if fault.isBuild then
          match r.metadata.uid with
          | none => (.ok (), v)
          | some uid => (b.removeOwner uid).exec v
        else (.error fault, v) := by
  rw [clear, exec_tryCatch]
  rcases (b.remove r).exec w with ⟨fault | _, v⟩
  · simp only
    cases fault.isBuild
    · rfl
    · cases r.metadata.uid <;> rfl
  · rfl

/-- A resource that is held and being deleted is cleared, and then let go. -/
theorem exec_reconcile_of_deleting (b : Builder) (now : Timestamp) (hheld : r.isHeld = true)
    (hdeleting : r.isDeleting = true) (w : World) :
    (b.reconcile now r).exec w =
      match (b.clear r).exec w with
      | (.error fault, v) => (.error fault, v)
      | (.ok (), v) =>
        match v.removeFinalizer with
        | none => (.ok .onChange, v.called (.removeFinalizer r.address r.addressNamespace))
        | some fault =>
          (.error fault, v.called (.removeFinalizer r.address r.addressNamespace)) := by
  rw [reconcile, hdeleting, hheld, if_pos rfl, if_pos rfl]
  simp only [exec_bind]
  rcases (b.clear r).exec w with ⟨_ | _, v⟩
  · rfl
  · simp only [exec_removeFinalizer]
    cases v.removeFinalizer <;> rfl

/-- A removal that succeeds is that of what is built; one that fails changes nothing. -/
theorem inventory_after_remove (b : Builder) (r : Resource) (w : World) :
    match (b.remove r).exec w with
    | (.ok (), v) => ∃ built, b.build r = .ok built ∧
        v.inventory = (Change.ofBuilt w.inventory (r.metadata.uid.getD "") built).after
    | (.error _, v) => v.inventory = w.inventory := by
  cases hb : b.build r with
  | error fault => rw [exec_remove_of_fault hb]
  | ok built =>
    rw [exec_remove_of_build hb, Change.exec_submit]
    cases w.answer with
    | none => exact ⟨built, rfl, rfl⟩
    | some fault => rfl

/-- A removal by owner that succeeds is that of its first policy, if there is one. -/
theorem inventory_after_removeOwner (h : (b.removeOwner uid).exec w = (.ok (), v)) :
    (w.inventory.policies.ownedBy uid = [] ∧ v.inventory = w.inventory) ∨
      ∃ c, Change.forOwner w.inventory uid = some c ∧ v.inventory = c.after := by
  rw [exec_removeOwner] at h
  cases hc : Change.forOwner w.inventory uid with
  | none =>
    rw [hc] at h
    cases h
    exact .inl ⟨List.head?_eq_none_iff.1 (Option.map_eq_none_iff.1 hc), rfl⟩
  | some c =>
    simp only [hc, Change.exec_submit] at h
    split at h
    · cases h
      exact .inr ⟨c, rfl, rfl⟩
    · cases h

/-- Clearing a resource is made of steps. -/
theorem clear_steps (b : Builder) (r : Resource) (w : World) :
    b.Steps w ((b.clear r).after w) := by
  have hremove := b.remove_steps r w
  rw [after] at hremove
  rw [after, exec_clear]
  rcases he : (b.remove r).exec w with ⟨fault | _, v⟩ <;> rw [he] at hremove
  · simp only
    split
    · cases r.metadata.uid with
      | none => exact hremove
      | some uid => exact hremove.trans (b.removeOwner_steps uid v)
    · exact hremove
  · exact hremove

/-- Steps do not let go of a resource. -/
theorem Steps.removeFinalizer_notMem (h : b.Steps w v) (name ns : String) :
    ∃ cs, v.calls = w.calls ++ cs ∧ Call.removeFinalizer name ns ∉ cs := by
  have hone : ∀ {w v}, b.Step w v → True →
      True ∧ ∃ call, v.calls = w.calls ++ [call] ∧ call ≠ .removeFinalizer name ns := by
    intro w v hstep _
    cases hstep with
    | accepted | refused | groupAccepted | groupRefused | listed => exact ⟨trivial, _, rfl, nofun⟩
  obtain ⟨-, cs, hcalls, hall⟩ := h.exists_calls hone trivial
  exact ⟨cs, hcalls, fun hmem => hall _ hmem rfl⟩

/-- A resource is let go of only after its removal has succeeded, and this changes nothing more. -/
theorem clear_of_released (hheld : r.isHeld = true) (hdeleting : r.isDeleting = true)
    {name ns : String} (hcall : .removeFinalizer name ns ∈ (b.reconcile now r).sent w) :
    ∃ v, (b.clear r).exec w = (.ok (), v) ∧
      ((b.reconcile now r).after w).inventory = v.inventory := by
  obtain ⟨cs, hcalls, hnot⟩ := (b.clear_steps r w).removeFinalizer_notMem name ns
  rw [after] at hcalls
  rw [sent, after, exec_reconcile_of_deleting b now hheld hdeleting] at hcall
  rw [after, exec_reconcile_of_deleting b now hheld hdeleting]
  rcases he : (b.clear r).exec w with ⟨fault | _, v⟩ <;> rw [he] at hcall hcalls
  -- had the removal failed, only its own calls would have been made
  · rw [hcalls, List.drop_left] at hcall
    exact absurd hcall hnot
  · refine ⟨v, rfl, ?_⟩
    simp only
    cases v.removeFinalizer <;> rfl

/-- **Letting go.** When a resource that is being deleted is let go of, from any inventory that is
reached and whatever fails on the way, nothing is left of its uid exactly under these conditions. If
it was removed by what it is built into, the uid had no policy under another identity. If it could
only be removed by owner, the uid had one policy, or no objects at all. -/
theorem reconcile_releases (hw : b.Reaches a w.inventory) (hheld : r.isHeld = true)
    (hdeleting : r.isDeleting = true) (huid : r.metadata.uid = some uid) {name ns : String}
    (hcall : .removeFinalizer name ns ∈ (b.reconcile now r).sent w) :
    ((b.reconcile now r).after w).inventory.Clear uid ↔
      match ((b.remove r).exec w).1 with
      | .ok _ => ∀ p ∈ w.inventory.policies.ownedBy uid, p.id = policyId uid
      | .error _ => (w.inventory.policies.ownedBy uid).length = 1 ∨ w.inventory.Clear uid := by
  obtain ⟨v, hclear, hinventory⟩ := clear_of_released hheld hdeleting hcall
  have hremove := b.inventory_after_remove r w
  rw [exec_clear] at hclear
  rw [hinventory]
  rcases he : (b.remove r).exec w with ⟨fault | _, v'⟩ <;> rw [he] at hclear hremove
  case ok =>
    cases hclear
    obtain ⟨built, hb, hafter⟩ := hremove
    have hbelongs := belongs_of_build hb
    rw [huid, Option.getD_some] at hafter hbelongs
    rw [hafter]
    exact Change.clear_ofBuilt hw.coherent hbelongs
  -- nothing has been removed yet, so what follows is a removal by owner
  case error =>
    have hsame : v'.inventory = w.inventory := hremove
    simp only [huid] at hclear
    split at hclear
    case isFalse => cases hclear
    case isTrue =>
      rcases inventory_after_removeOwner hclear with ⟨hnone, hafter⟩ | ⟨c, hc, hafter⟩
      · rw [hsame] at hnone
        rw [hafter, hsame, hnone]
        simp
      · rw [hsame] at hc
        have hsome : ¬ w.inventory.Clear uid := by
          intro h
          have hnil := (hw.coherent.policies.clear_iff).1 h.policies
          rw [Change.forOwner, hnil] at hc
          cases hc
        rw [hafter, Change.clear_of_forOwner hw.coherent hc, or_iff_left hsome]

/-- A resource is let go of after its policy and a group of an earlier version were removed. -/
theorem reconcile_releases_with_leftover :
    let b : Builder := ⟨"k", "default"⟩
    let now : Timestamp := ⟨⟨2024, 2, 29⟩, 12, 30, 0, 0⟩
    let r : Resource := {
      metadata := {
        name := some "web", ownNamespace := some "shop", uid := some "u"
        finalizers := [Resource.finalizer], deletion := some now }
      spec := { appliedTo := [{ pods := some .empty }] } }
    let a : Arrivals := {
      policies := { objects := [{ id := "sp_u", tags := [⟨Tag.ownerScope, "u"⟩] }] }
      groups := { objects := [{ id := "sp_u_0_src", tags := [⟨Tag.ownerScope, "u"⟩] }] } }
    let w : World := { inventory := (a.sync .empty).1 }
    b.Reaches a w.inventory ∧ r.isHeld = true ∧ r.isDeleting = true ∧
      r.metadata.uid = some "u" ∧
      .removeFinalizer "web" "shop" ∈ (b.reconcile now r).sent w ∧ ¬ w.inventory.Clear "u" ∧
      ((b.reconcile now r).after w).inventory.Clear "u" := by
  intro b now r a w
  have hw : b.Reaches a w.inventory := .filled rfl
  have hcall : .removeFinalizer "web" "shop" ∈ (b.reconcile now r).sent w :=
    List.mem_cons_of_mem _ List.mem_cons_self
  have hpolicy : ∀ p ∈ w.inventory.policies.ownedBy "u", p.id = policyId "u" := by decide
  refine ⟨hw, rfl, rfl, rfl, hcall, fun h => h.policies "sp_u" _ rfl rfl, ?_⟩
  exact (reconcile_releases hw rfl rfl rfl hcall).2 hpolicy

/-- A resource cannot be built any more, and there is a group of it but no policy. It is let go of
without a request to the backend, and the group stays. -/
theorem reconcile_releases_before_group :
    let b : Builder := ⟨"k", "default"⟩
    let now : Timestamp := ⟨⟨2024, 2, 29⟩, 12, 30, 0, 0⟩
    let r : Resource := {
      metadata := {
        name := some "web", ownNamespace := some "shop", uid := some "u"
        finalizers := [Resource.finalizer], deletion := some now }
      spec := { rules := [{}] } }
    let left : Group := { id := "sp_u_scope", tags := [⟨Tag.ownerScope, "u"⟩] }
    let a : Arrivals := { groups := { objects := [left] } }
    let w : World := { inventory := (a.sync .empty).1 }
    b.Reaches a w.inventory ∧ r.isHeld = true ∧ r.isDeleting = true ∧
      r.metadata.uid = some "u" ∧
      (b.reconcile now r).sent w = [.removeFinalizer "web" "shop"] ∧
      ((b.reconcile now r).after w).inventory.groups.get? "sp_u_scope" = some left ∧
      ¬ ((b.reconcile now r).after w).inventory.Clear "u" := by
  intro b now r left a w
  have hw : b.Reaches a w.inventory := .filled rfl
  have hleft : ((b.reconcile now r).after w).inventory.groups.get? "sp_u_scope" = some left := rfl
  exact ⟨hw, rfl, rfl, rfl, rfl, hleft, fun h => h.groups _ left hleft rfl⟩

end Builder

end FirewallOperator
