import FirewallOperator.Proofs.Isolation
import FirewallOperator.Proofs.Releases

/-! # Where stored objects come from

A service that starts without objects stores nothing but what it builds: `Inventory.BuiltFrom` says
so of an inventory, and the jobs about resources keep it (`Builder.serveAll_builtFrom`). When no two
uids can be confused, there is more to say of each uid: the inventory either has nothing of it, or
it has what one resource is built into, whole (`Inventory.Whole`). What the service holds is then
never a mixture of versions, whatever the backend refused on the way
(`Builder.serveAll_unmixed`). -/

namespace FirewallOperator

open Operation

/-! ## Built objects -/

namespace Builder

/-- The policies that resources are built into, without their rules. -/
def policiesOf (b : Builder) (rs : Set Resource) : Set Policy :=
  {p | ∃ r ∈ rs, ∃ built, b.build r = .ok built ∧ p = built.policy.withoutRules}

/-- The rules that resources are built into. -/
def rulesOf (b : Builder) (rs : Set Resource) : Set Rule :=
  {x | ∃ r ∈ rs, ∃ built, b.build r = .ok built ∧ x ∈ built.policy.rules}

/-- The groups that resources are built into. -/
def groupsOf (b : Builder) (rs : Set Resource) : Set Group :=
  {g | ∃ r ∈ rs, ∃ built, b.build r = .ok built ∧ g ∈ built.groups}

variable {b : Builder} {rs : Set Resource}

/-- A built object is its resource's. -/
theorem exists_owner_of_mem_policiesOf {p : Policy} (hp : p ∈ b.policiesOf rs) :
    ∃ r ∈ rs, ∃ uid, r.metadata.uid = some uid ∧ OfOwner uid p := by
  obtain ⟨r, hr, built, hb, rfl⟩ := hp
  exact ⟨r, hr, _, uid_of_build hb, (isOf_of_build hb).withoutRules⟩

/-- Every rule that is built from resources is owned by the uid of one of them. -/
theorem exists_owner_of_mem_rulesOf {x : Rule} (hx : x ∈ b.rulesOf rs) :
    ∃ r ∈ rs, ∃ uid, r.metadata.uid = some uid ∧ OfOwner uid x := by
  obtain ⟨r, hr, built, hb, hx⟩ := hx
  exact ⟨r, hr, _, uid_of_build hb, (isOf_of_build hb).rules x hx⟩

/-- Every group that is built from resources is owned by the uid of one of them. -/
theorem exists_owner_of_mem_groupsOf {g : Group} (hg : g ∈ b.groupsOf rs) :
    ∃ r ∈ rs, ∃ uid, r.metadata.uid = some uid ∧ OfOwner uid g := by
  obtain ⟨r, hr, built, hb, hg⟩ := hg
  exact ⟨r, hr, _, uid_of_build hb, (isOf_of_build hb).groups g hg⟩

end Builder

/-! ## Inventories of built objects -/

namespace Store

variable {α : Type} [Managed α] {s : Store α}

/-- What is stored after objects have been applied was there before, or is one of them. -/
theorem stored_or_written {xs : List α} {id : String} {x : α}
    (h : (s.applyAll xs).get? id = some x) :
    s.get? id = some x ∨ (x ∈ xs ∧ Managed.marked x = false) := by
  rw [get?_applyAll] at h
  cases hlast : Difference.lastWith id xs with
  | none =>
    rw [hlast] at h
    exact .inl h
  | some y =>
    simp only [hlast] at h
    split at h
    · cases h
    case isFalse hm =>
      cases h
      exact .inr ⟨(Difference.mem_of_lastWith hlast).1, Bool.eq_false_iff.2 hm⟩

/-- Removals store nothing. -/
theorem stored_of_removals {xs : List α} {id : String} {x : α}
    (h : (s.applyAll (Difference.removals xs)).get? id = some x) : s.get? id = some x := by
  rcases stored_or_written h with hold | ⟨hx, hm⟩
  · exact hold
  · rw [Difference.marked_of_mem_removals hx] at hm
    cases hm

/-- Of a difference only wanted objects are stored. -/
theorem stored_of_writes {existing wanted : List α} {id : String} {x : α}
    (h : (s.applyAll (Difference.between existing wanted).writes).get? id = some x) :
    s.get? id = some x ∨ x ∈ wanted := by
  rcases stored_or_written h with hold | ⟨hx, hm⟩
  · exact .inl hold
  · rcases List.mem_append.1 hx with hx | hx
    · rw [Difference.marked_of_mem_removals hx] at hm
      cases hm
    · exact .inr (Difference.mem_changed.1 hx).1

end Store

namespace Inventory

/-- Every stored object is in the set of its kind. -/
structure Within (m : Inventory) (ps : Set Policy) (xs : Set Rule) (gs : Set Group) : Prop where
  policies : ∀ {id p}, m.policies.get? id = some p → p ∈ ps
  rules : ∀ {id x}, m.rules.get? id = some x → x ∈ xs
  groups : ∀ {id g}, m.groups.get? id = some g → g ∈ gs

section Within

variable {m : Inventory} {ps : Set Policy} {xs : Set Rule} {gs : Set Group} {built : Built}
  {c : Change} {uid : String}

/-- An update stores what is built, and nothing else. -/
theorem Within.of_toBuilt (h : m.Within ps xs gs) (hp : built.policy.withoutRules ∈ ps)
    (hx : ∀ x ∈ built.policy.rules, x ∈ xs) (hg : ∀ g ∈ built.groups, g ∈ gs)
    (hc : Change.toBuilt m uid built = some c) : c.after.Within ps xs gs := by
  rw [Change.toBuilt] at hc
  split at hc
  · cases hc
  · cases hc
    refine ⟨fun {id p} hget => ?_, fun {id x} hget => ?_, fun {id g} hget => ?_⟩
    · simp only at hget
      split at hget
      · rw [Store.get?_apply] at hget
        split at hget
        · split at hget
          · cases hget
          · cases hget
            exact hp
        · exact h.policies hget
      · exact h.policies hget
    · rcases Store.stored_of_writes hget with hold | hbuilt
      · exact h.rules hold
      · exact hx x hbuilt
    · rcases Store.stored_of_writes hget with hold | hbuilt
      · exact h.groups hold
      · exact hg g hbuilt

/-- A removal stores nothing. -/
theorem Within.removing (h : m.Within ps xs gs) (policy : Policy) (rules : List Rule)
    (groups : List Group) : (Change.removing m policy rules groups).after.Within ps xs gs where
  policies {id p} hp := by
    have happlied : (m.policies.applyAll (Difference.removals [policy])).get? id = some p := hp
    exact h.policies (Store.stored_of_removals happlied)
  rules hx := h.rules (Store.stored_of_removals hx)
  groups hg := h.groups (Store.stored_of_removals hg)

/-- The removal of what an owner has brings in nothing new. -/
theorem Within.of_forOwner (h : m.Within ps xs gs) (hc : Change.forOwner m uid = some c) :
    c.after.Within ps xs gs := by
  obtain ⟨policy, -, rfl⟩ := Option.map_eq_some_iff.1 hc
  exact h.removing _ _ _

end Within

/-- Every stored object is one that some of the resources are built into. -/
structure BuiltFrom (m : Inventory) (b : Builder) (rs : Set Resource) : Prop
    extends m.Within (b.policiesOf rs) (b.rulesOf rs) (b.groupsOf rs)

variable {m : Inventory} {b : Builder} {rs : Set Resource} {r : Resource} {built : Built}
  {c : Change} {uid : String}

/-- The empty inventory has nothing that is not built from resources. -/
theorem builtFrom_empty : empty.BuiltFrom b rs where
  policies h := by cases h
  rules h := by cases h
  groups h := by cases h

/-- The uid that a stored object names is that of one of the resources. -/
theorem BuiltFrom.exists_resource (h : m.BuiltFrom b rs) (hm : ¬ m.Clear uid) :
    ∃ r ∈ rs, r.metadata.uid = some uid := by
  by_contra hnone
  have hother : ∀ {α : Type} [Managed α] {x : α},
      (∃ r ∈ rs, ∃ uid', r.metadata.uid = some uid' ∧ OfOwner uid' x) → owner? x ≠ some uid := by
    rintro α _ x ⟨r, hr, uid', hru, hof⟩ howner
    rw [hof.owned] at howner
    exact hnone ⟨r, hr, howner ▸ hru⟩
  exact hm ⟨fun _ _ hget => hother (Builder.exists_owner_of_mem_policiesOf (h.policies hget)),
    fun _ _ hget => hother (Builder.exists_owner_of_mem_rulesOf (h.rules hget)),
    fun _ _ hget => hother (Builder.exists_owner_of_mem_groupsOf (h.groups hget))⟩

/-- Built objects have identities of their owner's family. -/
theorem BuiltFrom.wellOwned (h : m.BuiltFrom b rs) : m.WellOwned := by
  have hfamiliar : ∀ {α : Type} [Managed α] {x : α} {uid : String},
      (∃ r ∈ rs, ∃ uid', r.metadata.uid = some uid' ∧ OfOwner uid' x) → owner? x = some uid →
      InFamily uid (Managed.kind α) (Managed.id x) := by
    rintro α _ x uid ⟨_, _, uid', -, hof⟩ howner
    obtain rfl : uid' = uid := Option.some.inj (hof.owned.symm.trans howner)
    exact hof.familiar
  exact ⟨⟨fun hget => hfamiliar (Builder.exists_owner_of_mem_policiesOf (h.policies hget))⟩,
    ⟨fun hget => hfamiliar (Builder.exists_owner_of_mem_rulesOf (h.rules hget))⟩,
    ⟨fun hget => hfamiliar (Builder.exists_owner_of_mem_groupsOf (h.groups hget))⟩⟩

/-- An update of one of the resources stores what is built of it. -/
theorem BuiltFrom.of_toBuilt (h : m.BuiltFrom b rs) (hr : r ∈ rs) (hb : b.build r = .ok built)
    (hc : Change.toBuilt m uid built = some c) : c.after.BuiltFrom b rs :=
  ⟨h.toWithin.of_toBuilt ⟨r, hr, built, hb, rfl⟩ (fun _ hx => ⟨r, hr, built, hb, hx⟩)
    (fun _ hg => ⟨r, hr, built, hb, hg⟩) hc⟩

/-! ## Inventories without mixtures -/

/-- Of a uid the inventory has nothing, or it has what one of the resources is built into. -/
def Whole (m : Inventory) (b : Builder) (rs : Set Resource) (uid : String) : Prop :=
  m.Clear uid ∨ ∃ r ∈ rs, ∃ built, r.metadata.uid = some uid ∧ b.build r = .ok built ∧
    m.Realizes uid built

/-- Inventories with the same of a uid are whole alike. -/
theorem Whole.congr {n : Inventory} (h : n.Whole b rs uid) (hm : m.Coherent) (hn : n.Coherent)
    (hsame : m.SameOf uid n) : m.Whole b rs uid := by
  rcases h with hclear | ⟨r, hr, built, huid, hb, hrealizes⟩
  · left
    refine ⟨?_, ?_, ?_⟩
    · rw [hm.policies.clear_iff, hsame.policies, ← hn.policies.clear_iff]
      exact hclear.policies
    · rw [hm.rules.clear_iff, hsame.rules, ← hn.rules.clear_iff]
      exact hclear.rules
    · rw [hm.groups.clear_iff, hsame.groups, ← hn.groups.clear_iff]
      exact hclear.groups
  · refine .inr ⟨r, hr, built, huid, hb, ?_, ?_, ?_⟩
    · rw [hsame.policy]
      exact hrealizes.policy
    · rw [hsame.rules]
      exact hrealizes.rules
    · rw [hsame.groups]
      exact hrealizes.groups

/-- An inventory of built objects that is whole for every uid without an underscore. -/
structure Unmixed (m : Inventory) (b : Builder) (rs : Set Resource) : Prop
    extends m.BuiltFrom b rs where
  coherent : m.Coherent
  whole : ∀ uid, '_' ∉ uid.toList → m.Whole b rs uid

/-- The empty inventory is whole for every uid, as it has nothing of any. -/
theorem unmixed_empty : empty.Unmixed b rs where
  toBuiltFrom := builtFrom_empty
  coherent := coherent_empty
  whole _ _ := .inl
    { policies := fun _ _ h _ => nomatch h
      rules := fun _ _ h _ => nomatch h
      groups := fun _ _ h _ => nomatch h }

/-- A change for one uid has only to leave that one whole. -/
theorem Unmixed.after (h : m.Unmixed b rs) (hc : c.WritesOf m uid) (huid : '_' ∉ uid.toList)
    (hbuilt : c.after.BuiltFrom b rs) (hwhole : c.after.Whole b rs uid) :
    c.after.Unmixed b rs where
  toBuiltFrom := hbuilt
  coherent := hc.coherent h.coherent
  whole v hv := by
    by_cases hne : uid = v
    · exact hne ▸ hwhole
    · exact (h.whole v hv).congr (hc.coherent h.coherent) h.coherent
        (hc.sameOf h.coherent h.wellOwned hne huid hv)

/-- The change to what is built from one of the resources leaves the inventory whole. -/
theorem Unmixed.of_toBuilt (h : m.Unmixed b rs) (hr : r ∈ rs) (hb : b.build r = .ok built)
    (huid : '_' ∉ (r.metadata.uid.getD "").toList)
    (hc : Change.toBuilt m (r.metadata.uid.getD "") built = some c) : c.after.Unmixed b rs := by
  refine h.after (Change.writesOf_of_toBuilt h.coherent h.wellOwned (Builder.isOf_of_build hb) hc)
    huid (h.toBuiltFrom.of_toBuilt hr hb hc) (.inr ⟨r, hr, built, Builder.uid_of_build hb, hb, ?_⟩)
  exact Change.realizes_of_toBuilt h.coherent (Builder.belongs_of_build hb) hc

/-- The policies of an owner have one identity. -/
theorem BuiltFrom.id_eq_policyId (h : m.BuiltFrom b rs) (hm : m.Coherent) {p : Policy}
    (hp : p ∈ m.policies.ownedBy uid) : p.id = policyId uid := by
  have hfamily : InFamily uid .policy p.id :=
    (h.wellOwned.policies.ofOwner_ownedBy hm.policies uid p hp).familiar
  generalize p.id = id at hfamily
  cases hfamily
  rfl

/-- The policy under an owner's identity is the owner's. -/
theorem BuiltFrom.owner?_of_policyId (h : m.BuiltFrom b rs) (hm : m.Coherent) {p : Policy}
    (hp : m.policies.get? (policyId uid) = some p) : owner? p = some uid := by
  obtain ⟨_, -, uid', -, hof⟩ := Builder.exists_owner_of_mem_policiesOf (h.policies hp)
  have hfamily : InFamily uid' .policy (Managed.id p) := hof.familiar
  rw [hm.policies.keyed hp] at hfamily
  generalize hid : policyId uid = id at hfamily
  cases hfamily
  rw [hof.owned, (String.append_right_inj "sp_").1 hid]

/-- The removal of what is built leaves the inventory whole. -/
theorem Unmixed.of_ofBuilt (h : m.Unmixed b rs) (hb : b.build r = .ok built)
    (huid : '_' ∉ (r.metadata.uid.getD "").toList) :
    (Change.ofBuilt m (r.metadata.uid.getD "") built).after.Unmixed b rs := by
  refine h.after (Change.writesOf_ofBuilt h.coherent h.wellOwned (Builder.isOf_of_build hb)) huid
    ⟨h.toWithin.removing _ _ _⟩ (.inl ?_)
  rw [Change.clear_ofBuilt h.coherent (Builder.belongs_of_build hb)]
  exact fun p hp => h.id_eq_policyId h.coherent hp

/-- The removal of what an owner has leaves the inventory whole. -/
theorem Unmixed.of_forOwner (h : m.Unmixed b rs)
    (hrs : ∀ r ∈ rs, ∀ u, r.metadata.uid = some u → '_' ∉ u.toList)
    (hc : Change.forOwner m uid = some c) : c.after.Unmixed b rs := by
  obtain ⟨hwrites, -⟩ := Change.writesOf_of_forOwner h.coherent h.wellOwned hc
  have hbuilt : c.after.BuiltFrom b rs := ⟨h.toWithin.of_forOwner hc⟩
  obtain ⟨policy, hhead, rfl⟩ := Option.map_eq_some_iff.1 hc
  have hpolicy := List.mem_of_mem_head? hhead
  -- an owner with a policy is the uid of a resource
  have hsome : ¬ m.Clear uid := fun hclear => by
    rw [h.coherent.policies.clear_iff.1 hclear.policies] at hpolicy
    cases hpolicy
  obtain ⟨r, hr, hru⟩ := h.exists_resource hsome
  refine h.after hwrites (hrs r hr uid hru) hbuilt (.inl ?_)
  rw [Change.clear_removing h.coherent (fun x hx => List.mem_map_of_mem hx)
    fun g hg => List.mem_map_of_mem hg]
  intro p hp
  rw [h.id_eq_policyId h.coherent hp, h.id_eq_policyId h.coherent hpolicy]

end Inventory

/-! ## Runs from nothing -/

/-- A job about resources whose uids have no underscore. -/
def Job.IsPlain : Job → Prop
  | .update r | .remove r => ∀ u, r.metadata.uid = some u → '_' ∉ u.toList
  | .removeOwner _ | .collect _ => True
  | .updateGroups _ => False

namespace Builder

variable {b : Builder} {rs : Set Resource} {jobs : List Job} {w : World}

/-- Jobs about resources store nothing but what they build. -/
theorem serveAll_within {ps : Set Policy} {xs : Set Rule} {gs : Set Group}
    (hgroups : ∀ gs, .updateGroups gs ∉ jobs)
    (hbuilt : ∀ r built, .update r ∈ jobs → b.build r = .ok built →
      built.policy.withoutRules ∈ ps ∧ (∀ x ∈ built.policy.rules, x ∈ xs) ∧
        ∀ g ∈ built.groups, g ∈ gs)
    (h : w.inventory.Within ps xs gs) : (b.serveAll jobs w).inventory.Within ps xs gs := by
  refine serveAll_keeps (P := (·.Within ps xs gs)) hgroups ?_ (fun _ hm _ => hm.removing _ _ _)
    (fun hm hc => hm.of_forOwner hc) h
  intro m r built c hjob hm hb hc
  obtain ⟨hp, hx, hg⟩ := hbuilt r built hjob hb
  exact hm.of_toBuilt hp hx hg hc

/-- Jobs that write no groups directly leave nothing that is not built from resources. -/
theorem serveAll_builtFrom (hgroups : ∀ gs, .updateGroups gs ∉ jobs)
    (hrs : ∀ r, .update r ∈ jobs → r ∈ rs) (h : w.inventory.BuiltFrom b rs) :
    (b.serveAll jobs w).inventory.BuiltFrom b rs := by
  refine ⟨serveAll_within hgroups (fun r built hr hb => ?_) h.toWithin⟩
  exact ⟨⟨r, hrs r hr, built, hb, rfl⟩, fun _ hx => ⟨r, hrs r hr, built, hb, hx⟩,
    fun _ hg => ⟨r, hrs r hr, built, hb, hg⟩⟩

/-- Jobs about resources with plain uids leave no mixture. -/
theorem serveAll_unmixed (hplain : ∀ job ∈ jobs, job.IsPlain)
    (hrs : ∀ r ∈ rs, ∀ u, r.metadata.uid = some u → '_' ∉ u.toList)
    (hjobs : ∀ r, .update r ∈ jobs → r ∈ rs) (h : w.inventory.Unmixed b rs) :
    (b.serveAll jobs w).inventory.Unmixed b rs := by
  refine serveAll_keeps (P := (·.Unmixed b rs)) (fun gs hgs => hplain _ hgs) ?_ ?_
    (fun hm hc => hm.of_forOwner hrs hc) h
  · intro m r built c hjob hm hb hc
    exact hm.of_toBuilt (hjobs r hjob) hb (hplain _ hjob _ (uid_of_build hb)) hc
  · intro m r built hjob hm hb
    exact hm.of_ofBuilt hb (hplain _ hjob _ (uid_of_build hb))

end Builder

end FirewallOperator
