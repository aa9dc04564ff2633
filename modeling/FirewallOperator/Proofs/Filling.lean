import FirewallOperator.Proofs.Stores
import Mathlib.Data.List.Perm.Basic

/-! # What listings fill

Listings of different kinds fill different stores, so the order in which they arrive does not
matter: an inventory filled without a fault is `Arrivals.filled`. -/

namespace FirewallOperator

namespace Arrivals

variable {a : Arrivals} {m : Inventory}

/-- An inventory with all listings stored. -/
def filled (a : Arrivals) (m : Inventory) : Inventory where
  policies := m.policies.putAll (a.policies.objects.map (·.withoutRules))
  rules := m.rules.putAll a.rules.objects
  groups := m.groups.putAll a.groups.objects

/-- Stores of different kinds are filled independently. -/
theorem store_comm (a : Arrivals) (m : Inventory) (k l : Kind) :
    a.store (a.store m k) l = a.store (a.store m l) k := by
  cases k <;> cases l <;> rfl

/-- A kind that is put in its place by its delay is one more kind. -/
theorem insertByDelay_perm (a : Arrivals) (k : Kind) (order : List Kind) :
    (a.insertByDelay k order).Perm (k :: order) := by
  induction order with
  | nil => exact .refl _
  | cons l rest ih =>
    rw [insertByDelay]
    split
    · exact .refl _
    · exact (ih.cons l).trans (.swap k l rest)

/-- Each kind arrives once. -/
theorem arrivalOrder_perm (a : Arrivals) : a.arrivalOrder.Perm [.policy, .rule, .group] := by
  show (a.insertByDelay .group (a.insertByDelay .rule [.policy])).Perm _
  have hgroup := a.insertByDelay_perm .group (a.insertByDelay .rule [.policy])
  have hrule := a.insertByDelay_perm .rule [.policy]
  have hreverse : [Kind.group, .rule, .policy].Perm [.policy, .rule, .group] := by decide
  exact (hgroup.trans (hrule.cons _)).trans hreverse

/-- Listings that arrive without a fault are all stored. -/
theorem syncIn_of_faultless {order : List Kind} (h : (a.syncIn order m).2 = none) :
    (∀ k ∈ order, a.fault? k = none) ∧ (a.syncIn order m).1 = order.foldl a.store m := by
  induction order generalizing m with
  | nil => exact ⟨by simp, rfl⟩
  | cons k rest ih =>
    rw [syncIn] at h ⊢
    cases hk : a.fault? k with
    -- a listing that fails would have ended the attempt
    | some fault => rw [hk] at h; cases h
    | none =>
      rw [hk] at h
      obtain ⟨hrest, hm⟩ := ih h
      exact ⟨by simpa [hk] using hrest, hm⟩

/-- An inventory filled without a fault holds all listings, in whatever order they arrived. -/
theorem sync_eq_filled (h : (a.sync m).2 = none) : (a.sync m).1 = a.filled m := by
  have hcomm : RightCommutative a.store := ⟨a.store_comm⟩
  rw [sync, (syncIn_of_faultless h).2, a.arrivalOrder_perm.foldl_eq]
  rfl

end Arrivals

/-! ## Coherent inventories -/

/-- Every store agrees with its index. -/
structure Inventory.Coherent (m : Inventory) : Prop where
  policies : m.policies.Coherent
  rules : m.rules.Coherent
  groups : m.groups.Coherent

/-- The empty inventory is coherent. -/
theorem Inventory.coherent_empty : empty.Coherent :=
  ⟨Store.coherent_empty, Store.coherent_empty, Store.coherent_empty⟩

/-- A coherent inventory stays coherent when a listing is put into it. -/
theorem Inventory.Coherent.putAll {m : Inventory} (h : m.Coherent) (l : Listing) :
    (m.putAll l).Coherent :=
  ⟨h.policies.putAll _, h.rules.putAll _, h.groups.putAll _⟩

/-- A planned change applies objects to each store. It leaves the policies alone only when it resends
one of them. -/
theorem Change.Planned.applied {b : Builder} {m : Inventory} {c : Change}
    (h : Change.Planned b m c) :
    ((c.after.policies = m.policies ∧ ∃ id, m.policies.get? id = some c.policy) ∨
        c.after.policies = m.policies.apply c.policy) ∧
      c.after.rules = m.rules.applyAll c.rules ∧ c.after.groups = m.groups.applyAll c.groups := by
  cases h with
  | @update r built c hb hc =>
    rw [Change.toBuilt] at hc
    split at hc
    · cases hc
    · cases hc
      refine ⟨?_, rfl, rfl⟩
      simp only
      cases hdiff : Difference.differs (m.policies.get? built.policy.withoutRules.id)
          built.policy.withoutRules with
      | true => exact .inr rfl
      | false =>
        -- a policy that does not differ is stored, and it is the stored one that goes out
        cases hold : m.policies.get? built.policy.withoutRules.id with
        | none => rw [hold] at hdiff; cases hdiff
        | some old => exact .inl ⟨rfl, _, hold⟩
  | removal hb => exact ⟨.inr rfl, rfl, rfl⟩
  | owner hc =>
    obtain ⟨policy, -, rfl⟩ := Option.map_eq_some_iff.1 hc
    exact ⟨.inr rfl, rfl, rfl⟩

/-- A planned change stores no policy that is marked. -/
theorem Change.Planned.policy_after {b : Builder} {m : Inventory} {c : Change}
    (h : Change.Planned b m c) {id : String} {p : Policy}
    (hp : c.after.policies.get? id = some p) :
    m.policies.get? id = some p ∨ p.marked = false := by
  rcases h.applied.1 with ⟨hsame, -⟩ | happly
  · exact .inl (hsame ▸ hp)
  · rw [happly, Store.get?_apply] at hp
    split at hp
    · split at hp
      · cases hp
      case isFalse hm =>
        cases hp
        exact .inr (Bool.eq_false_iff.2 hm)
    · exact .inl hp

/-- A coherent inventory stays coherent by a planned change. -/
theorem Inventory.Coherent.after {b : Builder} {m : Inventory} {c : Change} (h : m.Coherent)
    (hc : Change.Planned b m c) : c.after.Coherent := by
  obtain ⟨hpolicies, hrules, hgroups⟩ := hc.applied
  refine ⟨?_, hrules ▸ h.rules.applyAll _, hgroups ▸ h.groups.applyAll _⟩
  rcases hpolicies with heq | heq
  · exact heq.1 ▸ h.policies
  · exact heq ▸ h.policies.apply _

/-- Every step of the service keeps an inventory coherent. -/
theorem Builder.Step.coherent {b : Builder} {w v : World} (hs : b.Step w v)
    (h : w.inventory.Coherent) : v.inventory.Coherent := by
  cases hs with
  | accepted hc _ => exact h.after hc
  | refused => exact h
  | groupAccepted g _ => exact ⟨h.policies, h.rules, h.groups.put g⟩
  | groupRefused => exact h
  | listed => exact h

/-- A coherent inventory stays coherent by any number of steps. -/
theorem Builder.Steps.coherent {b : Builder} {w v : World} (hs : b.Steps w v)
    (h : w.inventory.Coherent) : v.inventory.Coherent :=
  hs.preserve (P := fun w => w.inventory.Coherent) Builder.Step.coherent h

/-- Every inventory that is reached is coherent. -/
theorem Builder.Reaches.coherent {b : Builder} {a : Arrivals} {m : Inventory}
    (h : b.Reaches a m) : m.Coherent := by
  refine h.invariant (fun hfill => ?_) (fun hm hc => hm.after hc) fun g hm =>
    ⟨hm.policies, hm.rules, hm.groups.put g⟩
  rw [Arrivals.sync_eq_filled hfill]
  exact ⟨Store.coherent_empty.putAll _, Store.coherent_empty.putAll _,
    Store.coherent_empty.putAll _⟩

end FirewallOperator
