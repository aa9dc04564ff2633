import FirewallOperator.Proofs.Filling

/-! # The inventory mirrors the backend

`Holdings` is what the backend holds, and `Holdings.replay` is what it comes to hold by a row of
calls, each of which it accepts or refuses as it likes. The inventory is brought up to date by other
means: from planned changes, and only in the parts that they touch. `Builder.serveAll_mirrors` shows
that the two are the same at any time, for a service that was filled from what the backend held. -/

namespace FirewallOperator

/-! ## What the backend holds -/

/-- Objects of one kind, each under its identity. -/
structure Catalog (α : Type) [Managed α] where
  objects : SortedMap α
  keyed : ∀ {id x}, objects.get? id = some x → Managed.id x = id

namespace Catalog

variable {α : Type} [Managed α]

/-- The catalog without objects. -/
def empty : Catalog α := ⟨.empty, by simp⟩

/-- The catalog with an object created, or replaced. -/
def create (k : Catalog α) (x : α) : Catalog α where
  objects := k.objects.insert (Managed.id x) x
  keyed {id y} hy := by
    rw [SortedMap.get?_insert] at hy
    split at hy
    case isTrue hid =>
      cases hy
      exact hid.symm
    case isFalse => exact k.keyed hy

/-- The catalog without the object with an identity. -/
def remove (k : Catalog α) (id : String) : Catalog α where
  objects := k.objects.erase id
  keyed {id' y} hy := by
    rw [SortedMap.get?_erase] at hy
    split at hy
    · cases hy
    · exact k.keyed hy

/-- Removes an object that is marked, and creates or replaces any other. -/
def settle (k : Catalog α) (x : α) : Catalog α :=
  if Managed.marked x then k.remove (Managed.id x) else k.create x

/-- Settles objects one after the other. -/
def settleAll (k : Catalog α) (xs : List α) : Catalog α := xs.foldl settle k

/-- Settling again what is there changes nothing. -/
theorem objects_settle_of_get? {k : Catalog α} {id : String} {x : α}
    (hx : k.objects.get? id = some x) (hm : Managed.marked x = false) :
    (k.settle x).objects = k.objects := by
  rw [settle, hm, if_neg Bool.false_ne_true]
  refine SortedMap.ext_get? fun id' => ?_
  show (k.objects.insert (Managed.id x) x).get? id' = k.objects.get? id'
  rw [k.keyed hx]
  rw [SortedMap.get?_insert]
  split
  case isTrue hid => rw [hid, hx]
  case isFalse => rfl

/-- A store takes up an object as a catalog does. -/
theorem objects_apply {s : Store α} {k : Catalog α} (h : s.objects = k.objects) (x : α) :
    (s.apply x).objects = (k.settle x).objects := by
  rw [Store.apply, settle]
  split
  · simp only [Store.delete, remove, h]
  · simp only [Store.put, create, h]

/-- A store that has what a catalog has still does when objects are applied to both. -/
theorem objects_applyAll {s : Store α} {k : Catalog α} (h : s.objects = k.objects) (xs : List α) :
    (s.applyAll xs).objects = (k.settleAll xs).objects := by
  induction xs generalizing s k with
  | nil => exact h
  | cons x xs ih => exact ih (objects_apply h x)

/-- A catalog is filled by a listing of exactly its objects. -/
theorem objects_putAll {k : Catalog α} {xs : List α}
    (h : ∀ x, x ∈ xs ↔ k.objects.get? (Managed.id x) = some x) :
    ((Store.empty : Store α).putAll xs).objects = k.objects := by
  refine SortedMap.ext_get? fun id => ?_
  show ((Store.empty : Store α).putAll xs).get? id = _
  have hempty : (Store.empty : Store α).get? id = none := rfl
  rw [Store.get?_putAll, hempty, Option.or_none]
  cases hlast : Difference.lastWith id xs with
  | some x =>
    obtain ⟨hx, hid⟩ := Difference.mem_of_lastWith hlast
    rw [← hid, (h x).1 hx]
  | none =>
    cases hk : k.objects.get? id with
    | none => rfl
    | some x =>
      have hid := k.keyed hk
      exact absurd hid (Difference.lastWith_eq_none.1 hlast x ((h x).2 (hid.symm ▸ hk)))

end Catalog

/-- What the backend holds: policies without their rules, rules, and groups. -/
structure Holdings where
  policies : Catalog Policy
  rules : Catalog Rule
  groups : Catalog Group
  bare : ∀ {id p}, policies.objects.get? id = some p → p.rules = []

namespace Holdings

/-- The backend without objects. -/
def empty : Holdings := ⟨.empty, .empty, .empty, by simp [Catalog.empty]⟩

/-- The holdings once a carried object has been settled, a policy with its rules. -/
def settle (h : Holdings) : Child → Holdings
  | .group _ g => { h with groups := h.groups.settle g }
  | .policy _ p => {
      policies := h.policies.settle p.withoutRules
      rules := h.rules.settleAll p.rules
      groups := h.groups
      bare {id q} hq := by
        rw [Catalog.settle] at hq
        split at hq
        · simp only [Catalog.remove, SortedMap.get?_erase] at hq
          split at hq
          · cases hq
          · exact h.bare hq
        · simp only [Catalog.create, SortedMap.get?_insert] at hq
          split at hq
          · cases hq
            rfl
          · exact h.bare hq }

/-- The holdings once a call has been accepted. -/
def accept (h : Holdings) : Call → Holdings
  | .patchInfra _ p => p.children.foldl settle h
  | .patchGroup _ g => { h with groups := h.groups.create g }
  | _ => h

/-- The holdings once a call has been answered: what is refused changes nothing. -/
def answered (h : Holdings) (call : Call) : Option Fault → Holdings
  | none => h.accept call
  | some _ => h

/-- The holdings after calls, of which each that goes to the backend takes the next answer. Calls
after the last answer are accepted. -/
def replay (h : Holdings) (answers : List (Option Fault)) : List Call → Holdings
  | [] => h
  | call :: rest =>
    if call.isBackend then (h.answered call answers.head?.join).replay answers.tail rest
    else h.replay answers rest

/-- One more call takes the answer after those that were taken before. -/
theorem replay_concat (h : Holdings) (answers : List (Option Fault)) (calls : List Call)
    (call : Call) :
    h.replay answers (calls ++ [call]) =
      if call.isBackend then
        (h.replay answers calls).answered call
          (answers.drop (calls.countP Call.isBackend)).head?.join
      else h.replay answers calls := by
  induction calls generalizing h answers with
  | nil => rfl
  | cons c rest ih =>
    rw [List.cons_append, replay, replay, List.countP_cons]
    split
    · rw [ih, ← List.drop_one, List.drop_drop, Nat.add_comm 1]
    · rw [ih, Nat.add_zero]

/-- An accepted request settles its groups, its policy and the rules. -/
theorem accept_patch (h : Holdings) (c : Change) (domain : String) :
    (h.accept (.patchInfra false (c.patch domain))).policies =
        h.policies.settle c.policy.withoutRules ∧
      (h.accept (.patchInfra false (c.patch domain))).rules = h.rules.settleAll c.rules ∧
      (h.accept (.patchInfra false (c.patch domain))).groups = h.groups.settleAll c.groups := by
  have hgroups : ∀ (gs : List Group) (h : Holdings),
      (gs.map fun g => Child.group g.marked g).foldl settle h =
        { h with groups := h.groups.settleAll gs } := by
    intro gs
    induction gs with
    | nil => exact fun _ => rfl
    | cons g rest ih =>
      intro h
      rw [List.map_cons, List.foldl_cons, ih]
      rfl
  rw [accept, Change.patch, Patch.children_wrap, List.foldl_append, hgroups]
  exact ⟨rfl, rfl, rfl⟩

/-- An inventory has exactly what the backend holds. -/
structure Mirrors (h : Holdings) (m : Inventory) : Prop where
  policies : m.policies.objects = h.policies.objects
  rules : m.rules.objects = h.rules.objects
  groups : m.groups.objects = h.groups.objects

end Holdings

/-- Listings that arrive, and show exactly what the backend holds. A policy may be shown with its
rules. -/
structure Arrivals.Lists (a : Arrivals) (h : Holdings) : Prop where
  faultless : (a.sync .empty).2 = none
  policies : ∀ p, p ∈ a.policies.objects.map (·.withoutRules) ↔
    h.policies.objects.get? p.id = some p
  rules : ∀ r, r ∈ a.rules.objects ↔ h.rules.objects.get? r.id = some r
  groups : ∀ g, g ∈ a.groups.objects ↔ h.groups.objects.get? g.id = some g

/-- A service starts with what the backend holds. -/
theorem Holdings.mirrors_filled {h : Holdings} {a : Arrivals} (ha : a.Lists h) :
    h.Mirrors (a.sync .empty).1 := by
  rw [Arrivals.sync_eq_filled ha.faultless]
  exact ⟨Catalog.objects_putAll ha.policies, Catalog.objects_putAll ha.rules,
    Catalog.objects_putAll ha.groups⟩

/-! ## Changes on both sides -/

/-- No stored policy asks for its removal. -/
def Inventory.Kept (m : Inventory) : Prop :=
  ∀ id p, m.policies.get? id = some p → p.marked = false

/-- A planned change leaves no policy that asks for its removal. -/
theorem Inventory.Kept.after {b : Builder} {m : Inventory} {c : Change} (h : m.Kept)
    (hc : Change.Planned b m c) : c.after.Kept := by
  intro id p hp
  rcases hc.policy_after hp with hold | hm
  · exact h id p hold
  · exact hm

namespace Holdings

variable {b : Builder} {h : Holdings} {m : Inventory} {c : Change}

/-- The policy of a planned change carries no rules. -/
theorem Mirrors.rules_policy (hm : h.Mirrors m) (hc : Change.Planned b m c) :
    c.policy.rules = [] := by
  have hbare : ∀ {id p}, m.policies.get? id = some p → p.rules = [] := by
    intro id p hp
    rw [Store.get?, hm.policies] at hp
    exact h.bare hp
  cases hc with
  | @update r built c hb hc =>
    rw [Change.toBuilt] at hc
    split at hc
    · cases hc
    · cases hc
      simp only
      split
      · rfl
      · cases hold : m.policies.get? built.policy.withoutRules.id with
        | none => rfl
        | some old => exact hbare hold
  | removal hb => rfl
  | owner hc =>
    obtain ⟨policy, hpolicy, rfl⟩ := Option.map_eq_some_iff.1 hc
    obtain ⟨id, hid⟩ := Store.exists_of_mem_ownedBy (List.mem_of_mem_head? hpolicy)
    exact hbare (p := policy) hid

/-- A change that the backend has accepted takes the same effect on both sides. -/
theorem Mirrors.accept (hm : h.Mirrors m) (hkept : m.Kept) (hc : Change.Planned b m c)
    (domain : String) : (h.accept (.patchInfra false (c.patch domain))).Mirrors c.after := by
  obtain ⟨hpolicy, hrules, hgroups⟩ := h.accept_patch c domain
  obtain ⟨hp, hr, hg⟩ := hc.applied
  -- the rules of a request are taken apart from its policy, which is then what the plan has
  have hbare : c.policy.withoutRules = c.policy := by
    rw [Policy.withoutRules, ← hm.rules_policy hc]
  refine ⟨?_, ?_, ?_⟩
  · rw [hpolicy, hbare]
    rcases hp with ⟨hsame, id, hid⟩ | happly
    -- a policy that is only resent is settled where it already is
    · have hstored : h.policies.objects.get? id = some c.policy := hm.policies ▸ hid
      rw [hsame, hm.policies, Catalog.objects_settle_of_get? hstored (hkept id _ hid)]
    · rw [happly, Catalog.objects_apply hm.policies]
  · rw [hr, hrules, Catalog.objects_applyAll hm.rules]
  · rw [hg, hgroups, Catalog.objects_applyAll hm.groups]

/-- A group that is accepted and then stored leaves the inventory what the backend holds. -/
theorem Mirrors.put_group (hm : h.Mirrors m) (g : Group) (domain : String) :
    (h.accept (.patchGroup domain g)).Mirrors { m with groups := m.groups.put g } := by
  refine ⟨hm.policies, hm.rules, ?_⟩
  simp only [Holdings.accept, Store.put, Catalog.create, hm.groups]

end Holdings

/-! ## Runs -/

/-- The service and the backend are in line: the inventory has what the backend holds after the
calls so far, and the answers to come are those that were not taken. -/
structure World.InLine (start : Holdings) (answers : List (Option Fault)) (w : World) : Prop where
  mirrors : (start.replay answers w.calls).Mirrors w.inventory
  kept : w.inventory.Kept
  writes : w.writes = answers.drop (w.calls.countP Call.isBackend)

namespace Builder

variable {b : Builder} {start : Holdings} {answers : List (Option Fault)} {w v : World}

/-- Every step of the service keeps the two in line. -/
theorem Step.inLine (hs : b.Step w v) (h : w.InLine start answers) : v.InLine start answers := by
  have htaken : ∀ call : Call, call.isBackend → w.writes.tail =
      answers.drop ((w.calls ++ [call]).countP Call.isBackend) := by
    intro call hcall
    rw [List.countP_append, List.countP_singleton, if_pos hcall, h.writes, List.tail_drop]
  -- a call that goes to the backend takes the answer that comes next in the world
  have hreplay : ∀ call : Call, call.isBackend →
      start.replay answers (w.calls ++ [call]) =
        (start.replay answers w.calls).answered call w.answer := by
    intro call hcall
    rw [Holdings.replay_concat, if_pos hcall, World.answer, h.writes]
  cases hs with
  | @accepted c hc ha =>
    refine ⟨?_, h.kept.after hc, htaken _ rfl⟩
    rw [World.calls_stocked, World.calls_written, hreplay _ rfl, ha]
    exact h.mirrors.accept h.kept hc b.domain
  | @refused c fault hc ha =>
    refine ⟨?_, h.kept, htaken _ rfl⟩
    rw [World.calls_written, hreplay _ rfl, ha]
    exact h.mirrors
  | groupAccepted g ha =>
    refine ⟨?_, h.kept, htaken _ rfl⟩
    rw [World.calls_stocked, World.calls_written, hreplay _ rfl, ha]
    exact h.mirrors.put_group g b.domain
  | groupRefused g ha =>
    refine ⟨?_, h.kept, htaken _ rfl⟩
    rw [World.calls_written, hreplay _ rfl, ha]
    exact h.mirrors
  | listed =>
    refine ⟨?_, h.kept, ?_⟩
    · rw [World.calls_called, Holdings.replay_concat, if_neg (by decide)]
      exact h.mirrors
    · rw [World.calls_called, List.countP_append, List.countP_singleton, if_neg (by decide),
        Nat.add_zero]
      exact h.writes

/-- **Mirroring.** A service starts from listings of what the backend holds, where no policy is
marked. It does any jobs, and the backend accepts or refuses each call as it likes. After every job
the inventory has exactly what the backend then holds. -/
theorem serveAll_mirrors (b : Builder) {start : Holdings} {a : Arrivals} (ha : a.Lists start)
    (hmarks : ∀ id p, start.policies.objects.get? id = some p → p.marked = false)
    (answers : List (Option Fault)) (jobs : List Job) :
    let w := b.serveAll jobs { inventory := (a.sync .empty).1, writes := answers }
    (start.replay answers w.calls).Mirrors w.inventory := by
  have hfilled := Holdings.mirrors_filled ha
  have hkept : (a.sync .empty).1.Kept := by
    intro id p hp
    rw [Store.get?, hfilled.policies] at hp
    exact hmarks id p hp
  have hstart : World.InLine start answers
      { inventory := (a.sync .empty).1, writes := answers } := ⟨hfilled, hkept, rfl⟩
  exact ((b.serveAll_steps jobs _).preserve Step.inLine hstart).mirrors

/-- A backend that holds one policy refuses its removal once, and then accepts it: in between the
inventory still has the policy, and has nothing in the end. -/
theorem serveAll_mirrors_refused_removal :
    let p : Policy := { id := "sp_u", tags := [⟨Tag.ownerScope, "u"⟩] }
    let start := Holdings.empty.accept (.patchInfra false (.wrap "default" p []))
    let a : Arrivals := { policies := { objects := [p] } }
    let answers := [some (Fault.backend "patch" none "")]
    let w jobs := Builder.serveAll ⟨"k", "default"⟩ jobs
      { inventory := (a.sync .empty).1, writes := answers }
    let jobs := [Job.removeOwner "u", .removeOwner "u"]
    a.Lists start ∧ (∀ id q, start.policies.objects.get? id = some q → q.marked = false) ∧
      (w (jobs.take 1)).inventory.policies.objects.values = [p] ∧
      (w jobs).inventory.policies.objects.values = [] ∧
      (start.replay answers (w jobs).calls).Mirrors (w jobs).inventory := by
  intro p start a answers w jobs
  have hget : ∀ id, start.policies.objects.get? id = if id = p.id then some p else none :=
    fun id => SortedMap.get?_insert .empty p.id id p
  have ha : a.Lists start := by
    refine ⟨rfl, fun q => ?_, fun r => ?_, fun g => ?_⟩
    · show q ∈ [p] ↔ _
      rw [hget, List.mem_singleton]
      constructor
      · rintro rfl
        rfl
      · intro h
        split at h
        · exact (Option.some.inj h).symm
        · cases h
    · exact ⟨fun h => (nomatch h), fun h => (nomatch h)⟩
    · exact ⟨fun h => (nomatch h), fun h => (nomatch h)⟩
  have hmarks : ∀ id q, start.policies.objects.get? id = some q → q.marked = false := by
    intro id q h
    rw [hget] at h
    split at h
    · cases h
      rfl
    · cases h
  exact ⟨ha, hmarks, by decide, by decide, serveAll_mirrors _ ha hmarks answers jobs⟩

end Builder

end FirewallOperator
