import FirewallOperator.Proofs.Removals

/-! # The form of requests

Requests are put together from stored objects, from built ones and from what is left over. All of
them have one form (`Patch.WellFormed`): one domain, its groups before its one policy, and removals
before everything else, without an identity that comes twice. Planned changes have it
(`Change.Planned.wellFormed`), so whatever a run sends has it (`Builder.Steps.wellFormed`).
`Builder.requests_wellFormed` adds what an update writes: the built objects of which the inventory
has no equal. -/

namespace FirewallOperator

open Operation

/-! ## Removals first -/

section Lists

variable {α : Type} [Managed α] {xs ys : List α} {uid : String}

/-- A list as a request carries it: no identity comes twice, and what is to be removed comes before
what is not. -/
structure RemovalsFirst (xs : List α) : Prop where
  distinct : (xs.map Managed.id).Nodup
  ordered : xs.Pairwise fun x y => Managed.marked y = true → Managed.marked x = true

/-- Removals of different objects are a list as a request carries it. -/
theorem removalsFirst_removals (h : (xs.map Managed.id).Nodup) :
    RemovalsFirst (Difference.removals xs) where
  distinct := by
    rw [Difference.ids_removals]
    exact List.nodup_reverse.2 h
  ordered := List.pairwise_of_forall_mem_list fun _ hx _ _ _ => Difference.marked_of_mem_removals hx

/-- A list without removals may follow one of removals. -/
theorem RemovalsFirst.append (hx : RemovalsFirst xs) (hmarked : ∀ x ∈ xs, Managed.marked x = true)
    (hy : (ys.map Managed.id).Nodup) (hunmarked : ∀ y ∈ ys, Managed.marked y = false)
    (hdisjoint : ∀ x ∈ xs, ∀ y ∈ ys, Managed.id x ≠ Managed.id y) : RemovalsFirst (xs ++ ys) where
  distinct := by
    rw [List.map_append]
    refine hx.distinct.append hy fun id hidx hidy => ?_
    obtain ⟨x, hxm, rfl⟩ := List.mem_map.1 hidx
    obtain ⟨y, hym, hid⟩ := List.mem_map.1 hidy
    exact hdisjoint x hxm y hym hid.symm
  ordered := by
    refine List.pairwise_append.2 ⟨hx.ordered, ?_, fun x hxm _ _ _ => hmarked x hxm⟩
    refine List.pairwise_of_forall_mem_list fun _ _ y hym hy => ?_
    rw [hunmarked y hym] at hy
    cases hy

/-- The objects to write are removals, and then the wanted objects that are new or different. -/
theorem removalsFirst_writes {existing wanted : List α} (he : (existing.map Managed.id).Nodup)
    (hw : Wanted uid wanted) : RemovalsFirst (Difference.between existing wanted).writes := by
  have hstale : ((Difference.between existing wanted).stale.map Managed.id).Nodup :=
    he.sublist (List.filter_sublist.map _)
  have hchanged : ((Difference.between existing wanted).changed.map Managed.id).Nodup :=
    hw.distinct.sublist (List.filter_sublist.map _)
  refine (removalsFirst_removals hstale).append (fun x hx => Difference.marked_of_mem_removals hx)
    hchanged (fun y hy => hw.unmarked y (Difference.mem_changed.1 hy).1) ?_
  intro x hx y hy hid
  obtain ⟨z, hz, rfl⟩ := List.mem_map.1 hx
  rw [Managed.id_setMarked] at hid
  -- what is stale has no wanted object with its identity
  have hwanted : y ∈ wanted := (Difference.mem_changed.1 hy).1
  exact (Difference.mem_stale.1 (List.mem_reverse.1 hz)).2 y hwanted hid.symm

/-- Stored objects that are not built any more have other identities than the built ones. -/
theorem nodup_withStored {built stored : List α} (hb : (built.map Managed.id).Nodup)
    (hs : (stored.map Managed.id).Nodup) :
    ((Change.withStored built stored).map Managed.id).Nodup := by
  rw [Change.withStored, List.map_append]
  refine hb.append (hs.sublist (List.filter_sublist.map _)) fun id hbuilt hleft => ?_
  obtain ⟨x, hx, rfl⟩ := List.mem_map.1 hleft
  obtain ⟨y, hy, hid⟩ := List.mem_map.1 hbuilt
  have hnone := (List.mem_filter.1 hx).2
  rw [Bool.not_eq_true', List.any_eq_false] at hnone
  exact hnone y hy (beq_iff_eq.2 hid)

/-- The owner has no stored object that equals this one. -/
def Store.Lacks (s : Store α) (uid : String) (x : α) : Prop :=
  ∀ y, s.get? (Managed.id x) = some y → owner? y = some uid → fingerprint y ≠ fingerprint x

/-- A wanted object has to be written exactly when the owner has no equal of it. -/
theorem Store.Coherent.differs_iff_lacks {s : Store α} (hs : s.Coherent) {x : α} :
    Difference.differs (Difference.lastWith (Managed.id x) (s.ownedBy uid)) x = true ↔
      s.Lacks uid x := by
  constructor
  · intro hdiff y hget howner hfp
    have hid : Managed.id y = Managed.id x := hs.keyed hget
    have hmem : y ∈ s.ownedBy uid := hs.mem_ownedBy.2 ⟨hid.symm ▸ hget, howner⟩
    have hlast := Difference.lastWith_of_mem (hs.nodup_ownedBy uid) hmem
    rw [Difference.differs_eq_false_iff.2 ⟨y, hid ▸ hlast, hfp⟩] at hdiff
    cases hdiff
  · intro hlacks
    rw [← Bool.not_eq_false, Difference.differs_eq_false_iff]
    rintro ⟨y, hlast, hfp⟩
    obtain ⟨hmem, hid⟩ := Difference.mem_of_lastWith hlast
    obtain ⟨hget, howner⟩ := hs.mem_ownedBy.1 hmem
    exact hlacks y (hid ▸ hget) howner hfp

/-- Of the objects to write, those that are not to be removed are the wanted ones that are new or
different. -/
theorem Store.Coherent.mem_writes_iff {s : Store α} (hs : s.Coherent) {wanted : List α}
    (hw : Wanted uid wanted) {x : α} :
    (x ∈ (Difference.between (s.ownedBy uid) wanted).writes ∧ Managed.marked x = false) ↔
      x ∈ wanted ∧ s.Lacks uid x := by
  rw [← hs.differs_iff_lacks, ← Difference.mem_changed]
  constructor
  · rintro ⟨hx, hunmarked⟩
    rcases List.mem_append.1 hx with hx | hx
    · rw [Difference.marked_of_mem_removals hx] at hunmarked
      cases hunmarked
    · exact hx
  · intro hx
    exact ⟨List.mem_append_right _ hx, hw.unmarked x (Difference.mem_changed.1 hx).1⟩

end Lists

/-! ## Requests -/

/-- A request changes one domain, which is kept, by groups and then one policy. Each child repeats
the mark of its object, and the groups and the policy are found again. Among the groups, and among
the policy's rules, removals come first. -/
structure Patch.WellFormed (p : Patch) (domain : String) (gs : List Group) (policy : Policy) :
    Prop where
  entry : ∃ entry, p.domains = [entry] ∧ entry.marked = false ∧ entry.domain.id = domain ∧
    entry.domain.children =
      gs.map (fun g => .group g.marked g) ++ [.policy policy.marked policy]
  groups_found : p.groups = gs
  policy_found : p.policy? = some policy
  groups_ordered : RemovalsFirst gs
  rules_ordered : RemovalsFirst policy.rules

/-- A patch is well formed if its groups and its rules are lists as a request carries them. -/
theorem Patch.wellFormed_wrap {domain : String} {gs : List Group} {policy : Policy}
    (hgs : RemovalsFirst gs) (hrules : RemovalsFirst policy.rules) :
    (wrap domain policy gs).WellFormed domain gs policy where
  entry := ⟨_, rfl, rfl, rfl, rfl⟩
  groups_found := groups_wrap domain policy gs
  policy_found := policy?_wrap domain policy gs
  groups_ordered := hgs
  rules_ordered := hrules

/-- The rules and groups of a request that are not to be removed are the built ones that the
inventory lacks. -/
structure Patch.WritesNew (p : Patch) (m : Inventory) (uid : String) (built : Built) : Prop where
  rules : ∀ policy, p.policy? = some policy → ∀ x, x ∈ policy.rules ∧ x.marked = false ↔
    x ∈ built.policy.rules ∧ m.rules.Lacks uid x
  groups : ∀ g, g ∈ p.groups ∧ g.marked = false ↔ g ∈ built.groups ∧ m.groups.Lacks uid g

namespace Change

variable {b : Builder} {m : Inventory} {uid : String} {built : Built} {c : Change}

/-- Planned changes list removals first. -/
theorem Planned.removalsFirst (h : Planned b m c) (hm : m.Coherent) :
    RemovalsFirst c.rules ∧ RemovalsFirst c.groups := by
  cases h with
  | @update r built _ hb hc =>
    have hbelongs := Builder.belongs_of_build hb
    obtain ⟨hrules, hgroups⟩ := writes_of_toBuilt hc
    rw [hrules, hgroups]
    exact ⟨removalsFirst_writes (hm.rules.nodup_ownedBy _) hbelongs.rules,
      removalsFirst_writes (hm.groups.nodup_ownedBy _) hbelongs.groups⟩
  | @removal r built hb =>
    have hbelongs := Builder.belongs_of_build hb
    exact ⟨removalsFirst_removals
        (nodup_withStored hbelongs.rules.distinct (hm.rules.nodup_ownedBy _)),
      removalsFirst_removals
        (nodup_withStored hbelongs.groups.distinct (hm.groups.nodup_ownedBy _))⟩
  | @owner uid _ hc =>
    obtain ⟨policy, -, rfl⟩ := Option.map_eq_some_iff.1 hc
    exact ⟨removalsFirst_removals (hm.rules.nodup_ownedBy uid),
      removalsFirst_removals (hm.groups.nodup_ownedBy uid)⟩

/-- The request of a planned change is well formed. -/
theorem Planned.wellFormed (h : Planned b m c) (hm : m.Coherent) (domain : String) :
    (c.patch domain).WellFormed domain c.groups { c.policy with rules := c.rules } :=
  Patch.wellFormed_wrap (h.removalsFirst hm).2 (h.removalsFirst hm).1

/-- The patch to what is built writes what is new, and nothing else. -/
theorem writesNew_of_toBuilt (hm : m.Coherent) (hb : built.Belongs uid)
    (hc : toBuilt m uid built = some c) (domain : String) :
    (c.patch domain).WritesNew m uid built := by
  obtain ⟨hrules, hgroups⟩ := writes_of_toBuilt hc
  constructor
  · intro policy hpolicy x
    obtain rfl : { c.policy with rules := c.rules } = policy :=
      Option.some.inj ((Patch.policy?_wrap ..).symm.trans hpolicy)
    rw [hrules]
    exact hm.rules.mem_writes_iff hb.rules
  · intro g
    rw [patch, Patch.groups_wrap, hgroups]
    exact hm.groups.mem_writes_iff hb.groups

end Change

/-! ## Runs -/

namespace Builder

variable {b : Builder} {a : Arrivals} {w v : World}

/-- A call that, if it is a request, is a well-formed one. -/
def SendsWellFormed (b : Builder) (call : Call) : Prop :=
  ∀ enforceRevision p, call = .patchInfra enforceRevision p →
    ∃ gs policy, p.WellFormed b.domain gs policy

/-- A step sends nothing but well-formed requests. -/
theorem Step.wellFormed (h : b.Step w v) (hw : w.inventory.Coherent) :
    ∃ call, v.calls = w.calls ++ [call] ∧ b.SendsWellFormed call := by
  have hplanned : ∀ {c}, Change.Planned b w.inventory c →
      b.SendsWellFormed (.patchInfra false (c.patch b.domain)) := by
    rintro c hc _ p hp
    obtain ⟨-, rfl⟩ := Call.patchInfra.inj hp
    exact ⟨_, _, hc.wellFormed hw b.domain⟩
  cases h with
  | accepted hc _ => exact ⟨_, rfl, hplanned hc⟩
  | refused hc _ => exact ⟨_, rfl, hplanned hc⟩
  | groupAccepted | groupRefused | listed => exact ⟨_, rfl, nofun⟩

/-- So do any number of steps. -/
theorem Steps.wellFormed (h : b.Steps w v) (hw : w.inventory.Coherent) :
    ∃ cs, v.calls = w.calls ++ cs ∧ ∀ call ∈ cs, b.SendsWellFormed call :=
  (h.exists_calls (P := fun w => w.inventory.Coherent)
    (fun hs hw => ⟨hs.coherent hw, hs.wellFormed hw⟩) hw).2

/-- What an operation sends is well formed when it comes about by steps. -/
theorem wellFormed_of_steps {α : Type} {op : Operation α} (h : b.Steps w (op.after w))
    (hw : w.inventory.Coherent) {enforceRevision : Bool} {p : Patch}
    (hp : .patchInfra enforceRevision p ∈ op.sent w) :
    ∃ gs policy, p.WellFormed b.domain gs policy := by
  obtain ⟨cs, hcalls, hall⟩ := h.wellFormed hw
  rw [sent, hcalls, List.drop_left] at hp
  exact hall _ hp _ _ rfl

/-- A collection sends well-formed requests, whatever comes into the inventory meanwhile. -/
theorem wellFormed_of_collect (hw : w.inventory.Coherent) {answer : LiveAnswer}
    {enforceRevision : Bool} {p : Patch}
    (hp : .patchInfra enforceRevision p ∈ (b.collect answer).sent w) :
    ∃ gs policy, p.WellFormed b.domain gs policy := by
  rw [sent, after, exec_collect] at hp
  cases hlive : answer.uids with
  | error fault =>
    rw [hlive] at hp
    simp at hp
  | ok live =>
    rw [hlive] at hp
    obtain ⟨cs, hcalls, hall⟩ := (b.sweep_steps (w.inventory.owners.difference live)
      ((w.called .listLive).stocked (w.inventory.putAll answer.arrived))).wellFormed
        (hw.putAll answer.arrived)
    rw [after] at hcalls
    simp only [hcalls, World.calls_stocked, World.calls_called, List.append_assoc, List.drop_left,
      List.mem_append, List.mem_singleton, reduceCtorEq, false_or] at hp
    exact hall _ hp _ _ rfl

/-- **Requests.** From any inventory that is reached, whatever an update, a removal or a collection
sends is well formed, in the builder's domain. An update writes the built rules and groups of which
the owner has no equal, and beyond these it only removes. -/
theorem requests_wellFormed (hw : b.Reaches a w.inventory) (enforceRevision : Bool) (p : Patch) :
    (∀ r, .patchInfra enforceRevision p ∈ (b.update r).sent w →
      (∃ gs policy, p.WellFormed b.domain gs policy) ∧
        ∃ uid built, r.metadata.uid = some uid ∧ b.build r = .ok built ∧
          p.WritesNew w.inventory uid built) ∧
      (∀ r, .patchInfra enforceRevision p ∈ (b.remove r).sent w →
        ∃ gs policy, p.WellFormed b.domain gs policy) ∧
      (∀ uid, .patchInfra enforceRevision p ∈ (b.removeOwner uid).sent w →
        ∃ gs policy, p.WellFormed b.domain gs policy) ∧
      ∀ answer, .patchInfra enforceRevision p ∈ (b.collect answer).sent w →
        ∃ gs policy, p.WellFormed b.domain gs policy := by
  refine ⟨fun r hp => ⟨wellFormed_of_steps (b.update_steps r w) hw.coherent hp, ?_⟩,
    fun r hp => wellFormed_of_steps (b.remove_steps r w) hw.coherent hp,
    fun uid hp => wellFormed_of_steps (b.removeOwner_steps uid w) hw.coherent hp,
    fun answer hp => wellFormed_of_collect hw.coherent hp⟩
  obtain ⟨built, c, hb, hc, hcall⟩ := mem_sent_update hp
  obtain ⟨-, rfl⟩ := Call.patchInfra.inj hcall
  exact ⟨_, built, uid_of_build hb, hb,
    Change.writesNew_of_toBuilt hw.coherent (belongs_of_build hb) hc b.domain⟩

/-- A rule and a group were listed that their resource does not have any more, and a policy with a
group whose resource is gone. The update of the first resource asks for the removal of what is left
over before it writes what is new, and the collection asks for the removal of the policy and its
group. -/
theorem requests_wellFormed_with_leftover :
    let b : Builder := ⟨"k", "default"⟩
    let r : Resource := {
      metadata := { name := some "web", ownNamespace := some "shop", uid := some "u" }
      spec := { appliedTo := [{ pods := some .empty }], rules := [{}] } }
    let ownedBy (uid : String) : List Tag := [⟨Tag.ownerScope, uid⟩]
    let a : Arrivals := {
      policies := { objects := [{ id := "sp_v", tags := ownedBy "v" }] }
      rules := { objects := [{ id := "sp_u_1", tags := ownedBy "u" }] }
      groups := { objects := [{ id := "sp_u_1_src", tags := ownedBy "u" },
        { id := "sp_v_scope", tags := ownedBy "v" }] } }
    let w : World := { inventory := (a.sync .empty).1 }
    b.Reaches a w.inventory ∧
      (∃ p gs policy, .patchInfra false p ∈ (b.update r).sent w ∧
        p.WellFormed "default" gs policy ∧
        gs.map (fun g => (g.id, g.marked)) = [("sp_u_1_src", true), ("sp_u_scope", false)] ∧
        policy.rules.map (fun x => (x.id, x.marked)) = [("sp_u_1", true), ("sp_u_0", false)]) ∧
      ∃ p gs policy, .patchInfra false p ∈ (b.collect { uids := .ok (.ofList ["u"]) }).sent w ∧
        p.WellFormed "default" gs policy ∧ policy.marked = true ∧
        gs.map (fun g => (g.id, g.marked)) = [("sp_v_scope", true)] := by
  intro b r ownedBy a w
  have hw : b.Reaches a w.inventory := .filled rfl
  obtain ⟨p, hp, hgroups, hrules⟩ : ∃ p, (b.update r).sent w = [.patchInfra false p] ∧
      p.groups.map (fun g => (g.id, g.marked)) = [("sp_u_1_src", true), ("sp_u_scope", false)] ∧
      p.policy?.map (fun q => q.rules.map fun x => (x.id, x.marked)) =
        some [("sp_u_1", true), ("sp_u_0", false)] := ⟨_, rfl, by decide, by decide⟩
  let gone : Policy := { id := "sp_v", tags := ownedBy "v", marked := true }
  let scope : Group := { id := "sp_v_scope", tags := ownedBy "v", marked := true }
  let q : Patch := .wrap "default" gone [scope]
  have hq : (b.collect { uids := .ok (.ofList ["u"]) }).sent w =
      [.listLive, .patchInfra false q] := by decide +kernel
  have hpmem : .patchInfra false p ∈ (b.update r).sent w := hp ▸ List.mem_singleton_self _
  have hqmem : .patchInfra false q ∈ (b.collect { uids := .ok (.ofList ["u"]) }).sent w :=
    hq ▸ List.mem_cons_of_mem _ List.mem_cons_self
  obtain ⟨⟨gs, policy, hform⟩, -⟩ := (requests_wellFormed hw false p).1 r hpmem
  obtain ⟨gs', policy', hform'⟩ := (requests_wellFormed hw false q).2.2.2 _ hqmem
  rw [hform.groups_found] at hgroups
  rw [hform.policy_found] at hrules
  obtain rfl : gone = policy' := Option.some.inj hform'.policy_found
  obtain rfl := hform'.groups_found
  exact ⟨hw, ⟨p, gs, policy, hpmem, hform, hgroups, Option.some.inj hrules⟩,
    q, _, gone, hqmem, hform', rfl, rfl⟩

end Builder

end FirewallOperator
