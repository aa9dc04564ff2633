import FirewallOperator.Proofs.Provenance

/-! # References between stored objects

Policies and rules refer to groups by their paths. What is built refers to its groups in their order
(`Origin.paths_of_objects`), so it is closed under these references: each path is that of a built
group or stands for every endpoint, and each built group is referred to
(`Builder.closed_of_build`). The three kinds are compared and written apart from each other, so it
is not plain that what is stored stays closed. `Builder.serveAll_closed` shows that it does, for any
jobs about resources and whatever the backend refuses: what is stored of a uid says, object by
object, what one resource was built into. -/

namespace FirewallOperator

open Operation

/-! ## References of built objects -/

/-- The paths that a rule refers to. -/
def Rule.paths (x : Rule) : List String := x.scope ++ x.sources ++ x.destinations

/-- The lists of paths by which a policy and its rules refer to groups. -/
def Built.references (built : Built) : List (List String) :=
  built.policy.scope :: built.policy.rules.flatMap fun x => [x.scope, x.sources, x.destinations]

/-- The paths of the lists are those of the policy and of its rules. -/
theorem Built.flatten_references (built : Built) :
    built.references.flatten = built.policy.scope ++ built.policy.rules.flatMap Rule.paths := by
  have hrules : ∀ rules : List Rule,
      (rules.flatMap fun x => [x.scope, x.sources, x.destinations]).flatten =
        rules.flatMap Rule.paths := by
    intro rules
    induction rules with
    | nil => rfl
    | cons x rest ih => simp [ih, Rule.paths]
  rw [references, List.flatten_cons, hrules]

/-- Built objects refer to built groups, and to all of them. -/
structure Built.Closed (built : Built) (domain : String) : Prop where
  policy : ∀ path ∈ built.policy.scope, path = anyPath ∨ ∃ g ∈ built.groups, path = g.path domain
  rules : ∀ x ∈ built.policy.rules, ∀ path ∈ x.paths,
    path = anyPath ∨ ∃ g ∈ built.groups, path = g.path domain
  groups : ∀ g ∈ built.groups,
    g.path domain ∈ built.policy.scope ∨ ∃ x ∈ built.policy.rules, g.path domain ∈ x.paths

namespace Origin

variable {o : Origin}

/-- The path of a group that there may be, unless it stands for every endpoint. -/
theorem filter_pathOf (o : Origin) (g : Option Group) :
    [o.pathOf g].filter (· ≠ anyPath) = g.toList.map (·.path o.domain) := by
  cases g with
  | none => rfl
  | some g => exact List.filter_cons_of_pos (decide_eq_true (groupPath_ne_anyPath o.domain g.id))

/-- No path of a group is the one that stands for anything. -/
theorem filter_paths (domain : String) (gs : List Group) :
    (gs.map (·.path domain)).filter (· ≠ anyPath) = gs.map (·.path domain) := by
  rw [List.filter_eq_self]
  intro path hpath
  obtain ⟨g, -, rfl⟩ := List.mem_map.1 hpath
  exact decide_eq_true (groupPath_ne_anyPath domain g.id)

/-- A rule refers to its groups, in their order. -/
theorem paths_of_rule {inherits : Bool} {index : Nat} {r : RuleSpec} {p : Rule × List Group}
    (h : o.rule inherits index r = .ok p) :
    p.1.paths.filter (· ≠ anyPath) = p.2.map (·.path o.domain) := by
  obtain ⟨scope, sources, destinations, services, -, -, -, -, rfl⟩ := rule_eq_ok h
  rw [Rule.paths, ruleOf, List.filter_append, List.filter_append, filter_pathOf, filter_pathOf,
    filter_pathOf, List.map_append, List.map_append]

/-- Policy and rules refer to the built groups, in their order. -/
theorem paths_of_objects {s : Spec} {built : Built} (h : o.objects s = .ok built) :
    built.references.flatten.filter (· ≠ anyPath) = built.groups.map (·.path o.domain) := by
  obtain ⟨scope, rules, -, hrules, rfl⟩ := objects_eq_ok h
  have hrule : ∀ p ∈ rules, p.1.paths.filter (· ≠ anyPath) = p.2.map (·.path o.domain) := by
    intro p hp
    obtain ⟨q, -, hq⟩ := exists_of_mem_right hrules hp
    exact paths_of_rule hq
  rw [Built.flatten_references, builtOf, List.filter_append, filter_paths, List.filter_flatMap,
    List.flatMap_map, List.flatMap_congr hrule, List.map_append, List.map_flatMap]

/-- A path other than that for every endpoint is referred to exactly when it is that of a group. -/
theorem mem_references_iff {s : Spec} {built : Built} (h : o.objects s = .ok built)
    {path : String} : path ∈ built.references.flatten ∧ path ≠ anyPath ↔
      ∃ g ∈ built.groups, g.path o.domain = path := by
  have hmem : path ∈ built.references.flatten.filter (· ≠ anyPath) ↔
      path ∈ built.groups.map (·.path o.domain) := by rw [paths_of_objects h]
  rwa [List.mem_filter, decide_eq_true_iff, List.mem_map] at hmem

/-- What is built of a specification refers to its own groups only. -/
theorem closed_of_objects {s : Spec} {built : Built} (h : o.objects s = .ok built) :
    built.Closed o.domain := by
  have hresolved : ∀ path ∈ built.references.flatten,
      path = anyPath ∨ ∃ g ∈ built.groups, path = g.path o.domain := by
    intro path hpath
    by_cases hany : path = anyPath
    · exact .inl hany
    · obtain ⟨g, hg, hgp⟩ := (mem_references_iff h).1 ⟨hpath, hany⟩
      exact .inr ⟨g, hg, hgp.symm⟩
  have hreferred : ∀ g ∈ built.groups, g.path o.domain ∈ built.references.flatten :=
    fun g hg => ((mem_references_iff h).2 ⟨g, hg, rfl⟩).1
  simp only [Built.flatten_references, List.mem_append, List.mem_flatMap] at hresolved hreferred
  exact {
    policy := fun path hpath => hresolved path (.inl hpath)
    rules := fun x hx path hpath => hresolved path (.inr ⟨x, hx, hpath⟩)
    groups := hreferred }

end Origin

/-- What a resource is built into is closed. -/
theorem Builder.closed_of_build {b : Builder} {r : Resource} {built : Built}
    (h : b.build r = .ok built) : built.Closed b.domain := by
  obtain ⟨o, ho, hbuilt⟩ := build_eq_ok h
  rw [← (origin_eq_ok ho).2.2]
  exact Origin.closed_of_objects hbuilt

/-! ## References of stored objects -/

/-- An object is stored, and names an owner. -/
def Store.Has {α : Type} [Managed α] (s : Store α) (uid : String) (x : α) : Prop :=
  (∃ id, s.get? id = some x) ∧ owner? x = some uid

/-- A coherent store has an object of a uid exactly if it lists it under the uid. -/
theorem Store.Coherent.has_iff {α : Type} [Managed α] {s : Store α} (hs : s.Coherent)
    {uid : String} {x : α} : s.Has uid x ↔ x ∈ s.ownedBy uid := by
  rw [Store.Has, hs.exists_get?_iff, hs.mem_ownedBy]

/-- What is stored of a uid refers to stored groups of the uid, and to all of them. -/
structure Inventory.Closed (m : Inventory) (domain uid : String) : Prop where
  /-- A stored policy refers to stored groups. -/
  policy : ∀ p, m.policies.Has uid p → ∀ path ∈ p.scope,
    path = anyPath ∨ ∃ g, m.groups.Has uid g ∧ path = g.path domain
  /-- A stored rule refers to stored groups. -/
  rules : ∀ x, m.rules.Has uid x → ∀ path ∈ x.paths,
    path = anyPath ∨ ∃ g, m.groups.Has uid g ∧ path = g.path domain
  /-- A stored group is referred to. -/
  groups : ∀ g, m.groups.Has uid g → (∃ p, m.policies.Has uid p ∧ g.path domain ∈ p.scope) ∨
    ∃ x, m.rules.Has uid x ∧ g.path domain ∈ x.paths
  /-- A stored rule or group comes with the policy. -/
  carried : (∃ x, m.rules.Has uid x) ∨ (∃ g, m.groups.Has uid g) →
    ∃ p, m.policies.get? (policyId uid) = some p ∧ owner? p = some uid

/-- The digests of the policies that resources are built into differ when the policies do, and so do
those of the rules. -/
structure Builder.Distinguishes (b : Builder) (rs : Set Resource) : Prop where
  policies : Set.InjOn digest (Managed.functionText '' b.policiesOf rs)
  rules : Set.InjOn digest (Managed.functionText '' b.rulesOf rs)

namespace Inventory

variable {m : Inventory} {b : Builder} {rs : Set Resource} {r : Resource} {built : Built}
  {uid : String}

/-- Nothing refers to nothing. -/
theorem Clear.closed (h : m.Clear uid) (domain : String) : m.Closed domain uid where
  policy p hp := absurd hp.2 (hp.1.elim fun id hget => h.policies id p hget)
  rules x hx := absurd hx.2 (hx.1.elim fun id hget => h.rules id x hget)
  groups g hg := absurd hg.2 (hg.1.elim fun id hget => h.groups id g hget)
  carried := by
    rintro (⟨x, ⟨id, hget⟩, howner⟩ | ⟨g, ⟨id, hget⟩, howner⟩)
    · exact absurd howner (h.rules id x hget)
    · exact absurd howner (h.groups id g hget)

/-- When what is stored is what is wanted, each object of either has a counterpart in the other. -/
theorem counterparts {α : Type} [Managed α] {s : Store α} {wanted : List α} (hs : s.Coherent)
    (h : Settled (s.ownedBy uid) wanted) :
    (∀ x, s.Has uid x → ∃ w ∈ wanted, Managed.id x = Managed.id w ∧ fingerprint x = fingerprint w) ∧
      ∀ w ∈ wanted, ∃ x, s.Has uid x ∧ Managed.id x = Managed.id w ∧
        fingerprint x = fingerprint w := by
  constructor
  · intro x hx
    obtain ⟨w, hw, hsig⟩ :=
      List.mem_map.1 (h.mem_iff.1 (List.mem_map_of_mem (hs.has_iff.1 hx)))
    exact ⟨w, hw, congrArg Prod.fst hsig.symm, congrArg Prod.snd hsig.symm⟩
  · intro w hw
    obtain ⟨x, hx, hsig⟩ := List.mem_map.1 (h.mem_iff.2 (List.mem_map_of_mem hw))
    exact ⟨x, hs.has_iff.2 hx, congrArg Prod.fst hsig, congrArg Prod.snd hsig⟩

end Inventory

namespace Builder.Distinguishes

variable {b : Builder} {rs : Set Resource}

/-- Policies that compare as equal refer to the same groups. -/
theorem scope_eq (h : b.Distinguishes rs) {p q : Policy} (hp : p ∈ b.policiesOf rs)
    (hq : q ∈ b.policiesOf rs) (hid : p.id = q.id) (hfp : fingerprint p = fingerprint q) :
    p.scope = q.scope := by
  have htext : p.functionText = q.functionText :=
    h.policies (Set.mem_image_of_mem _ hp) (Set.mem_image_of_mem _ hq) hfp
  exact ((Policy.functionText_eq_iff hid).1 htext).scope

/-- So do rules. -/
theorem paths_eq (h : b.Distinguishes rs) {x y : Rule} (hx : x ∈ b.rulesOf rs)
    (hy : y ∈ b.rulesOf rs) (hid : x.id = y.id) (hfp : fingerprint x = fingerprint y) :
    x.paths = y.paths := by
  have htext : x.functionText = y.functionText :=
    h.rules (Set.mem_image_of_mem _ hx) (Set.mem_image_of_mem _ hy) hfp
  have hagrees := (Rule.functionText_eq_iff hid).1 htext
  rw [Rule.paths, Rule.paths, hagrees.scope, hagrees.sources, hagrees.destinations]

end Builder.Distinguishes

namespace Inventory

variable {m : Inventory} {b : Builder} {rs : Set Resource} {r : Resource} {built : Built}
  {uid : String}

/-- What is stored of a uid is closed when it is what one resource is built into. -/
theorem Realizes.closed (h : m.Realizes uid built) (hm : m.Coherent) (hfrom : m.BuiltFrom b rs)
    (hd : b.Distinguishes rs) (hr : r ∈ rs) (hb : b.build r = .ok built)
    (huid : r.metadata.uid = some uid) : m.Closed b.domain uid := by
  have hbuilt := Builder.closed_of_build hb
  obtain ⟨stored, hstored, hfp⟩ := h.policy
  obtain ⟨hrule, hrule'⟩ := counterparts hm.rules h.rules
  obtain ⟨hgroup, hgroup'⟩ := counterparts hm.groups h.groups
  have howner : owner? stored = some uid := hfrom.owner?_of_policyId hm hstored
  have hscope : stored.scope = built.policy.scope := by
    have hbelongs := Builder.belongs_of_build hb
    rw [huid, Option.getD_some] at hbelongs
    have hid : stored.id = built.policy.withoutRules.id :=
      (hm.policies.keyed hstored).trans hbelongs.policy_id.symm
    have hsame : stored.scope = built.policy.withoutRules.scope :=
      hd.scope_eq (hfrom.policies hstored) ⟨r, hr, built, hb, rfl⟩ hid hfp
    exact hsame
  have hpaths : ∀ x, m.rules.Has uid x → ∀ w ∈ built.policy.rules, x.id = w.id →
      fingerprint x = fingerprint w → x.paths = w.paths := by
    rintro x ⟨⟨id, hget⟩, -⟩ w hw hid hsame
    exact hd.paths_eq (hfrom.rules hget) ⟨r, hr, built, hb, hw⟩ hid hsame
  -- a path of a built group is the path of the stored one in its place
  have hresolved : ∀ path, (path = anyPath ∨ ∃ g ∈ built.groups, path = g.path b.domain) →
      path = anyPath ∨ ∃ g, m.groups.Has uid g ∧ path = g.path b.domain := by
    rintro path (hany | ⟨w, hw, rfl⟩)
    · exact .inl hany
    · obtain ⟨g, hg, hid, -⟩ := hgroup' w hw
      exact .inr ⟨g, hg, congrArg (groupPath b.domain) hid.symm⟩
  refine ⟨fun p hp path hpath => ?_, fun x hx path hpath => ?_, fun g hg => ?_,
    fun _ => ⟨stored, hstored, howner⟩⟩
  · have hid : Managed.id p = policyId uid :=
      hfrom.id_eq_policyId hm (hm.policies.has_iff.1 hp)
    have hget : m.policies.get? (policyId uid) = some p :=
      hid ▸ hm.policies.exists_get?_iff.1 hp.1
    obtain rfl : stored = p := Option.some.inj (hstored.symm.trans hget)
    exact hresolved path (hbuilt.policy path (hscope ▸ hpath))
  · obtain ⟨w, hw, hid, hsame⟩ := hrule x hx
    rw [hpaths x hx w hw hid hsame] at hpath
    exact hresolved path (hbuilt.rules w hw path hpath)
  · obtain ⟨w, hw, hid, -⟩ := hgroup g hg
    have hpath : g.path b.domain = w.path b.domain := congrArg (groupPath b.domain) hid
    rw [hpath]
    rcases hbuilt.groups w hw with hin | ⟨v, hv, hin⟩
    · exact .inl ⟨stored, ⟨⟨_, hstored⟩, howner⟩, hscope ▸ hin⟩
    · obtain ⟨x, hx, hxid, hsame⟩ := hrule' v hv
      exact .inr ⟨x, hx, (hpaths x hx v hv hxid hsame).symm ▸ hin⟩

/-- An inventory without mixtures is closed. -/
theorem Unmixed.closed (h : m.Unmixed b rs) (hd : b.Distinguishes rs)
    (hrs : ∀ r ∈ rs, ∀ u, r.metadata.uid = some u → '_' ∉ u.toList) (uid : String) :
    m.Closed b.domain uid := by
  by_cases hclear : m.Clear uid
  · exact hclear.closed b.domain
  · obtain ⟨r, hr, hru⟩ := h.exists_resource hclear
    rcases h.whole uid (hrs r hr uid hru) with hnone | ⟨r', hr', built, huid, hb, hrealizes⟩
    · exact absurd hnone hclear
    · exact hrealizes.closed h.coherent h.toBuiltFrom hd hr' hb huid

end Inventory

/-! ## Runs -/

namespace Builder

/-- **Closure.** A service starts without objects and does any jobs about resources with plain uids,
and the backend refuses what it likes. Then what is stored of any uid refers to stored groups of the
uid only, and to all of them, and comes with the policy. The digests of different policies and rules
that were built are taken to be different. -/
theorem serveAll_closed {b : Builder} {jobs : List Job} {w : World} (hempty : w.inventory = .empty)
    (hplain : ∀ job ∈ jobs, job.IsPlain) (hdigest : b.Distinguishes {r | .update r ∈ jobs})
    (uid : String) : (b.serveAll jobs w).inventory.Closed b.domain uid := by
  have hrs : ∀ r ∈ {r | Job.update r ∈ jobs}, ∀ u, r.metadata.uid = some u → '_' ∉ u.toList :=
    fun r hr => hplain _ hr
  have hstart : w.inventory.Unmixed b {r | .update r ∈ jobs} := hempty ▸ Inventory.unmixed_empty
  exact (serveAll_unmixed hplain hrs (fun _ hr => hr) hstart).closed hdigest hrs uid

/-- A rule names its sources. Its resource is realized, and the removal of the resource is refused:
both groups are still stored, and what refers to them. -/
theorem serveAll_closed_refused_removal :
    let b : Builder := ⟨"k", "default"⟩
    let r : Resource := {
      metadata := { name := some "web", ownNamespace := some "shop", uid := some "u" }
      spec := {
        appliedTo := [{ pods := some .empty }]
        rules := [{ sources := [{ namespaces := some .empty }] }] } }
    let jobs := [Job.update r, .remove r]
    let w : World := { writes := [none, some (.backend "patch" none "")] }
    w.inventory = .empty ∧ (∀ job ∈ jobs, job.IsPlain) ∧
      b.Distinguishes {r | .update r ∈ jobs} ∧ (b.serveAll jobs w).calls.length = 2 ∧
      ((b.serveAll jobs w).inventory.groups.ownedBy "u").map (·.id) = ["sp_u_0_src", "sp_u_scope"] ∧
      (b.serveAll jobs w).inventory.Closed b.domain "u" := by
  intro b r jobs w
  have hplain : ∀ job ∈ jobs, job.IsPlain := by
    have huid : ∀ u, r.metadata.uid = some u → '_' ∉ u.toList := by
      intro u hu
      cases hu
      decide
    exact List.forall_mem_cons.2 ⟨huid, List.forall_mem_singleton.2 huid⟩
  obtain ⟨built, hb, x, hrules⟩ : ∃ built, b.build r = .ok built ∧
      ∃ x, built.policy.rules = [x] := ⟨_, rfl, _, rfl⟩
  have honly : ∀ r' ∈ {r | Job.update r ∈ jobs}, ∀ built', b.build r' = .ok built' →
      built' = built := by
    intro r' hr' built' hb'
    rcases List.mem_cons.1 hr' with hr' | hr'
    · rw [Job.update.inj hr', hb] at hb'
      exact (Except.ok.inj hb').symm
    · cases List.mem_singleton.1 hr'
  -- there is one policy and one rule, so no two of a kind have to be told apart
  have hdigest : b.Distinguishes {r | .update r ∈ jobs} := by
    constructor
    · rintro _ ⟨p, ⟨r₁, hr₁, built₁, hb₁, rfl⟩, rfl⟩ _ ⟨q, ⟨r₂, hr₂, built₂, hb₂, rfl⟩, rfl⟩ -
      rw [honly r₁ hr₁ built₁ hb₁, honly r₂ hr₂ built₂ hb₂]
    · rintro _ ⟨y, ⟨r₁, hr₁, built₁, hb₁, hy⟩, rfl⟩ _ ⟨z, ⟨r₂, hr₂, built₂, hb₂, hz⟩, rfl⟩ -
      rw [honly r₁ hr₁ built₁ hb₁, hrules, List.mem_singleton] at hy
      rw [honly r₂ hr₂ built₂ hb₂, hrules, List.mem_singleton] at hz
      rw [hy, hz]
  exact ⟨rfl, hplain, hdigest, by decide, by decide, serveAll_closed rfl hplain hdigest "u"⟩

end Builder

end FirewallOperator
