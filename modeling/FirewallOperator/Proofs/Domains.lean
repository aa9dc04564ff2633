import FirewallOperator.Proofs.References
import FirewallOperator.Proofs.Removals
import FirewallOperator.Proofs.Restarts

/-! # Another domain

Policies and rules name groups by paths, which start with the domain; the groups themselves do not
mention it. A service that is started again with another domain is told of the objects in the old
one, and the listings do not say so. It finds the policy and the rules changed, by their paths, and
all groups as they should be. `Builder.update_after_domain_change` says what follows: the request
that it sends carries no group at all, so every path in it that names a group names one that is not
in the new domain. -/

namespace FirewallOperator

open Operation

/-! ## Groups do not depend on the domain -/

/-- The origin with another domain. -/
def Origin.inDomain (o : Origin) (domain : String) : Origin := { o with domain }

namespace Origin

variable {o : Origin} {domain : String}

/-- A rule that is built in one domain is built in any other, with the same groups. -/
theorem rule_inDomain {inherits : Bool} {index : Nat} {r : RuleSpec} {p : Rule × List Group}
    (h : o.rule inherits index r = .ok p) (domain : String) :
    ∃ q, (o.inDomain domain).rule inherits index r = .ok q ∧ q.2 = p.2 := by
  simp only [rule, bind_eq_ok, pure_eq_ok] at h ⊢
  obtain ⟨scope, hscope, sources, hsources, destinations, hdestinations, services, hservices, rfl⟩ :=
    h
  exact ⟨_, ⟨scope, hscope, sources, hsources, destinations, hdestinations, services, hservices,
    rfl⟩, rfl⟩

/-- So is a row of rules. -/
theorem rules_inDomain {inherits : Bool} {qs : List (RuleSpec × Nat)}
    {rules : List (Rule × List Group)}
    (h : List.Forall₂ (fun q p => o.rule inherits q.2 q.1 = .ok p) qs rules) (domain : String) :
    ∃ rules', List.Forall₂ (fun q p => (o.inDomain domain).rule inherits q.2 q.1 = .ok p) qs rules' ∧
      rules'.map Prod.snd = rules.map Prod.snd := by
  induction h with
  | nil => exact ⟨[], .nil, rfl⟩
  | cons hp _ ih =>
    obtain ⟨q, hq, hgroups⟩ := rule_inDomain hp domain
    obtain ⟨rules', hrules', hmap⟩ := ih
    exact ⟨q :: rules', .cons hq hrules', by rw [List.map_cons, List.map_cons, hgroups, hmap]⟩

/-- So is a spec. -/
theorem objects_inDomain {s : Spec} {built : Built} (h : o.objects s = .ok built)
    (domain : String) :
    ∃ other, (o.inDomain domain).objects s = .ok other ∧ other.groups = built.groups := by
  rw [objects] at h ⊢
  cases happlied : s.appliedTo with
  | nil =>
    simp only [happlied, List.isEmpty_nil, if_true, bind_eq_ok, pure_eq_ok, mapM_eq_ok] at h ⊢
    obtain ⟨_, rfl, rules, hrules, rfl⟩ := h
    obtain ⟨rules', hrules', hgroups⟩ := rules_inDomain hrules domain
    refine ⟨_, ⟨none, rfl, rules', hrules', rfl⟩, ?_⟩
    simp only [List.flatMap_def, hgroups]
  | cons t rest =>
    simp only [happlied, List.isEmpty_cons, Bool.false_eq_true, if_false, bind_eq_ok, pure_eq_ok,
      mapM_eq_ok, map_eq_ok] at h ⊢
    obtain ⟨scope, ⟨g, hg, rfl⟩, rules, hrules, rfl⟩ := h
    obtain ⟨rules', hrules', hgroups⟩ := rules_inDomain hrules domain
    refine ⟨_, ⟨some g, ⟨g, hg, rfl⟩, rules', hrules', rfl⟩, ?_⟩
    simp only [List.flatMap_def, hgroups]

end Origin

namespace Builder

variable {b₁ b₂ : Builder} {r : Resource} {first : Built}

/-- An origin is the same for two builders of one cluster, but for the domain. -/
theorem origin_inDomain (hcluster : b₁.cluster = b₂.cluster) {m : Metadata} {o : Origin}
    (h : b₁.origin m = .ok o) : b₂.origin m = .ok (o.inDomain b₂.domain) := by
  rw [origin] at h ⊢
  cases huid : m.uid with
  | none => rw [huid] at h; cases h
  | some uid =>
    simp only [huid] at h ⊢
    by_cases hname : (m.name.getD "").isEmpty = true
    · rw [if_pos hname] at h
      cases h
    · rw [if_neg hname] at h ⊢
      cases hns : m.ownNamespace with
      | none => rw [hns] at h; cases h
      | some ownNamespace =>
        simp only [hns] at h ⊢
        cases h
        rw [hcluster]
        rfl

/-- What is built in one domain of a cluster is built in any other, with the same groups. -/
theorem build_inDomain (hcluster : b₁.cluster = b₂.cluster) (h : b₁.build r = .ok first) :
    ∃ second, b₂.build r = .ok second ∧ second.groups = first.groups := by
  obtain ⟨o, ho, hbuilt⟩ := build_eq_ok h
  obtain ⟨second, hsecond, hgroups⟩ := Origin.objects_inDomain hbuilt b₂.domain
  have hobjects : b₂.objects r = .ok second := by
    rw [objects, origin_inDomain hcluster ho]
    exact hsecond
  refine ⟨second, ?_, hgroups⟩
  rw [build, hobjects]
  rfl

end Builder

/-! ## What is found in the other domain -/

section Settled

variable {α : Type} [Managed α] {existing wanted : List α}

/-- There is nothing to write for objects that are as wanted. -/
theorem Settled.writes_eq_nil (h : Settled existing wanted)
    (he : (existing.map Managed.id).Nodup) (hw : (wanted.map Managed.id).Nodup) :
    (Difference.between existing wanted).writes = [] := by
  have hempty := (Difference.isEmpty_between_iff he hw).2 h
  rw [Difference.isEmpty, Bool.and_eq_true, List.isEmpty_iff, List.isEmpty_iff] at hempty
  rw [Difference.writes, hempty.1, hempty.2, Difference.removals_nil, List.append_nil]

end Settled

variable {m : Inventory} {uid : String} {first second : Built}

/-- An inventory that has what was built in one domain has what is built in the other exactly when
policy and rules compare as equal. -/
theorem Inventory.Realizes.iff_of_groups (h : m.Realizes uid first)
    (hgroups : second.groups = first.groups) :
    m.Realizes uid second ↔ fingerprint first.policy = fingerprint second.policy ∧
      Settled first.policy.rules second.policy.rules := by
  have hsame : Settled first.groups second.groups := by
    rw [hgroups]
    exact List.Perm.refl _
  rw [h.iff_settled, and_iff_left hsame]

/-- A request for what is built in the other domain carries no groups. -/
theorem Change.groups_of_toBuilt (hm : m.Coherent) (h : m.Realizes uid first)
    (hgroups : second.groups = first.groups) (hsecond : second.Belongs uid) {c : Change}
    (hc : toBuilt m uid second = some c) : c.groups = [] := by
  have hsettled : Settled (m.groups.ownedBy uid) second.groups := hgroups ▸ h.groups
  rw [(writes_of_toBuilt hc).2]
  exact hsettled.writes_eq_nil (hm.groups.nodup_ownedBy uid) hsecond.groups.distinct

/-! ## Paths that a request leaves open -/

/-- What is built names a path, in the policy or in a rule. -/
def Built.Names (built : Built) (path : String) : Prop :=
  path ∈ built.policy.scope ∨ ∃ x ∈ built.policy.rules, path ∈ x.paths

/-- A request carries the group that has a path, without a mark. -/
def Patch.Provides (p : Patch) (domain path : String) : Prop :=
  ∃ g, .group false g ∈ p.children ∧ g.marked = false ∧ g.path domain = path

/-- A request without groups provides what is named exactly when no group is built. -/
theorem Patch.provides_iff {built : Built} {domain : String} (hb : built.Closed domain)
    (policy : Policy) :
    (∀ path, built.Names path → path ≠ anyPath →
        (Patch.wrap domain policy []).Provides domain path) ↔ built.groups = [] := by
  have hnone : ∀ path, ¬ (Patch.wrap domain policy []).Provides domain path := by
    rintro path ⟨g, hg, -⟩
    exact List.not_mem_nil (Patch.group_mem_wrap.1 hg).1
  constructor
  · intro h
    rw [List.eq_nil_iff_forall_not_mem]
    intro g hg
    exact hnone _ (h (g.path domain) (hb.groups g hg) (groupPath_ne_anyPath domain g.id))
  · rintro hnil path (hpath | ⟨x, hx, hpath⟩) hany
    · rcases hb.policy path hpath with hpath | ⟨g, hg, -⟩
      · exact absurd hpath hany
      · exact absurd (hnil ▸ hg) List.not_mem_nil
    · rcases hb.rules x hx path hpath with hpath | ⟨g, hg, -⟩
      · exact absurd hpath hany
      · exact absurd (hnil ▸ hg) List.not_mem_nil

namespace Builder

variable {b₁ b₂ : Builder} {r : Resource} {history : List Job} {a : Arrivals} {w v : World}

/-- What the second service sends is one request without groups, and nothing when the policy and the
rules of both domains compare as equal. -/
theorem sent_after_domain_change (hcluster : b₁.cluster = b₂.cluster)
    (hhistory : ∀ gs, .updateGroups gs ∉ history) (answers : List (Option Fault))
    (hw : (b₁.update r).exec (b₁.serveAll history { writes := answers }) = (.ok (), w))
    (ha : a.Relists w.inventory) (hv : v.inventory = (a.sync .empty).1) :
    ∃ first second, b₁.build r = .ok first ∧ b₂.build r = .ok second ∧
      ((b₂.update r).sent v = [] ↔ fingerprint first.policy = fingerprint second.policy ∧
        Settled first.policy.rules second.policy.rules) ∧
      ∀ call ∈ (b₂.update r).sent v, ∃ policy,
        call = .patchInfra false (.wrap b₂.domain policy []) := by
  have hjobs : ∀ gs, Job.updateGroups gs ∉ history ++ [.update r] := by
    intro gs hmem
    rcases List.mem_append.1 hmem with hmem | hmem
    · exact hhistory gs hmem
    · cases List.mem_singleton.1 hmem
  have hafter : b₁.serveAll (history ++ [.update r]) { writes := answers } = w := by
    rw [serveAll_concat, serve, after, hw]
  have hbefore : (b₁.serveAll history { writes := answers }).inventory.Coherent :=
    (b₁.serveAll_steps history _).coherent Inventory.coherent_empty
  have hcoherent : w.inventory.Coherent :=
    hafter ▸ (b₁.serveAll_steps _ _).coherent Inventory.coherent_empty
  have hfrom : w.inventory.BuiltFrom b₁ Set.univ :=
    hafter ▸ serveAll_builtFrom hjobs (fun _ _ => trivial) Inventory.builtFrom_empty
  obtain ⟨first, hfirst, hrealizes⟩ := realizes_of_update hbefore hw
  obtain ⟨second, hsecond, hgroups⟩ := build_inDomain hcluster hfirst
  have hbelongs := belongs_of_build hsecond
  -- what is planned on the listings is what would be planned without them, but for the order of tags
  have hresembles := Change.toBuilt_resembles (hfrom.resembles_sync hcoherent ha)
    (r.metadata.uid.getD "") second
  have hunchanged := (Change.toBuilt_eq_none_iff hcoherent hbelongs).trans
    (hrealizes.iff_of_groups hgroups)
  refine ⟨first, second, hfirst, hsecond, ?_⟩
  rw [sent_update, Change.forUpdate_of_build hsecond, hv, ← hunchanged]
  have hnone := fun c => Change.groups_of_toBuilt (c := c) hcoherent hrealizes hgroups hbelongs
  generalize Change.toBuilt w.inventory (r.metadata.uid.getD "") second = planned,
    Change.toBuilt (a.sync .empty).1 (r.metadata.uid.getD "") second = planned' at hresembles hnone ⊢
  cases hresembles with
  | none => simp
  | @some c d hcd =>
    have hd : d.groups = [] := by
      have hall := hcd.groups
      rw [hnone c rfl] at hall
      exact List.forall₂_nil_left_iff.1 hall
    refine ⟨by simp, fun call hcall => ?_⟩
    rw [List.mem_singleton.1 hcall, Change.patch, hd]
    exact ⟨_, rfl⟩

/-- **Domains.** A service starts without objects, does jobs about resources, whatever the backend
answers, and then realizes a resource. Another service of the same cluster, in any domain, is filled
from listings of what the first one then has. When it is to realize the resource too, it sends
nothing exactly when the policy and the rules of both domains compare as equal. What it sends is one
request in its own domain without any groups, and this provides the groups that the policy and the
rules name exactly when the resource is built without groups. -/
theorem update_after_domain_change (hcluster : b₁.cluster = b₂.cluster)
    (hhistory : ∀ gs, .updateGroups gs ∉ history) (answers : List (Option Fault))
    (hw : (b₁.update r).exec (b₁.serveAll history { writes := answers }) = (.ok (), w))
    (ha : a.Relists w.inventory) (hv : v.inventory = (a.sync .empty).1) :
    ∃ first second, b₁.build r = .ok first ∧ b₂.build r = .ok second ∧
      ((b₂.update r).sent v = [] ↔ fingerprint first.policy = fingerprint second.policy ∧
        Settled first.policy.rules second.policy.rules) ∧
      ∀ call ∈ (b₂.update r).sent v, ∃ policy,
        call = .patchInfra false (.wrap b₂.domain policy []) ∧
        ((∀ path, second.Names path → path ≠ anyPath →
            (Patch.wrap b₂.domain policy []).Provides b₂.domain path) ↔ second.groups = []) := by
  obtain ⟨first, second, hfirst, hsecond, hnothing, hsent⟩ :=
    sent_after_domain_change hcluster hhistory answers hw ha hv
  refine ⟨first, second, hfirst, hsecond, hnothing, fun call hcall => ?_⟩
  obtain ⟨policy, hpolicy⟩ := hsent call hcall
  exact ⟨policy, hpolicy, Patch.provides_iff (closed_of_build hsecond) policy⟩

/-- A policy for all pods of its namespace, with one rule: no request of the second service carries
the group that the policy names. -/
theorem update_after_domain_change_scoped :
    let b₁ : Builder := ⟨"k", "default"⟩
    let b₂ : Builder := ⟨"k", "other"⟩
    let r : Resource := {
      metadata := { name := some "web", ownNamespace := some "shop", uid := some "u" }
      spec := { appliedTo := [{ pods := some .empty }], rules := [{}] } }
    let w := (b₁.update r).after {}
    let a : Arrivals := {
      policies := { objects := w.inventory.policies.objects.values }
      rules := { objects := w.inventory.rules.objects.values }
      groups := { objects := w.inventory.groups.objects.values } }
    let v : World := { inventory := (a.sync .empty).1 }
    (b₁.update r).exec {} = (.ok (), w) ∧ a.Relists w.inventory ∧
      ∀ call ∈ (b₂.update r).sent v, ∃ policy,
        call = .patchInfra false (.wrap "other" policy []) := by
  intro b₁ b₂ r w a v
  have hw : (b₁.update r).exec {} = (.ok (), w) := rfl
  have ha : a.Relists w.inventory := ⟨rfl, by decide, by decide, by decide⟩
  have hcluster : b₁.cluster = b₂.cluster := rfl
  have hhistory : ∀ gs, Job.updateGroups gs ∉ [] := fun gs => List.not_mem_nil
  have hv : v.inventory = (a.sync .empty).1 := rfl
  obtain ⟨first, second, -, -, -, hsent⟩ :=
    update_after_domain_change hcluster hhistory [] hw ha hv
  refine ⟨hw, ha, fun call hcall => ?_⟩
  obtain ⟨policy, hpolicy, -⟩ := hsent call hcall
  exact ⟨policy, hpolicy⟩

/-- A policy without rules: the second service does send a request, and it does not carry the group
that the policy names in the new domain. -/
theorem update_after_domain_change_dangling :
    let b₁ : Builder := ⟨"k", "default"⟩
    let b₂ : Builder := ⟨"k", "other"⟩
    let r : Resource := {
      metadata := { name := some "web", ownNamespace := some "shop", uid := some "u" }
      spec := { appliedTo := [{ pods := some .empty }] } }
    let w := (b₁.update r).after {}
    let a : Arrivals := {
      policies := { objects := w.inventory.policies.objects.values }
      rules := { objects := w.inventory.rules.objects.values }
      groups := { objects := w.inventory.groups.objects.values } }
    let v : World := { inventory := (a.sync .empty).1 }
    let path := "/infra/domains/other/groups/sp_u_scope"
    (b₁.update r).exec {} = (.ok (), w) ∧ a.Relists w.inventory ∧
      (∃ built, b₂.build r = .ok built ∧ path ∈ built.policy.scope) ∧
      ∃ p, .patchInfra false p ∈ (b₂.update r).sent v ∧ ¬ p.Provides b₂.domain path := by
  intro b₁ b₂ r w a v path
  have hw : (b₁.update r).exec {} = (.ok (), w) := rfl
  have ha : a.Relists w.inventory := ⟨rfl, by decide, by decide, by decide⟩
  have hcluster : b₁.cluster = b₂.cluster := rfl
  have hhistory : ∀ gs, Job.updateGroups gs ∉ [] := fun gs => List.not_mem_nil
  have hv : v.inventory = (a.sync .empty).1 := rfl
  obtain ⟨first, second, hfirst, hsecond, hnothing, hsent⟩ :=
    sent_after_domain_change hcluster hhistory [] hw ha hv
  -- one digest at a time, since the evaluation of both at once takes twice the memory
  have hfirstPrint : (b₁.build r).toOption.map (fun built => fingerprint built.policy) =
      some "ccb360499cf8529e" := by
    decide +kernel
  have hsecondPrint : (b₂.build r).toOption.map (fun built => fingerprint built.policy) =
      some "24f2c343c8402c17" := by
    decide +kernel
  have hdiffer : fingerprint first.policy ≠ fingerprint second.policy := by
    rw [hfirst] at hfirstPrint
    rw [hsecond] at hsecondPrint
    have hone : fingerprint first.policy = "ccb360499cf8529e" := Option.some.inj hfirstPrint
    have htwo : fingerprint second.policy = "24f2c343c8402c17" := Option.some.inj hsecondPrint
    rw [hone, htwo]
    decide
  obtain ⟨call, hcall⟩ := List.exists_mem_of_ne_nil _ fun hnil => hdiffer (hnothing.1 hnil).1
  obtain ⟨policy, rfl⟩ := hsent call hcall
  refine ⟨hw, ha, ⟨_, rfl, List.mem_cons_self⟩, _, hcall, ?_⟩
  rintro ⟨g, hg, -⟩
  exact List.not_mem_nil (Patch.group_mem_wrap.1 hg).1

end Builder

end FirewallOperator
