import FirewallOperator.Proofs.Provenance
import FirewallOperator.Proofs.Sweeping

/-! # Objects of other clusters

Several clusters can share a backend. Which cluster an object belongs to is told by its tag under
the cluster's scope, and a service lists what the backend finds for the name of its own cluster. The
search asks for two things: a tag under the cluster's scope, and a tag with the cluster's name. It
does not ask that they are the same tag (`Matched`), so it also finds objects of another cluster
which have the name in another tag (`Mistaken`): objects of a resource whose namespace, name or uid
is the cluster's name (`mistaken_iff_of_origin`).

Nothing looks at the cluster's tag after the listing. `Builder.collect_spares_iff` says that a
collection removes no object of another cluster exactly when it finds no owner that is not alive
and has such objects. -/

namespace FirewallOperator

open Operation

/-! ## Tags of clusters -/

section Objects

variable {α : Type} [Managed α] {cluster : String} {x : α}

/-- An object that belongs to another cluster, by one of its tags. -/
def Foreign (cluster : String) (x : α) : Prop :=
  ∃ t ∈ Managed.tags x, t.scope = Tag.clusterScope ∧ t.value ≠ cluster

/-- What the search for the objects of a cluster (`Backend.searchQuery`) asks of an object. -/
structure Matched (cluster : String) (x : α) : Prop where
  scope : ∃ t ∈ Managed.tags x, t.scope = Tag.clusterScope
  value : ∃ t ∈ Managed.tags x, t.value = cluster

/-- An object that belongs to another cluster, and has the cluster's name in another tag. -/
structure Mistaken (cluster : String) (x : α) : Prop where
  foreign : Foreign cluster x
  named : ∃ t ∈ Managed.tags x, t.value = cluster

/-- An object stays another cluster's when it is marked. -/
theorem foreign_setMarked {b : Bool} :
    Foreign cluster (Managed.setMarked b x) ↔ Foreign cluster x := by
  rw [Foreign, Managed.tags_setMarked, Foreign]

/-- Removal requests are foreign when the objects are. -/
theorem exists_foreign_removals {xs : List α} :
    (∃ y ∈ Difference.removals xs, Foreign cluster y) ↔ ∃ x ∈ xs, Foreign cluster x := by
  simp only [Difference.removals, List.mem_map, List.mem_reverse]
  constructor
  · rintro ⟨_, ⟨x, hx, rfl⟩, hy⟩
    exact ⟨x, hx, foreign_setMarked.1 hy⟩
  · rintro ⟨x, hx, hf⟩
    exact ⟨_, ⟨x, hx, rfl⟩, foreign_setMarked.2 hf⟩

variable {o : Origin}

/-- An object with the tags of an origin is another cluster's exactly if the origin is. -/
theorem foreign_iff_of_origin (h : (Managed.tags x).Perm o.tags) :
    Foreign cluster x ↔ o.cluster ≠ cluster := by
  have hscopes : Tag.namespaceScope ≠ Tag.clusterScope ∧ Tag.nameScope ≠ Tag.clusterScope ∧
      Tag.ownerScope ≠ Tag.clusterScope := by decide
  simp only [Foreign, h.mem_iff]
  simp [Origin.tags, hscopes]

/-- What was built for a resource of another cluster is mistaken for the cluster's own when the
namespace, the name or the uid of the resource is the name of the cluster. -/
theorem mistaken_iff_of_origin (h : (Managed.tags x).Perm o.tags) :
    Mistaken cluster x ↔
      o.cluster ≠ cluster ∧ (o.ownNamespace = cluster ∨ o.name = cluster ∨ o.uid = cluster) := by
  have hnamed : (∃ t ∈ Managed.tags x, t.value = cluster) ↔ o.cluster = cluster ∨
      o.ownNamespace = cluster ∨ o.name = cluster ∨ o.uid = cluster := by
    simp [h.mem_iff, Origin.tags]
  constructor
  · rintro ⟨hforeign, hname⟩
    have hother := (foreign_iff_of_origin h).1 hforeign
    exact ⟨hother, (hnamed.1 hname).resolve_left hother⟩
  · rintro ⟨hother, hname⟩
    exact ⟨(foreign_iff_of_origin h).2 hother, hnamed.2 (.inr hname)⟩

end Objects

/-! ## Removals of foreign objects -/

/-- A patch asks for the removal of an object of another cluster. -/
inductive Patch.RemovesForeign (cluster : String) (p : Patch) : Prop
  | policy {mark : Bool} {q : Policy} (hq : .policy mark q ∈ p.children)
      (hm : mark = true ∨ q.marked = true) (hf : Foreign cluster q) : RemovesForeign cluster p
  | rule {mark : Bool} {q : Policy} {x : Rule} (hq : .policy mark q ∈ p.children)
      (hx : x ∈ q.rules) (hm : x.marked = true) (hf : Foreign cluster x) : RemovesForeign cluster p
  | group {mark : Bool} {g : Group} (hg : .group mark g ∈ p.children)
      (hm : mark = true ∨ g.marked = true) (hf : Foreign cluster g) : RemovesForeign cluster p

/-- What would be removed of an owner has an object of another cluster in it. -/
def Inventory.Mistakes (m : Inventory) (cluster owner : String) : Prop :=
  ∃ p, (m.policies.ownedBy owner).head? = some p ∧
    (Mistaken cluster p ∨ (∃ x ∈ m.rules.ownedBy owner, Mistaken cluster x) ∨
      ∃ g ∈ m.groups.ownedBy owner, Mistaken cluster g)

/-- The removal of a policy with rules and groups removes what is foreign among them. -/
theorem Change.removesForeign_removing {m : Inventory} {policy : Policy} {rules : List Rule}
    {groups : List Group} {domain cluster : String} :
    ((removing m policy rules groups).patch domain).RemovesForeign cluster ↔
      Foreign cluster policy ∨ (∃ x ∈ rules, Foreign cluster x) ∨
        ∃ g ∈ groups, Foreign cluster g := by
  constructor
  · intro h
    cases h with
    | policy hq _ hf =>
      obtain ⟨-, rfl⟩ := Patch.policy_mem_wrap.1 hq
      exact .inl hf
    | rule hq hx _ hf =>
      obtain ⟨-, rfl⟩ := Patch.policy_mem_wrap.1 hq
      exact .inr (.inl (exists_foreign_removals.1 ⟨_, hx, hf⟩))
    | group hg _ hf =>
      exact .inr (.inr (exists_foreign_removals.1 ⟨_, (Patch.group_mem_wrap.1 hg).1, hf⟩))
  · rintro (hf | hf | hf)
    · exact .policy (Patch.policy_mem_wrap.2 ⟨rfl, rfl⟩) (.inl rfl) hf
    · obtain ⟨x, hx, hf⟩ := exists_foreign_removals.2 hf
      exact .rule (Patch.policy_mem_wrap.2 ⟨rfl, rfl⟩) hx (Difference.marked_of_mem_removals hx) hf
    · obtain ⟨g, hg, hf⟩ := exists_foreign_removals.2 hf
      exact .group (Patch.group_mem_wrap.2 ⟨hg, rfl⟩) (.inr (Difference.marked_of_mem_removals hg))
        hf

/-! ## Listings for a cluster -/

/-- Listings show nothing but what the search for the cluster finds. -/
structure Arrivals.FoundFor (a : Arrivals) (cluster : String) : Prop where
  policies : ∀ p ∈ a.policies.objects, Matched cluster p
  rules : ∀ x ∈ a.rules.objects, Matched cluster x
  groups : ∀ g ∈ a.groups.objects, Matched cluster g

/-- Objects of other clusters are stored only when they have the cluster's name in a tag. -/
def Inventory.NamesForeign (m : Inventory) (cluster : String) : Prop :=
  m.Within {p | Foreign cluster p → Mistaken cluster p} {x | Foreign cluster x → Mistaken cluster x}
    {g | Foreign cluster g → Mistaken cluster g}

/-- What is stored from a listing was listed. -/
theorem Store.mem_of_putAll {α : Type} [Managed α] {xs : List α} {id : String} {x : α}
    (h : ((empty : Store α).putAll xs).get? id = some x) : x ∈ xs := by
  rw [get?_putAll_empty] at h
  exact (Difference.mem_of_lastWith h).1

/-- Listings that were found for a cluster bring in objects of others only with its name in a tag.
-/
theorem Arrivals.FoundFor.namesForeign {a : Arrivals} {cluster : String} (h : a.FoundFor cluster)
    (hsync : (a.sync .empty).2 = none) : (a.sync .empty).1.NamesForeign cluster := by
  rw [Arrivals.sync_eq_filled hsync]
  refine ⟨fun hp hf => ?_, fun hx hf => ?_, fun hg hf => ?_⟩
  · obtain ⟨q, hq, rfl⟩ := List.mem_map.1 (Store.mem_of_putAll hp)
    exact ⟨hf, (h.policies q hq).value⟩
  · exact ⟨hf, (h.rules _ (Store.mem_of_putAll hx)).value⟩
  · exact ⟨hf, (h.groups _ (Store.mem_of_putAll hg)).value⟩

namespace Builder

variable {b : Builder} {w : World}

/-- The service itself builds objects of its own cluster. -/
theorem not_foreign_of_build {r : Resource} {built : Built} (h : b.build r = .ok built) :
    ¬ Foreign b.cluster built.policy ∧ (∀ x ∈ built.policy.rules, ¬ Foreign b.cluster x) ∧
      ∀ g ∈ built.groups, ¬ Foreign b.cluster g := by
  obtain ⟨o, ho, hbuilt⟩ := build_eq_ok h
  obtain ⟨hpolicy, hrules, hgroups⟩ := Origin.tags_of_objects hbuilt
  have hown : ∀ {α : Type} [Managed α] {x : α}, Managed.tags x = o.tags →
      ¬ Foreign b.cluster x := by
    intro α _ x htags
    rw [foreign_iff_of_origin (List.Perm.of_eq htags)]
    exact not_not_intro (origin_eq_ok ho).2.1
  exact ⟨hown hpolicy, fun x hx => hown (hrules x hx), fun g hg => hown (hgroups g hg)⟩

/-- The removal of an owner removes objects of another cluster exactly when it takes them for the
cluster's own. -/
theorem removal?_removesForeign (hm : w.inventory.NamesForeign b.cluster) (owner : String) :
    (∃ e p, b.removal? w.inventory owner = some (.patchInfra e p) ∧
      p.RemovesForeign b.cluster) ↔ w.inventory.Mistakes b.cluster owner := by
  rw [removal?, Change.forOwner, Inventory.Mistakes]
  cases hhead : (w.inventory.policies.ownedBy owner).head? with
  | none => simp
  | some policy =>
    obtain ⟨id, hpolicy⟩ := Store.exists_of_mem_ownedBy (List.mem_of_mem_head? hhead)
    -- what is stored and foreign has the cluster's name in a tag
    have hp : Foreign b.cluster policy ↔ Mistaken b.cluster policy :=
      ⟨fun hf => hm.policies hpolicy hf, Mistaken.foreign⟩
    have hx : (∃ x ∈ w.inventory.rules.ownedBy owner, Foreign b.cluster x) ↔
        ∃ x ∈ w.inventory.rules.ownedBy owner, Mistaken b.cluster x := by
      refine exists_congr fun x => and_congr_right fun hx => ⟨fun hf => ?_, Mistaken.foreign⟩
      obtain ⟨id, hget⟩ := Store.exists_of_mem_ownedBy hx
      exact hm.rules hget hf
    have hg : (∃ g ∈ w.inventory.groups.ownedBy owner, Foreign b.cluster g) ↔
        ∃ g ∈ w.inventory.groups.ownedBy owner, Mistaken b.cluster g := by
      refine exists_congr fun g => and_congr_right fun hg => ⟨fun hf => ?_, Mistaken.foreign⟩
      obtain ⟨id, hget⟩ := Store.exists_of_mem_ownedBy hg
      exact hm.groups hget hf
    simp only [Option.map_some, Option.some.injEq, exists_eq_left', Call.patchInfra.injEq,
      and_assoc, exists_and_left]
    rw [Change.removesForeign_removing, hp, hx, hg]

/-- **Objects of other clusters.** A service starts from listings that show nothing but what the
search for its cluster finds, and does any jobs about resources. A collection then asks for the
removal of no object of another cluster exactly when it takes no such object of an owner that is not
alive for one of its own: none that has the cluster's name in another tag. -/
theorem collect_spares_iff {a : Arrivals} (hsync : (a.sync .empty).2 = none)
    (hfound : a.FoundFor b.cluster) {jobs : List Job} (hgroups : ∀ gs, .updateGroups gs ∉ jobs)
    (answers : List (Option Fault)) (live : TextSet) :
    let w := b.serveAll jobs { inventory := (a.sync .empty).1, writes := answers }
    (∀ e p, .patchInfra e p ∈ (b.collect { uids := .ok live }).sent w →
        ¬ p.RemovesForeign b.cluster) ↔
      ∀ owner, ¬ live.contains owner → ¬ w.inventory.Mistakes b.cluster owner := by
  intro w
  have hcoherent : w.inventory.Coherent :=
    (b.serveAll_steps jobs _).coherent (Reaches.filled (b := b) hsync).coherent
  have hnames : w.inventory.NamesForeign b.cluster := by
    refine serveAll_within hgroups (fun r built _ hb => ?_) (hfound.namesForeign hsync)
    obtain ⟨hpolicy, hrules, hbuilt⟩ := not_foreign_of_build hb
    exact ⟨fun hf => absurd hf hpolicy, fun x hx hf => absurd hf (hrules x hx),
      fun g hg hf => absurd hf (hbuilt g hg)⟩
  constructor
  · intro h owner hlive hmistakes
    obtain ⟨e, p, hcall, hforeign⟩ := (removal?_removesForeign hnames owner).2 hmistakes
    exact h e p ((mem_sent_collect hcoherent).2 (.inr ⟨owner, hlive, hcall⟩)) hforeign
  · intro h e p hsent hforeign
    rcases (mem_sent_collect hcoherent).1 hsent with hlisting | ⟨owner, hlive, hcall⟩
    · cases hlisting
    · exact h owner hlive ((removal?_removesForeign hnames owner).1 ⟨e, p, hcall, hforeign⟩)

/-- The cluster's own policy is left over, and so is a group that belongs to another cluster and was
built for a namespace of the cluster's name. The group is found, but there is no policy of its owner
to carry its removal: only the own policy is removed. -/
theorem collect_spares_iff_lone_group :
    let b : Builder := ⟨"prod", "default"⟩
    let own : Origin := ⟨"prod", "default", "u", "web", "shop"⟩
    let other : Origin := ⟨"staging", "default", "v", "web", "prod"⟩
    let p : Policy := { id := "sp_u", tags := own.tags }
    let g : Group := { id := "sp_v_scope", tags := other.tags }
    let a : Arrivals := { policies := { objects := [p] }, groups := { objects := [g] } }
    let w := b.serveAll [] { inventory := (a.sync .empty).1, writes := [] }
    (a.sync .empty).2 = none ∧ a.FoundFor b.cluster ∧ (∀ gs, .updateGroups gs ∉ ([] : List Job)) ∧
      Mistaken b.cluster g ∧ ((b.collect { uids := .ok .empty }).sent w).length = 2 ∧
      ∀ e p, .patchInfra e p ∈ (b.collect { uids := .ok .empty }).sent w →
        ¬ p.RemovesForeign b.cluster := by
  intro b own other p g a w
  have hfound : a.FoundFor b.cluster := by
    refine ⟨List.forall_mem_singleton.2 ?_, fun x hx => (nomatch hx),
      List.forall_mem_singleton.2 ?_⟩
    · exact ⟨⟨⟨Tag.clusterScope, "prod"⟩, by decide, rfl⟩,
        ⟨⟨Tag.clusterScope, "prod"⟩, by decide, rfl⟩⟩
    · exact ⟨⟨⟨Tag.clusterScope, "staging"⟩, by decide, rfl⟩,
        ⟨⟨Tag.namespaceScope, "prod"⟩, by decide, rfl⟩⟩
  have hgroup : Mistaken b.cluster g :=
    (mistaken_iff_of_origin (o := other) (.refl _)).2 ⟨by decide, .inl rfl⟩
  have hspared : ∀ owner, ¬ (.empty : TextSet).contains owner →
      ¬ w.inventory.Mistakes b.cluster owner := by
    rintro owner - ⟨q, hhead, hmistaken⟩
    have hstored : w.inventory.policies.get? (Managed.id q) = some q ∧ owner? q = some owner :=
      (Store.coherent_empty.putAll [p]).mem_ownedBy.1 (List.mem_of_mem_head? hhead)
    obtain rfl : q = p := List.mem_singleton.1 (Store.mem_of_putAll hstored.1)
    obtain rfl : "u" = owner := Option.some.inj hstored.2
    rcases hmistaken with hp | ⟨x, hx, -⟩ | ⟨g, hg, -⟩
    · exact absurd rfl ((mistaken_iff_of_origin (o := own) (.refl _)).1 hp).1
    · cases hx
    · cases hg
  have hjobs : ∀ gs, .updateGroups gs ∉ ([] : List Job) := fun _ => List.not_mem_nil
  exact ⟨rfl, hfound, hjobs, hgroup, by decide,
    (collect_spares_iff (b := b) rfl hfound hjobs [] .empty).2 hspared⟩

/-- Another cluster realizes a resource in a namespace that has this cluster's name. All that it
builds is found for this cluster too, where no resource has the uid: it is removed. -/
theorem collect_removes_foreign_namespace :
    let b : Builder := ⟨"prod", "default"⟩
    let other : Builder := ⟨"staging", "default"⟩
    let r : Resource := {
      metadata := { name := some "web", ownNamespace := some "prod", uid := some "v" }
      spec := { appliedTo := [{ pods := some .empty }] } }
    let m := (other.serveAll [.update r] { writes := [] }).inventory
    let a : Arrivals := {
      policies := { objects := m.policies.objects.values }
      rules := { objects := m.rules.objects.values }
      groups := { objects := m.groups.objects.values } }
    let w : World := { inventory := (a.sync .empty).1 }
    (a.sync .empty).2 = none ∧ a.FoundFor b.cluster ∧
      ∃ e p, .patchInfra e p ∈ (b.collect { uids := .ok .empty }).sent w ∧
        p.RemovesForeign b.cluster := by
  intro b other r m a w
  let o : Origin := ⟨"staging", "default", "v", "web", "prod"⟩
  have hmatched : ∀ {α : Type} [Managed α] {x : α}, Managed.tags x = o.tags →
      Matched b.cluster x := by
    intro α _ x htags
    refine ⟨⟨⟨Tag.clusterScope, "staging"⟩, ?_, rfl⟩, ⟨⟨Tag.namespaceScope, "prod"⟩, ?_, rfl⟩⟩
    · rw [htags]
      decide
    · rw [htags]
      decide
  have hpolicies : ∀ p ∈ a.policies.objects, p.tags = o.tags := by decide
  have hgroups : ∀ g ∈ a.groups.objects, g.tags = o.tags := by decide
  have hfound : a.FoundFor b.cluster := ⟨fun p hp => hmatched (hpolicies p hp),
    fun x hx => (nomatch hx), fun g hg => hmatched (hgroups g hg)⟩
  have hcoherent : w.inventory.Coherent := (Reaches.filled (b := b) (a := a) rfl).coherent
  have hmistakes : w.inventory.Mistakes b.cluster "v" := by
    obtain ⟨p, hhead⟩ : ∃ p, (w.inventory.policies.ownedBy "v").head? = some p := ⟨_, rfl⟩
    have htags : (Managed.tags p).Perm o.tags := by
      cases hhead
      exact .refl _
    exact ⟨p, hhead, .inl ((mistaken_iff_of_origin htags).2 ⟨by decide, .inl rfl⟩)⟩
  obtain ⟨e, p, hcall, hforeign⟩ :=
    (removal?_removesForeign (w := w) (hfound.namesForeign rfl) "v").2 hmistakes
  exact ⟨rfl, hfound, e, p, (mem_sent_collect hcoherent).2 (.inr ⟨"v", nofun, hcall⟩), hforeign⟩

end Builder

end FirewallOperator
