import FirewallOperator.Object.Managed
import FirewallOperator.Proofs.Identities
import Mathlib.Data.List.Forall2

/-! # What a resource is built into

A build that succeeds is taken apart here: `Origin.rule_eq_ok` and `Origin.objects_eq_ok` say which
parts it was put together from. `Builder.belongs_of_build` is what stores and changes need to know
of the objects: they carry the resource's uid, none is marked, and within a kind no identity comes
twice. -/

namespace FirewallOperator

/-! ## Computations that succeed -/

section Outcomes

variable {ε α β : Type}

/-- A chain succeeds exactly when each link does. -/
theorem bind_eq_ok {outcome : Except ε α} {next : α → Except ε β} {b : β} :
    outcome >>= next = .ok b ↔ ∃ a, outcome = .ok a ∧ next a = .ok b := by
  cases outcome <;> simp [bind, Except.bind]

/-- A value succeeds with itself only. -/
theorem pure_eq_ok {a b : α} : (pure a : Except ε α) = .ok b ↔ a = b := by
  simp [pure, Except.pure]

/-- A function of an outcome succeeds with the function of what the outcome has. -/
theorem map_eq_ok {f : α → β} {outcome : Except ε α} {b : β} :
    f <$> outcome = .ok b ↔ ∃ a, outcome = .ok a ∧ f a = b := by
  cases outcome <;> simp [Functor.map, Except.map]

/-- A list is decoded exactly when each of its members is. -/
theorem mapM_eq_ok {f : α → Except ε β} {xs : List α} {ys : List β} :
    xs.mapM f = .ok ys ↔ List.Forall₂ (fun x y => f x = .ok y) xs ys := by
  induction xs generalizing ys with
  | nil => rw [List.mapM_nil, pure_eq_ok, List.forall₂_nil_left_iff, eq_comm]
  | cons x xs ih =>
    rw [List.mapM_cons, List.forall₂_cons_left_iff]
    simp only [bind_eq_ok, pure_eq_ok, ih]
    constructor
    · rintro ⟨y, hy, zs, hzs, rfl⟩
      exact ⟨y, zs, hy, hzs, rfl⟩
    · rintro ⟨y, zs, hy, hzs, rfl⟩
      exact ⟨y, hy, zs, hzs, rfl⟩

/-- Each member of a list has its partner in a list that goes with it. -/
theorem exists_of_mem_right {R : α → β → Prop} {xs : List α} {ys : List β}
    (h : List.Forall₂ R xs ys) {y : β} (hy : y ∈ ys) : ∃ x ∈ xs, R x y := by
  induction h with
  | nil => cases hy
  | cons hxy _ ih =>
    rcases List.mem_cons.1 hy with rfl | hy
    · exact ⟨_, List.mem_cons_self, hxy⟩
    · obtain ⟨x, hx, hr⟩ := ih hy
      exact ⟨x, List.mem_cons_of_mem _ hx, hr⟩

/-- Lists that correspond have corresponding parts. -/
theorem map_eq_of_forall₂ {γ : Type} {R : α → β → Prop} {xs : List α} {ys : List β} {f : β → γ}
    {g : α → γ} (h : List.Forall₂ R xs ys) (hR : ∀ x y, R x y → f y = g x) :
    ys.map f = xs.map g := by
  rw [← List.forall₂_eq_eq_eq, List.forall₂_map_left_iff, List.forall₂_map_right_iff]
  exact (h.imp hR).flip

/-- Lists that are put together of sublists are sublists of what is put together of the others. -/
theorem flatMap_sublist {γ : Type} {f : α → List γ} {g : β → List γ} {xs : List α} {ys : List β}
    (h : List.Forall₂ (fun x y => (f x).Sublist (g y)) xs ys) :
    (xs.flatMap f).Sublist (ys.flatMap g) := by
  induction h with
  | nil => exact .slnil
  | cons hx _ ih => exact hx.append ih

end Outcomes

/-! ## The parts of a build -/

namespace Origin

variable {o : Origin}

/-- The uid in an origin's tags is the origin's. -/
@[simp] theorem owner?_tags (o : Origin) : Tag.owner? o.tags = some o.uid := by
  simp [Tag.owner?, tags, Tag.clusterScope, Tag.namespaceScope, Tag.nameScope, Tag.ownerScope]

/-- Machines are only asked for with labels. -/
theorem machines_eq_ok {field : String} {machines : Option Labels} {cs : List (List Term)}
    (h : machines.toList.mapM (machineCriterion field) = .ok cs) :
    (∀ labels ∈ machines, labels.isEmpty = false) ∧
      cs = machines.toList.map fun labels => allOf (labelConditions machineMember "" labels) := by
  rw [mapM_eq_ok] at h
  cases machines with
  | none =>
    rw [Option.toList_none, List.forall₂_nil_left_iff] at h
    exact ⟨nofun, h⟩
  | some labels =>
    rw [Option.toList_some, List.forall₂_cons_left_iff] at h
    obtain ⟨c, rest, hc, hrest, rfl⟩ := h
    rw [List.forall₂_nil_left_iff] at hrest
    rw [machineCriterion] at hc
    split at hc
    case isTrue => cases hc
    case isFalse hsome =>
      cases hc
      refine ⟨fun ls hls => ?_, by rw [hrest]; rfl⟩
      obtain rfl := Option.mem_some.1 hls
      exact Bool.eq_false_iff.2 hsome

/-- A target asks for something, and is compiled into what it asks of pods and of machines. -/
theorem targetCriteria_eq_ok {field : String} {t : Target} {cs : List (List Term)}
    (h : o.targetCriteria field t = .ok cs) :
    t.isEmpty = false ∧ (∀ labels ∈ t.machines, labels.isEmpty = false) ∧
      cs = (t.pods.toList.map fun ls => allOf (podConditions o.cluster o.ownNamespace ls none)) ++
        t.machines.toList.map fun ls => allOf (labelConditions machineMember "" ls) := by
  cases hempty : t.isEmpty with
  | true =>
    rw [targetCriteria, hempty] at h
    cases h
  | false =>
    simp only [targetCriteria, hempty, Bool.false_eq_true, if_false, bind_eq_ok, pure_eq_ok] at h
    obtain ⟨machines, hmachines, rfl⟩ := h
    obtain ⟨hlabelled, rfl⟩ := machines_eq_ok hmachines
    exact ⟨rfl, hlabelled, rfl⟩

/-- A peer asks for something, and is compiled into what it asks of pods and of machines. -/
theorem peerCriteria_eq_ok {field : String} {p : Peer} {cs : List (List Term)}
    (h : o.peerCriteria field p = .ok cs) :
    p.isEmpty = false ∧ (∀ labels ∈ p.machines, labels.isEmpty = false) ∧
      cs = (if p.pods.isSome || p.namespaces.isSome then
          [allOf (podConditions o.cluster o.ownNamespace (p.pods.getD .empty) p.namespaces)]
        else []) ++
        p.machines.toList.map fun ls => allOf (labelConditions machineMember "" ls) := by
  cases hempty : p.isEmpty with
  | true =>
    rw [peerCriteria, hempty] at h
    cases h
  | false =>
    simp only [peerCriteria, hempty, Bool.false_eq_true, if_false, bind_eq_ok, pure_eq_ok] at h
    obtain ⟨machines, hmachines, rfl⟩ := h
    obtain ⟨hlabelled, rfl⟩ := machines_eq_ok hmachines
    exact ⟨rfl, hlabelled, rfl⟩

/-- The criteria of a list are those of its members, one member after the other. -/
theorem criteria_eq_ok {α : Type} {field : String}
    {one : String → α → Except Defect (List (List Term))} {xs : List α} {cs : List (List Term)}
    (h : criteria field one xs = .ok cs) :
    ∃ parts, cs = parts.flatten ∧
      List.Forall₂ (fun x part => ∃ field, one field x = .ok part) xs parts := by
  simp only [criteria, bind_eq_ok, pure_eq_ok, mapM_eq_ok] at h
  obtain ⟨parts, hparts, rfl⟩ := h
  refine ⟨parts, rfl, ?_⟩
  have hmembers : List.Forall₂ (fun x part => ∃ field, one field x = .ok part)
      (xs.zipIdx.map Prod.fst) parts := by
    rw [List.forall₂_map_left_iff]
    exact hparts.imp fun q part hq => ⟨_, hq⟩
  rwa [List.zipIdx_map_fst] at hmembers

/-- A group of targets has the criteria of the targets. -/
theorem targetGroup_eq_ok {id field : String} {targets : List Target} {g : Group}
    (h : o.targetGroup id field targets = .ok g) :
    ∃ cs, criteria field o.targetCriteria targets = .ok cs ∧ g = o.group id cs := by
  simp only [targetGroup, bind_eq_ok, pure_eq_ok] at h
  obtain ⟨cs, hcs, rfl⟩ := h
  exact ⟨cs, hcs, rfl⟩

/-- A group of peers has the criteria of the peers, and there is none without peers. -/
theorem peerGroup_eq_ok {id field : String} {peers : List Peer} {g : Option Group}
    (h : o.peerGroup id field peers = .ok g) :
    (peers = [] ∧ g = none) ∨ (peers ≠ [] ∧
      ∃ cs, criteria field o.peerCriteria peers = .ok cs ∧ g = some (o.group id cs)) := by
  rw [peerGroup] at h
  cases peers with
  | nil => exact .inl ⟨rfl, (pure_eq_ok.1 h).symm⟩
  | cons p rest =>
    simp only [List.isEmpty_cons, Bool.false_eq_true, if_false, bind_eq_ok, pure_eq_ok] at h
    obtain ⟨cs, hcs, rfl⟩ := h
    exact .inr ⟨List.cons_ne_nil _ _, cs, hcs, rfl⟩

/-- A rule has a group for its own targets, or inherits the scope of the policy. -/
theorem ruleScope_eq_ok {id field : String} {inherits : Bool} {targets : List Target}
    {g : Option Group} (h : o.ruleScope id field inherits targets = .ok g) :
    (targets = [] ∧ inherits = true ∧ g = none) ∨ (targets ≠ [] ∧
      ∃ cs, criteria field o.targetCriteria targets = .ok cs ∧
        g = some (o.group (scopeGroupId id) cs)) := by
  rw [ruleScope] at h
  cases targets with
  | nil =>
    cases inherits with
    | true => exact .inl ⟨rfl, rfl, (pure_eq_ok.1 h).symm⟩
    | false => cases h
  | cons t rest =>
    simp only [List.isEmpty_cons, Bool.not_false, if_true, bind_eq_ok, pure_eq_ok] at h
    obtain ⟨g, hg, rfl⟩ := h
    obtain ⟨cs, hcs, rfl⟩ := targetGroup_eq_ok hg
    exact .inr ⟨List.cons_ne_nil _ _, cs, hcs, rfl⟩

/-- The rule at a place, of the parts that it is put together from. -/
def ruleOf (o : Origin) (index : Nat) (r : RuleSpec) (scope sources destinations : Option Group)
    (services : List ServiceEntry) : Rule where
  id := ruleId o.uid index
  displayName := r.name.getD (o.name ++ "-" ++ toString index)
  direction := match r.flow with
    | .ingress => .ingress
    | .egress => .egress
  action := r.action
  sources := [o.pathOf sources]
  destinations := [o.pathOf destinations]
  services := services
  scope := [o.pathOf scope]
  sequence := Int64.ofNat index
  tags := o.tags

/-- A rule is put together of its scope, its sources, its destinations and its ports. -/
theorem rule_eq_ok {inherits : Bool} {index : Nat} {r : RuleSpec} {p : Rule × List Group}
    (h : o.rule inherits index r = .ok p) :
    ∃ scope sources destinations services,
      o.ruleScope (ruleId o.uid index) (indexed "spec.rules" index ++ ".appliedTo") inherits
        r.appliedTo = .ok scope ∧
      o.peerGroup (sourceGroupId (ruleId o.uid index)) (indexed "spec.rules" index ++ ".sources")
        r.sources = .ok sources ∧
      o.peerGroup (destinationGroupId (ruleId o.uid index))
        (indexed "spec.rules" index ++ ".destinations") r.destinations = .ok destinations ∧
      r.ports.zipIdx.mapM (fun (port, i) =>
        serviceEntry (indexed (indexed "spec.rules" index ++ ".ports") i) i port) = .ok services ∧
      p = (o.ruleOf index r scope sources destinations services,
        scope.toList ++ sources.toList ++ destinations.toList) := by
  simp only [rule, bind_eq_ok, pure_eq_ok] at h
  obtain ⟨scope, hscope, sources, hsources, destinations, hdestinations, services, hservices, rfl⟩ :=
    h
  exact ⟨scope, sources, destinations, services, hscope, hsources, hdestinations, hservices, rfl⟩

/-- The policy and groups, of the parts that they are put together from. -/
def builtOf (o : Origin) (s : Spec) (scope : Option Group) (rules : List (Rule × List Group)) :
    Built where
  policy := {
    id := policyId o.uid
    displayName := o.ownNamespace ++ "-" ++ o.name
    scope := scope.toList.map (·.path o.domain)
    sequence := s.priority.toInt64
    rules := rules.map (·.1)
    tags := o.tags }
  groups := scope.toList ++ rules.flatMap (·.2)

/-- A policy is put together of its scope and its rules. -/
theorem objects_eq_ok {s : Spec} {built : Built} (h : o.objects s = .ok built) :
    ∃ scope rules,
      ((s.appliedTo = [] ∧ scope = none) ∨ (s.appliedTo ≠ [] ∧
        ∃ cs, criteria "spec.appliedTo" o.targetCriteria s.appliedTo = .ok cs ∧
          scope = some (o.group (scopeGroupId (policyId o.uid)) cs))) ∧
      List.Forall₂ (fun q p => o.rule scope.isSome q.2 q.1 = .ok p) s.rules.zipIdx rules ∧
      built = o.builtOf s scope rules := by
  rw [objects] at h
  cases happlied : s.appliedTo with
  | nil =>
    simp only [happlied, List.isEmpty_nil, if_true, bind_eq_ok, pure_eq_ok, mapM_eq_ok] at h
    obtain ⟨_, rfl, rules, hrules, rfl⟩ := h
    exact ⟨none, rules, .inl ⟨rfl, rfl⟩, hrules, rfl⟩
  | cons t rest =>
    simp only [happlied, List.isEmpty_cons, Bool.false_eq_true, if_false, bind_eq_ok, pure_eq_ok,
      mapM_eq_ok, map_eq_ok] at h
    obtain ⟨scope, ⟨g, hg, rfl⟩, rules, hrules, rfl⟩ := h
    obtain ⟨cs, hcs, rfl⟩ := targetGroup_eq_ok hg
    exact ⟨some _, rules, .inr ⟨List.cons_ne_nil _ _, cs, hcs, rfl⟩, hrules, rfl⟩

end Origin

/-! ## Objects that belong to a resource -/

/-- Objects that are built for an owner: all of them are the owner's, none is to be removed, and no
identity comes twice. -/
structure Wanted {α : Type} [Managed α] (uid : String) (xs : List α) : Prop where
  owned : ∀ x ∈ xs, owner? x = some uid
  unmarked : ∀ x ∈ xs, Managed.marked x = false
  distinct : (xs.map Managed.id).Nodup

/-- What is built belongs to a uid, under the identities made from it. -/
structure Built.Belongs (built : Built) (uid : String) : Prop where
  policy_id : built.policy.id = policyId uid
  policy_owner : owner? built.policy = some uid
  policy_unmarked : built.policy.marked = false
  rules : Wanted uid built.policy.rules
  groups : Wanted uid built.groups

namespace Origin

variable {o : Origin}

/-- Objects of an origin, none of them to be removed. -/
def Owns {α : Type} [Managed α] (o : Origin) (x : α) : Prop :=
  owner? x = some o.uid ∧ Managed.marked x = false

/-- A group of an origin is owned by it. -/
theorem owns_group (o : Origin) (id : String) (cs : List (List Term)) : o.Owns (o.group id cs) :=
  ⟨o.owner?_tags, rfl⟩

/-- What holds of a group that there may be: it is the origin's, and has one identity. -/
theorem owns_optional {g : Option Group} {id : String}
    (h : g = none ∨ ∃ cs, g = some (o.group id cs)) :
    (∀ x ∈ g.toList, o.Owns x) ∧ (g.toList.map Group.id).Sublist [id] := by
  rcases h with rfl | ⟨cs, rfl⟩
  · simp
  · exact ⟨by simpa using o.owns_group id cs, .refl _⟩

/-- The group of peers, if there is one, is the origin's. -/
theorem optional_of_peerGroup {id field : String} {peers : List Peer} {g : Option Group}
    (h : o.peerGroup id field peers = .ok g) : g = none ∨ ∃ cs, g = some (o.group id cs) := by
  rcases peerGroup_eq_ok h with ⟨-, hnone⟩ | ⟨-, cs, -, hsome⟩
  · exact .inl hnone
  · exact .inr ⟨cs, hsome⟩

/-- The group of a rule's scope, if there is one, is the origin's. -/
theorem optional_of_ruleScope {id field : String} {inherits : Bool} {targets : List Target}
    {g : Option Group} (h : o.ruleScope id field inherits targets = .ok g) :
    g = none ∨ ∃ cs, g = some (o.group (scopeGroupId id) cs) := by
  rcases ruleScope_eq_ok h with ⟨-, -, hnone⟩ | ⟨-, cs, -, hsome⟩
  · exact .inl hnone
  · exact .inr ⟨cs, hsome⟩

/-- The groups of a rule are the origin's, under the identities of the rule's roles. -/
theorem groups_of_rule {inherits : Bool} {index : Nat} {r : RuleSpec} {p : Rule × List Group}
    (h : o.rule inherits index r = .ok p) :
    (∀ g ∈ p.2, o.Owns g) ∧
      (p.2.map Group.id).Sublist ((GroupRole.ofRule index).map (GroupRole.id o.uid)) := by
  obtain ⟨scope, sources, destinations, services, hscope, hsources, hdestinations, -, rfl⟩ :=
    rule_eq_ok h
  obtain ⟨hown₁, hid₁⟩ := owns_optional (optional_of_ruleScope hscope)
  obtain ⟨hown₂, hid₂⟩ := owns_optional (optional_of_peerGroup hsources)
  obtain ⟨hown₃, hid₃⟩ := owns_optional (optional_of_peerGroup hdestinations)
  constructor
  · exact List.forall_mem_append.2 ⟨List.forall_mem_append.2 ⟨hown₁, hown₂⟩, hown₃⟩
  · simp only [List.map_append]
    exact (hid₁.append hid₂).append hid₃

/-- The groups of a spec are the origin's, under the identities of their roles. -/
theorem groups_of_objects {s : Spec} {built : Built} (h : o.objects s = .ok built) :
    (∀ g ∈ built.groups, o.Owns g) ∧
      (built.groups.map Group.id).Sublist
        ((GroupRole.all s.rules.length).map (GroupRole.id o.uid)) := by
  obtain ⟨scope, rules, hscope, hrules, rfl⟩ := objects_eq_ok h
  have hoptional : scope = none ∨ ∃ cs, scope = some (o.group (scopeGroupId (policyId o.uid)) cs) := by
    rcases hscope with ⟨-, hnone⟩ | ⟨-, cs, -, hsome⟩
    · exact .inl hnone
    · exact .inr ⟨cs, hsome⟩
  obtain ⟨hown, hid⟩ := owns_optional hoptional
  constructor
  · intro g hg
    rcases List.mem_append.1 hg with hg | hg
    · exact hown g hg
    · obtain ⟨p, hp, hgp⟩ := List.mem_flatMap.1 hg
      obtain ⟨q, -, hq⟩ := exists_of_mem_right hrules hp
      exact (groups_of_rule hq).1 g hgp
  -- a rule may lack some of its groups, so the identities are a part of all that there can be
  · have hrest : ((rules.flatMap (·.2)).map Group.id).Sublist
        (((List.range s.rules.length).flatMap GroupRole.ofRule).map (GroupRole.id o.uid)) := by
      rw [List.map_flatMap, List.map_flatMap, List.range_eq_range', ← List.zipIdx_map_snd 0 s.rules,
        List.flatMap_map]
      exact flatMap_sublist (hrules.imp fun q p hp => (groups_of_rule hp).2).flip
    simp only [builtOf, List.map_append]
    exact hid.append hrest

/-- The rules of a spec are the origin's, under the identities of their places. -/
theorem rules_of_objects {s : Spec} {built : Built} (h : o.objects s = .ok built) :
    (∀ x ∈ built.policy.rules, o.Owns x) ∧
      built.policy.rules.map Rule.id = (List.range s.rules.length).map (ruleId o.uid) := by
  obtain ⟨scope, rules, -, hrules, rfl⟩ := objects_eq_ok h
  constructor
  · intro x hx
    obtain ⟨p, hp, rfl⟩ := List.mem_map.1 hx
    obtain ⟨q, -, hq⟩ := exists_of_mem_right hrules hp
    obtain ⟨_, _, _, _, -, -, -, -, rfl⟩ := rule_eq_ok hq
    exact ⟨o.owner?_tags, rfl⟩
  · have hids : rules.map (·.1.id) = s.rules.zipIdx.map (ruleId o.uid ·.2) := by
      refine map_eq_of_forall₂ hrules fun q p hp => ?_
      obtain ⟨_, _, _, _, -, -, -, -, rfl⟩ := rule_eq_ok hp
      rfl
    rw [List.range_eq_range', ← List.zipIdx_map_snd 0 s.rules, List.map_map]
    simp only [builtOf, List.map_map]
    exact hids

/-- Everything built from an origin has the origin's tags. -/
theorem tags_of_objects {s : Spec} {built : Built} (h : o.objects s = .ok built) :
    built.policy.tags = o.tags ∧ (∀ x ∈ built.policy.rules, x.tags = o.tags) ∧
      ∀ g ∈ built.groups, g.tags = o.tags := by
  obtain ⟨scope, rules, hscope, hrules, rfl⟩ := objects_eq_ok h
  have hoptional : ∀ {g : Option Group} {id : String}, (g = none ∨ ∃ cs, g = some (o.group id cs)) →
      ∀ x ∈ g.toList, x.tags = o.tags := by
    rintro g id (rfl | ⟨cs, rfl⟩) x hx
    · cases hx
    · rw [List.mem_singleton.1 hx]
      rfl
  have hrule : ∀ p ∈ rules, p.1.tags = o.tags ∧ ∀ g ∈ p.2, g.tags = o.tags := by
    intro p hp
    obtain ⟨q, -, hq⟩ := exists_of_mem_right hrules hp
    obtain ⟨_, _, _, _, hruleScope, hsources, hdestinations, -, rfl⟩ := rule_eq_ok hq
    exact ⟨rfl, List.forall_mem_append.2 ⟨List.forall_mem_append.2
      ⟨hoptional (optional_of_ruleScope hruleScope), hoptional (optional_of_peerGroup hsources)⟩,
      hoptional (optional_of_peerGroup hdestinations)⟩⟩
  refine ⟨rfl, fun x hx => ?_, fun g hg => ?_⟩
  · obtain ⟨p, hp, rfl⟩ := List.mem_map.1 hx
    exact (hrule p hp).1
  · rcases List.mem_append.1 hg with hg | hg
    · rcases hscope with ⟨-, rfl⟩ | ⟨-, cs, -, rfl⟩
      · cases hg
      · exact hoptional (.inr ⟨cs, rfl⟩) g hg
    · obtain ⟨p, hp, hg⟩ := List.mem_flatMap.1 hg
      exact (hrule p hp).2 g hg

/-- What is built from an origin belongs to its uid. -/
theorem belongs_of_objects {s : Spec} {built : Built} (h : o.objects s = .ok built) :
    built.Belongs o.uid := by
  obtain ⟨hgroups, hgroupIds⟩ := groups_of_objects h
  obtain ⟨hrules, hruleIds⟩ := rules_of_objects h
  have hruleDistinct : (built.policy.rules.map Managed.id).Nodup := by
    show (built.policy.rules.map Rule.id).Nodup
    rw [hruleIds]
    exact List.nodup_range.map (ruleId_injective o.uid)
  have hgroupDistinct : (built.groups.map Managed.id).Nodup :=
    hgroupIds.nodup ((GroupRole.nodup_all _).map (GroupRole.id_injective o.uid))
  obtain ⟨scope, rules, -, -, rfl⟩ := objects_eq_ok h
  exact {
    policy_id := rfl
    policy_owner := o.owner?_tags
    policy_unmarked := rfl
    rules := ⟨fun x hx => (hrules x hx).1, fun x hx => (hrules x hx).2, hruleDistinct⟩
    groups := ⟨fun g hg => (hgroups g hg).1, fun g hg => (hgroups g hg).2, hgroupDistinct⟩ }

end Origin

namespace Builder

variable {b : Builder} {r : Resource}

/-- What is built has an origin. -/
theorem build_eq_ok {built : Built} (h : b.build r = .ok built) :
    ∃ o, b.origin r.metadata = .ok o ∧ o.objects r.spec = .ok built := by
  rw [build] at h
  cases ho : b.objects r with
  | error d => rw [ho] at h; cases h
  | ok x =>
    rw [ho] at h
    cases h
    exact bind_eq_ok.1 ho

/-- An origin has the uid of the resource. -/
theorem origin_eq_ok {m : Metadata} {o : Origin} (h : b.origin m = .ok o) :
    m.uid = some o.uid ∧ o.cluster = b.cluster ∧ o.domain = b.domain := by
  rw [origin] at h
  cases huid : m.uid with
  | none => rw [huid] at h; cases h
  | some uid =>
    simp only [huid] at h
    split at h
    · cases h
    · cases hns : m.ownNamespace with
      | none => rw [hns] at h; cases h
      | some ns =>
        rw [hns] at h
        cases h
        exact ⟨rfl, rfl, rfl⟩

/-- An origin has the namespace of the resource. -/
theorem ownNamespace_of_origin {m : Metadata} {o : Origin} (h : b.origin m = .ok o) :
    m.ownNamespace = some o.ownNamespace := by
  rw [origin] at h
  cases huid : m.uid with
  | none => rw [huid] at h; cases h
  | some uid =>
    simp only [huid] at h
    split at h
    · cases h
    · cases hns : m.ownNamespace with
      | none => rw [hns] at h; cases h
      | some ns =>
        rw [hns] at h
        cases h
        rfl

/-- What a resource is built into belongs to its uid. -/
theorem belongs_of_build {built : Built} (h : b.build r = .ok built) :
    built.Belongs (r.metadata.uid.getD "") := by
  obtain ⟨o, ho, hbuilt⟩ := build_eq_ok h
  rw [(origin_eq_ok ho).1]
  exact Origin.belongs_of_objects hbuilt

/-- A resource that can be built has a uid. -/
theorem uid_of_build {built : Built} (h : b.build r = .ok built) :
    r.metadata.uid = some (r.metadata.uid.getD "") := by
  obtain ⟨o, ho, -⟩ := build_eq_ok h
  rw [(origin_eq_ok ho).1]
  rfl

end Builder

end FirewallOperator
