import FirewallOperator.Proofs.Building
import FirewallOperator.Proofs.Expressions

/-! # What groups select

A resource lists targets and peers, and each list that is not empty is built into a group.
`Target.admits` and `Peer.admits` say which members an entry of a list is about, and
`Builder.groups_select` says that the expression of every group is a proper one, which means the
members that the list is about. -/

namespace FirewallOperator

/-! ## What lists are about -/

/-- Whether a member has all labels, each as a tag whose scope starts with the given text. -/
def Member.carries (m : Member) (scope : String) (labels : Labels) : Bool :=
  labels.entries.all fun e => m.hasTag (scope ++ e.1) e.2

/-- Whether a target is about a member: a pod of the resource's namespace with all labels, or a
virtual machine with all labels. -/
def Target.admits (t : Target) (ownNamespace : String) (m : Member) : Bool :=
  (t.pods.any fun labels => m.type == "SegmentPort" && m.carries "" labels
      && m.hasTag "netfence/namespace" ownNamespace)
    || t.machines.any fun labels => m.type == "VirtualMachine" && m.carries "" labels

/-- Whether a pod is where a peer looks for it: in the resource's namespace, or in namespaces with
all labels. Without any label at all that is anywhere in the cluster. -/
def Member.isPlaced (m : Member) (cluster ownNamespace : String) (pods : Labels) :
    Option Labels → Bool
  | none => m.hasTag "netfence/namespace" ownNamespace
  | some namespaces => m.carries "netfence/ns-label/" namespaces
      && (!(pods.isEmpty && namespaces.isEmpty) || m.hasTag "netfence/cluster" cluster)

/-- Whether a peer is about a member: a pod, if the peer names pods or namespaces, or a virtual
machine with all labels. -/
def Peer.admits (p : Peer) (cluster ownNamespace : String) (m : Member) : Bool :=
  ((p.pods.isSome || p.namespaces.isSome) && m.type == "SegmentPort"
      && m.carries "" (p.pods.getD .empty)
      && m.isPlaced cluster ownNamespace (p.pods.getD .empty) p.namespaces)
    || p.machines.any fun labels => m.type == "VirtualMachine" && m.carries "" labels

namespace Spec

/-- The targets that a group with a role is built of. -/
def targets (s : Spec) : GroupRole → List Target
  | .policyScope => s.appliedTo
  | .ruleScope index => (s.rules[index]?.map (·.appliedTo)).getD []
  | .source _ => []
  | .destination _ => []

/-- The peers that a group with a role is built of. -/
def peers (s : Spec) : GroupRole → List Peer
  | .policyScope => []
  | .ruleScope _ => []
  | .source index => (s.rules[index]?.map (·.sources)).getD []
  | .destination index => (s.rules[index]?.map (·.destinations)).getD []

/-- A role has targets or peers, not both. -/
theorem peers_eq_nil (s : Spec) {role : GroupRole} (h : s.targets role ≠ []) :
    s.peers role = [] := by
  cases role with
  | policyScope => rfl
  | ruleScope index => rfl
  | source index => exact absurd rfl h
  | destination index => exact absurd rfl h

/-- A role with peers has no targets. -/
theorem targets_eq_nil (s : Spec) {role : GroupRole} (h : s.peers role ≠ []) :
    s.targets role = [] :=
  not_ne_iff.1 fun htargets => h (s.peers_eq_nil htargets)

/-- A group with a role is built of a list that is not empty. -/
def Lists (s : Spec) (role : GroupRole) : Prop := s.targets role ≠ [] ∨ s.peers role ≠ []

/-- Whether a list is about a member: one of its entries is. -/
def admits (s : Spec) (cluster ownNamespace : String) (role : GroupRole) (m : Member) : Bool :=
  (s.targets role).any (·.admits ownNamespace m)
    || (s.peers role).any (·.admits cluster ownNamespace m)

end Spec

/-- A group stands for the members with a property, by a proper expression. -/
def Group.Means (g : Group) (P : Member → Bool) : Prop :=
  WellFormed g.expression ∧ ∀ m, m.meets g.expression = P m

/-! ## Criteria of lists -/

/-- Criteria stand for the members with a property. -/
def Selects (cs : List (List Term)) (P : Member → Bool) : Prop :=
  ∃ criteria : List Criterion, cs = criteria.map Criterion.terms ∧
    ∀ m, P m = true ↔ ∃ c ∈ criteria, c.Admits m

namespace Selects

variable {cs ds : List (List Term)} {P Q : Member → Bool}

/-- Criteria that stand for the members with a property stand for those with an equal one. -/
theorem congr (h : Selects cs P) (hPQ : ∀ m, Q m = P m) : Selects cs Q := by
  obtain rfl : Q = P := funext hPQ
  exact h

/-- No criteria stand for no members. -/
theorem nil : Selects [] fun _ => false := ⟨[], rfl, by simp⟩

/-- Criteria of two lists stand for the members of either. -/
theorem append (hc : Selects cs P) (hd : Selects ds Q) :
    Selects (cs ++ ds) fun m => P m || Q m := by
  obtain ⟨criteria, rfl, hP⟩ := hc
  obtain ⟨criteria', rfl, hQ⟩ := hd
  refine ⟨criteria ++ criteria', by rw [List.map_append], fun m => ?_⟩
  simp only [Bool.or_eq_true, hP, hQ, List.mem_append, or_and_right, exists_or]

/-- Criteria of the members of a list stand for what any of them stands for. -/
theorem flatten {α : Type} {R : α → Member → Bool} {xs : List α} {css : List (List (List Term))}
    (h : List.Forall₂ (fun x cs => Selects cs (R x)) xs css) :
    Selects css.flatten fun m => xs.any (R · m) := by
  induction h with
  | nil => exact nil
  | cons hx _ ih => exact hx.append ih

/-- One criterion: tags on members of one type, at least one. -/
theorem singleton {memberType : String} {values : List String} (hne : values ≠ [])
    (hP : ∀ m, P m = (m.type == memberType && values.all m.tags.contains)) :
    Selects [allOf (values.map (.condition memberType "Tag" "EQUALS"))] P :=
  ⟨[⟨memberType, values, hne⟩], rfl, fun m => by simp [hP, Criterion.Admits]⟩

/-- A group of criteria, of which there are some, means what they stand for. -/
theorem means (h : Selects cs P) (hne : cs ≠ []) (o : Origin) (id : String) :
    (o.group id cs).Means P := by
  obtain ⟨criteria, rfl, hP⟩ := h
  have hne : criteria ≠ [] := by simpa using hne
  refine ⟨Criterion.wellFormed_anyOf hne, fun m => ?_⟩
  rw [Bool.eq_iff_iff, hP]
  exact Criterion.meets_anyOf hne

end Selects

/-- The values that labels have to have among the tags. -/
def labelValues (scope : String) (labels : Labels) : List String :=
  labels.entries.map fun e => scope ++ e.1 ++ "|" ++ e.2

/-- Labels are asked for by a condition on each of their values. -/
theorem labelConditions_eq (memberType scope : String) (labels : Labels) :
    labelConditions memberType scope labels =
      (labelValues scope labels).map (.condition memberType "Tag" "EQUALS") := by
  rw [labelConditions, labelValues, List.map_map]
  rfl

/-- A member has all labels if it has all their values among its tags. -/
theorem carries_eq (m : Member) (scope : String) (labels : Labels) :
    m.carries scope labels = (labelValues scope labels).all m.tags.contains := by
  rw [Member.carries, labelValues, List.all_map]
  rfl

/-- Labels have no values if they have no entries. -/
theorem isEmpty_labelValues (scope : String) (labels : Labels) :
    (labelValues scope labels).isEmpty = labels.isEmpty := by
  rw [labelValues, List.isEmpty_map, SortedMap.isEmpty]

/-- The values that say where a pod is. -/
def placeValues (ownNamespace : String) : Option Labels → List String
  | none => ["netfence/namespace" ++ "|" ++ ownNamespace]
  | some namespaces => labelValues "netfence/ns-label/" namespaces

/-- The values that a pod has to have: those of its labels and of where it is, or that of the
cluster where there is nothing to ask for. -/
def podValues (cluster ownNamespace : String) (labels : Labels) (namespaces : Option Labels) :
    List String :=
  let values := labelValues "" labels ++ placeValues ownNamespace namespaces
  if values.isEmpty then ["netfence/cluster" ++ "|" ++ cluster] else values

section Pods

variable (cluster ownNamespace : String) (labels : Labels) (namespaces : Option Labels)

/-- Something is always asked of a pod. -/
theorem podValues_ne_nil : podValues cluster ownNamespace labels namespaces ≠ [] := by
  rw [podValues]
  split
  · exact List.cons_ne_nil _ _
  case isFalse hsome => exact fun hnil => hsome (List.isEmpty_iff.2 hnil)

/-- A pod is asked for by a condition on each value. -/
theorem podConditions_eq : podConditions cluster ownNamespace labels namespaces =
    (podValues cluster ownNamespace labels namespaces).map
      (.condition "SegmentPort" "Tag" "EQUALS") := by
  unfold podConditions podValues
  cases namespaces with
  | none =>
    -- the namespace is asked for in any case, so the cluster never is
    simp only [labelConditions_eq]
    cases labelValues "" labels with
    | nil => rfl
    | cons value rest => simp [placeValues, podMember, Term.hasTag, Tag.namespaceScope]
  | some ls =>
    rw [placeValues]
    simp only [labelConditions_eq, ← List.map_append, Tag.namespaceLabelScope]
    cases labelValues "" labels ++ labelValues "netfence/ns-label/" ls <;> rfl

/-- A pod has all values if it has the labels and is in the right place. -/
theorem all_podValues (m : Member) :
    (podValues cluster ownNamespace labels namespaces).all m.tags.contains =
      (m.carries "" labels && m.isPlaced cluster ownNamespace labels namespaces) := by
  rw [podValues, carries_eq]
  cases namespaces with
  | none => simp [Member.isPlaced, Member.hasTag, placeValues]
  | some ls =>
    rw [Member.isPlaced, carries_eq, placeValues, ← isEmpty_labelValues "" labels,
      ← isEmpty_labelValues "netfence/ns-label/" ls]
    cases labelValues "" labels with
    | nil =>
      cases labelValues "netfence/ns-label/" ls with
      | nil => simp [Member.hasTag]
      | cons => simp
    | cons => simp [Bool.and_assoc]

/-- The criterion for pods stands for the pods that have the labels and are in the right place. -/
theorem selects_pods :
    Selects [allOf (podConditions cluster ownNamespace labels namespaces)] fun m =>
      m.type == "SegmentPort" && m.carries "" labels
        && m.isPlaced cluster ownNamespace labels namespaces := by
  rw [podConditions_eq]
  refine .singleton (podValues_ne_nil _ _ _ _) fun m => ?_
  rw [all_podValues, Bool.and_assoc]

end Pods

namespace Origin

variable {o : Origin} {field : String}

/-- The criterion for virtual machines stands for those that have the labels, wherever they are. -/
theorem selects_machines {machines : Option Labels}
    (h : ∀ labels ∈ machines, labels.isEmpty = false) :
    Selects (machines.toList.map fun labels => allOf (labelConditions machineMember "" labels))
      fun m => machines.any fun labels => m.type == "VirtualMachine" && m.carries "" labels := by
  cases machines with
  | none => exact .nil
  | some labels =>
    rw [Option.toList_some, List.map_singleton, labelConditions_eq]
    refine .singleton (fun hnil => ?_) fun m => by rw [Option.any_some, carries_eq]; rfl
    have hsome := h labels rfl
    rw [← isEmpty_labelValues "", hnil] at hsome
    cases hsome

/-- The criteria of a target stand for what the target is about. -/
theorem selects_target {t : Target} {cs : List (List Term)}
    (h : o.targetCriteria field t = .ok cs) : Selects cs (t.admits o.ownNamespace) ∧ cs ≠ [] := by
  obtain ⟨hempty, hlabelled, rfl⟩ := targetCriteria_eq_ok h
  have hmachines := selects_machines hlabelled
  cases hpods : t.pods with
  | none =>
    refine ⟨hmachines.congr fun m => by simp [Target.admits, hpods], ?_⟩
    cases hsome : t.machines with
    | none => simp [Target.isEmpty, hpods, hsome] at hempty
    | some labels => exact List.cons_ne_nil _ _
  | some labels =>
    refine ⟨((selects_pods o.cluster o.ownNamespace labels none).append hmachines).congr
      fun m => ?_, List.cons_ne_nil _ _⟩
    simp [Target.admits, hpods, Member.isPlaced]

/-- The criteria of a peer stand for what the peer is about. -/
theorem selects_peer {p : Peer} {cs : List (List Term)} (h : o.peerCriteria field p = .ok cs) :
    Selects cs (p.admits o.cluster o.ownNamespace) ∧ cs ≠ [] := by
  obtain ⟨hempty, hlabelled, rfl⟩ := peerCriteria_eq_ok h
  have hmachines := selects_machines hlabelled
  cases hpods : p.pods.isSome || p.namespaces.isSome with
  | false =>
    refine ⟨hmachines.congr fun m => by simp [Peer.admits, hpods], ?_⟩
    -- a peer that is not empty and asks for no pods asks for machines
    cases hsome : p.machines with
    | none =>
      simp only [Bool.or_eq_false_iff, Option.isSome_eq_false_iff] at hpods
      simp [Peer.isEmpty, hpods, hsome] at hempty
    | some labels => exact List.cons_ne_nil _ _
  | true =>
    refine ⟨((selects_pods o.cluster o.ownNamespace (p.pods.getD .empty) p.namespaces).append
      hmachines).congr fun m => ?_, List.cons_ne_nil _ _⟩
    simp [Peer.admits, hpods]

/-- The criteria of a list stand for what its members are about. -/
theorem selects_criteria {α : Type} {one : String → α → Except Defect (List (List Term))}
    {R : α → Member → Bool} {xs : List α} {cs : List (List Term)}
    (h : criteria field one xs = .ok cs) (hne : xs ≠ [])
    (hone : ∀ field x cs, one field x = .ok cs → Selects cs (R x) ∧ cs ≠ []) :
    (Selects cs fun m => xs.any (R · m)) ∧ cs ≠ [] := by
  obtain ⟨parts, rfl, hparts⟩ := criteria_eq_ok h
  have hmembers : List.Forall₂ (fun x part => Selects part (R x) ∧ part ≠ []) xs parts :=
    hparts.imp fun x part ⟨_, hone'⟩ => hone _ _ _ hone'
  refine ⟨.flatten (hmembers.imp fun _ _ h => h.1), fun hnil => ?_⟩
  -- the first member of the list has a criterion already
  obtain ⟨x, rest, rfl⟩ := List.exists_cons_of_ne_nil hne
  obtain ⟨part, rest', ⟨-, hpart⟩, -, rfl⟩ := List.forall₂_cons_left_iff.1 hmembers
  exact hpart (List.flatten_eq_nil_iff.1 hnil part List.mem_cons_self)

/-! ## Groups of lists -/

/-- What the list of a role is compiled into: a group of its criteria under the role's identity, or
nothing when there is no list. -/
inductive Compiles (o : Origin) (s : Spec) (role : GroupRole) : Option Group → Prop
  | absent (h : ¬ s.Lists role) : o.Compiles s role none
  | targets {field : String} {cs : List (List Term)} (hne : s.targets role ≠ [])
      (h : criteria field o.targetCriteria (s.targets role) = .ok cs) :
      o.Compiles s role (some (o.group (role.id o.uid) cs))
  | peers {field : String} {cs : List (List Term)} (hne : s.peers role ≠ [])
      (h : criteria field o.peerCriteria (s.peers role) = .ok cs) :
      o.Compiles s role (some (o.group (role.id o.uid) cs))

variable {s : Spec} {role : GroupRole} {g : Option Group}

/-- What is built of the targets of a role is what the role compiles to. -/
theorem compiles_targets {targets : List Target} (htargets : s.targets role = targets)
    (hpeers : s.peers role = [])
    (h : (targets = [] ∧ g = none) ∨ (targets ≠ [] ∧
      ∃ cs, criteria field o.targetCriteria targets = .ok cs ∧
        g = some (o.group (role.id o.uid) cs))) : o.Compiles s role g := by
  subst htargets
  rcases h with ⟨hnil, rfl⟩ | ⟨hne, cs, hcs, rfl⟩
  · exact .absent fun hlists => hlists.elim (· hnil) (· hpeers)
  · exact .targets hne hcs

/-- What is built of the peers of a role is what the role compiles to. -/
theorem compiles_peers {peers : List Peer} (hpeers : s.peers role = peers)
    (htargets : s.targets role = [])
    (h : (peers = [] ∧ g = none) ∨ (peers ≠ [] ∧
      ∃ cs, criteria field o.peerCriteria peers = .ok cs ∧
        g = some (o.group (role.id o.uid) cs))) : o.Compiles s role g := by
  subst hpeers
  rcases h with ⟨hnil, rfl⟩ | ⟨hne, cs, hcs, rfl⟩
  · exact .absent fun hlists => hlists.elim (· htargets) (· hnil)
  · exact .peers hne hcs

/-- The groups of a rule are what the lists of the rule's roles are compiled into. -/
theorem compiles_rule {inherits : Bool} {index : Nat} {r : RuleSpec} {p : Rule × List Group}
    (hr : s.rules[index]? = some r) (h : o.rule inherits index r = .ok p) :
    ∃ scope sources destinations,
      p.2 = scope.toList ++ sources.toList ++ destinations.toList ∧
        o.Compiles s (.ruleScope index) scope ∧ o.Compiles s (.source index) sources ∧
        o.Compiles s (.destination index) destinations := by
  obtain ⟨scope, sources, destinations, services, hscope, hsources, hdestinations, -, rfl⟩ :=
    rule_eq_ok h
  refine ⟨scope, sources, destinations, rfl, ?_, ?_, ?_⟩
  · exact compiles_targets (by simp [Spec.targets, hr]) rfl
      ((ruleScope_eq_ok hscope).imp (fun hnone => ⟨hnone.1, hnone.2.2⟩) id)
  · exact compiles_peers (by simp [Spec.peers, hr]) rfl (peerGroup_eq_ok hsources)
  · exact compiles_peers (by simp [Spec.peers, hr]) rfl (peerGroup_eq_ok hdestinations)

/-- Every group that is built for a spec is what the list of one of the roles is compiled into. -/
theorem compiles_of_mem {built : Built} (h : o.objects s = .ok built) {x : Group}
    (hx : x ∈ built.groups) : ∃ role, o.Compiles s role (some x) := by
  obtain ⟨scope, rules, hscope, hrules, rfl⟩ := objects_eq_ok h
  have hone : ∀ {role : GroupRole} {g : Option Group}, o.Compiles s role g → x ∈ g.toList →
      ∃ role, o.Compiles s role (some x) := by
    intro role g hg hxg
    obtain rfl := Option.mem_toList.1 hxg
    exact ⟨role, hg⟩
  rcases List.mem_append.1 hx with hx | hx
  · have hcompiles : o.Compiles s .policyScope scope := compiles_targets rfl rfl hscope
    exact hone hcompiles hx
  · obtain ⟨p, hp, hxp⟩ := List.mem_flatMap.1 hx
    obtain ⟨⟨r, index⟩, hq, hrule⟩ := exists_of_mem_right hrules hp
    obtain ⟨scope', sources, destinations, hgroups, hscope', hsources, hdestinations⟩ :=
      compiles_rule (List.mem_zipIdx_iff_getElem?.1 hq) hrule
    rw [hgroups, List.mem_append, List.mem_append] at hxp
    rcases hxp with (hxp | hxp) | hxp
    · exact hone hscope' hxp
    · exact hone hsources hxp
    · exact hone hdestinations hxp

/-- What the list of a role is compiled into is among what is built. -/
theorem exists_compiled {built : Built} (h : o.objects s = .ok built) (role : GroupRole) :
    ∃ g, o.Compiles s role g ∧ ∀ x ∈ g.toList, x ∈ built.groups := by
  obtain ⟨scope, rules, hscope, hrules, rfl⟩ := objects_eq_ok h
  -- what there is for a role of a rule is among the groups of the rule
  have hrule : ∀ index : Nat, (s.rules[index]? = none → ¬ s.Lists role) →
      (∀ scope sources destinations, o.Compiles s (.ruleScope index) scope →
        o.Compiles s (.source index) sources → o.Compiles s (.destination index) destinations →
        ∃ g, o.Compiles s role g ∧
          g.toList ⊆ scope.toList ++ sources.toList ++ destinations.toList) →
      ∃ g, o.Compiles s role g ∧ ∀ x ∈ g.toList, x ∈ (o.builtOf s scope rules).groups := by
    intro index hnone hparts
    cases hr : s.rules[index]? with
    | none => exact ⟨none, .absent (hnone hr), nofun⟩
    | some r =>
      have hplace : (r, index) ∈ s.rules.zipIdx := List.mem_zipIdx_iff_getElem?.2 hr
      obtain ⟨p, hp, hrule⟩ := exists_of_mem_right hrules.flip hplace
      obtain ⟨scope', sources, destinations, hgroups, hscope', hsources, hdestinations⟩ :=
        compiles_rule hr hrule
      obtain ⟨g, hg, hsub⟩ := hparts _ _ _ hscope' hsources hdestinations
      refine ⟨g, hg, fun x hx => List.mem_append_right _ (List.mem_flatMap.2 ⟨p, hp, ?_⟩)⟩
      rw [hgroups]
      exact hsub hx
  cases role with
  | policyScope =>
    exact ⟨scope, compiles_targets rfl rfl hscope, fun x hx => List.mem_append_left _ hx⟩
  | ruleScope index =>
    refine hrule index (fun hnone => by simp [Spec.Lists, Spec.targets, Spec.peers, hnone]) ?_
    intro scope' _ _ hscope' _ _
    exact ⟨scope', hscope', fun x hx => List.mem_append_left _ (List.mem_append_left _ hx)⟩
  | source index =>
    refine hrule index (fun hnone => by simp [Spec.Lists, Spec.targets, Spec.peers, hnone]) ?_
    intro _ sources _ _ hsources _
    exact ⟨sources, hsources, fun x hx => List.mem_append_left _ (List.mem_append_right _ hx)⟩
  | destination index =>
    refine hrule index (fun hnone => by simp [Spec.Lists, Spec.targets, Spec.peers, hnone]) ?_
    intro _ _ destinations _ _ hdestinations
    exact ⟨destinations, hdestinations, fun x hx => List.mem_append_right _ hx⟩

/-- What is built for a role: a group under the role's identity that stands for what the role's list
is about, or nothing when there is no list. -/
structure Realizes (o : Origin) (s : Spec) (role : GroupRole) (g : Option Group) : Prop where
  group : ∀ x ∈ g, x.id = role.id o.uid ∧ s.Lists role ∧
    x.Means (s.admits o.cluster o.ownNamespace role)
  isSome : s.Lists role → g.isSome = true

/-- The group of a list is what is built for the role that the list belongs to. -/
theorem realizes_list {α : Type} {one : String → α → Except Defect (List (List Term))}
    {R : α → Member → Bool} {xs : List α} {cs : List (List Term)} (hlists : s.Lists role)
    (hadmits : ∀ m, s.admits o.cluster o.ownNamespace role m = xs.any (R · m)) (hne : xs ≠ [])
    (hcs : criteria field one xs = .ok cs)
    (hone : ∀ field x cs, one field x = .ok cs → Selects cs (R x) ∧ cs ≠ []) :
    o.Realizes s role (some (o.group (role.id o.uid) cs)) := by
  obtain ⟨hselects, hsome⟩ := selects_criteria hcs hne hone
  refine ⟨fun x hx => ?_, fun _ => rfl⟩
  obtain rfl := Option.mem_some.1 hx
  exact ⟨rfl, hlists, (hselects.congr hadmits).means hsome o _⟩

/-- What a list is compiled into stands for what the list is about. -/
theorem Compiles.realizes (h : o.Compiles s role g) : o.Realizes s role g := by
  cases h with
  | absent h => exact ⟨nofun, fun hlists => absurd hlists h⟩
  | targets hne hcs =>
    refine realizes_list (.inl hne) (fun m => ?_) hne hcs fun _ _ _ => selects_target
    rw [Spec.admits, s.peers_eq_nil hne, List.any_nil, Bool.or_false]
  | peers hne hcs =>
    refine realizes_list (.inr hne) (fun m => ?_) hne hcs fun _ _ _ => selects_peer
    rw [Spec.admits, s.targets_eq_nil hne, List.any_nil, Bool.false_or]

/-- Every group that is built for a spec is what is built for one of the roles. -/
theorem exists_role_of_objects {built : Built} (h : o.objects s = .ok built) :
    ∀ x ∈ built.groups, ∃ role, x.id = role.id o.uid ∧ s.Lists role ∧
      x.Means (s.admits o.cluster o.ownNamespace role) := by
  intro x hx
  obtain ⟨role, hcompiles⟩ := compiles_of_mem h hx
  exact ⟨role, hcompiles.realizes.group x rfl⟩

/-- A group is built for every role that has a list. -/
theorem exists_group_of_objects {built : Built} (h : o.objects s = .ok built)
    (hlists : s.Lists role) : ∃ x ∈ built.groups, x.id = role.id o.uid := by
  obtain ⟨g, hg, hmem⟩ := exists_compiled h role
  obtain ⟨x, rfl⟩ := Option.isSome_iff_exists.1 (hg.realizes.isSome hlists)
  exact ⟨x, hmem x (by simp), (hg.realizes.group x rfl).1⟩

end Origin

namespace Builder

variable {b : Builder} {r : Resource} {built : Built}

/-- **Selections.** The groups that a resource is built into are those of its lists that are not
empty. The expression of each is a proper one, and a member meets it exactly when the list is about
the member. -/
theorem groups_select (hb : b.build r = .ok built) :
    ∃ uid ownNamespace, r.metadata.uid = some uid ∧ r.metadata.ownNamespace = some ownNamespace ∧
      (∀ g ∈ built.groups, ∃ role, g.id = role.id uid ∧ r.spec.Lists role ∧
        g.Means (r.spec.admits b.cluster ownNamespace role)) ∧
      ∀ role, r.spec.Lists role → ∃ g ∈ built.groups, g.id = role.id uid ∧
        g.Means (r.spec.admits b.cluster ownNamespace role) := by
  obtain ⟨o, ho, hbuilt⟩ := build_eq_ok hb
  obtain ⟨huid, hcluster, -⟩ := origin_eq_ok ho
  have hall := Origin.exists_role_of_objects hbuilt
  rw [hcluster] at hall
  refine ⟨o.uid, o.ownNamespace, huid, ownNamespace_of_origin ho, hall, fun role hlists => ?_⟩
  obtain ⟨g, hg, hid⟩ := Origin.exists_group_of_objects hbuilt hlists
  -- the group stands for the list of some role, and its identity says which
  obtain ⟨role', hid', -, hmeans⟩ := hall g hg
  obtain rfl : role' = role := GroupRole.id_injective o.uid (hid'.symm.trans hid)
  exact ⟨g, hg, hid, hmeans⟩

/-- A policy for labelled pods and for labelled machines, with a rule for traffic from all pods: a
pod of the namespace with the label meets the first group, and any pod of the cluster the second. -/
theorem groups_select_mixed :
    let b : Builder := ⟨"k", "default"⟩
    let r : Resource := {
      metadata := { name := some "web", ownNamespace := some "shop", uid := some "u" }
      spec := {
        appliedTo := [{ pods := some (.ofList [("app", "web")]) },
          { machines := some (.ofList [("os", "linux")]) }]
        rules := [{ sources := [{ namespaces := some .empty }] }] } }
    let pod : Member := ⟨"SegmentPort", .ofList ["app|web", "netfence/namespace|shop"]⟩
    let stranger : Member := ⟨"SegmentPort", .ofList ["netfence/cluster|k"]⟩
    ∃ built, b.build r = .ok built ∧
      (∃ g ∈ built.groups, g.id = "sp_u_scope" ∧ WellFormed g.expression ∧
        pod.meets g.expression = true ∧ stranger.meets g.expression = false) ∧
      ∃ g ∈ built.groups, g.id = "sp_u_0_src" ∧ WellFormed g.expression ∧
        pod.meets g.expression = false ∧ stranger.meets g.expression = true := by
  intro b r pod stranger
  obtain ⟨built, hb⟩ : ∃ built, b.build r = .ok built := ⟨_, rfl⟩
  obtain ⟨uid, ownNamespace, huid, hns, -, hselect⟩ := groups_select hb
  cases huid
  cases hns
  obtain ⟨g, hg, hid, hproper, hmeets⟩ := hselect .policyScope (.inl (List.cons_ne_nil _ _))
  obtain ⟨g', hg', hid', hproper', hmeets'⟩ := hselect (.source 0) (.inr (List.cons_ne_nil _ _))
  exact ⟨built, hb, ⟨g, hg, hid, hproper, (hmeets pod).trans (by decide),
      (hmeets stranger).trans (by decide)⟩,
    g', hg', hid', hproper', (hmeets' pod).trans (by decide), (hmeets' stranger).trans (by decide)⟩

end Builder

end FirewallOperator
