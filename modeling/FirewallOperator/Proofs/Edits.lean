import FirewallOperator.Proofs.FunctionTexts
import FirewallOperator.Proofs.Provenance
import FirewallOperator.Proofs.Selections

/-! # Edits of a spec

A selector asks for labels, each a key and a value, and so do the conditions that the builder adds.
In a group such a pair is one text with a bar in the middle, so two different pairs can be written
alike: the label `a|b` with value `c`, and the label `a` with value `b|c`.

`Spec.demands` are the pairs that the list of a role asks for, and `Spec.Chooses` says which
workloads have them. `Builder.update_after_edit` says what becomes of an edit of the spec: the next
update does nothing exactly when policy and rules compare as equal and all lists are written alike,
so an edit that changes the choice of a list is overlooked only where two pairs are written alike. -/

namespace FirewallOperator

/-! ## What selectors ask for -/

/-- A tag as a condition asks for it: its scope and its value, with a bar between. -/
def Tag.joined (t : Tag) : String := t.scope ++ "|" ++ t.value

/-- Tags that are written alike are the same, unless a scope has a bar of its own. -/
theorem Tag.eq_of_joined_eq {t u : Tag} (ht : '|' ∉ t.scope.toList) (hu : '|' ∉ u.scope.toList)
    (h : t.joined = u.joined) : t = u := by
  rw [joined, joined, String.append_assoc, String.append_assoc] at h
  obtain ⟨hscope, hrest⟩ := eq_of_append_stop ht hu (by simp) (by simp) h
  cases t
  cases u
  cases hscope
  cases (String.append_right_inj _).1 hrest
  rfl

/-- A workload with its tags, each a scope and a value. -/
structure Workload where
  type : String
  tags : List Tag

/-- What one selector asks for: tags on members of one type. -/
structure Demand where
  type : String
  tags : List Tag
  deriving DecidableEq, Repr

namespace Demand

/-- A workload is of the type and has all tags. -/
def Admits (d : Demand) (x : Workload) : Prop := x.type = d.type ∧ ∀ t ∈ d.tags, t ∈ x.tags

/-- What is left of a demand in a group: the type, and the text of each tag. -/
def written (d : Demand) : String × List String := (d.type, d.tags.map Tag.joined)

end Demand

/-- Labels as tags, under scopes that start with the given text. -/
def labelTags (scope : String) (labels : Labels) : List Tag :=
  labels.entries.map fun e => ⟨scope ++ e.1, e.2⟩

/-- What is asked of pods: all labels, and the resource's namespace or all labels of a namespace.
Without any label that is the cluster. -/
def podDemand (cluster ownNamespace : String) (labels : Labels) (namespaces : Option Labels) :
    Demand where
  type := podMember
  tags :=
    let place :=
      match namespaces with
      | none => [⟨Tag.namespaceScope, ownNamespace⟩]
      | some ls => labelTags Tag.namespaceLabelScope ls
    match labelTags "" labels ++ place with
    | [] => [⟨Tag.clusterScope, cluster⟩]
    | tags => tags

/-- What is asked of virtual machines: all labels. -/
def machineDemand (labels : Labels) : Demand := ⟨machineMember, labelTags "" labels⟩

/-- What a target asks for. -/
def Target.demands (t : Target) (cluster ownNamespace : String) : List Demand :=
  t.pods.toList.map (podDemand cluster ownNamespace · none) ++ t.machines.toList.map machineDemand

/-- What a peer asks for. -/
def Peer.demands (p : Peer) (cluster ownNamespace : String) : List Demand :=
  (if p.pods.isSome || p.namespaces.isSome then
      [podDemand cluster ownNamespace (p.pods.getD .empty) p.namespaces]
    else []) ++ p.machines.toList.map machineDemand

namespace Spec

variable (s : Spec) (cluster ownNamespace : String) (role : GroupRole)

/-- What the list of a role asks for. -/
def demands : List Demand :=
  (s.targets role).flatMap (·.demands cluster ownNamespace)
    ++ (s.peers role).flatMap (·.demands cluster ownNamespace)

/-- The list of a role is about a workload: the workload has what one of its selectors asks for. -/
def Chooses (x : Workload) : Prop := ∃ d ∈ s.demands cluster ownNamespace role, d.Admits x

/-- The list of a role asks for a tag. -/
def AsksFor (t : Tag) : Prop := ∃ d ∈ s.demands cluster ownNamespace role, t ∈ d.tags

/-- The lists of a role are written alike in two specs. -/
def WrittenAlike (s' : Spec) : Prop :=
  (s.demands cluster ownNamespace role).map Demand.written =
    (s'.demands cluster ownNamespace role).map Demand.written

/-- The lists of a role differ in two specs: only one has a list, or only one list is about some
workload. -/
def Differs (s' : Spec) : Prop :=
  ¬ (s.Lists role ↔ s'.Lists role) ∨
    ∃ x, ¬ (s.Chooses cluster ownNamespace role x ↔ s'.Chooses cluster ownNamespace role x)

variable {s cluster ownNamespace role} {s' : Spec}

/-- A list that is not there asks for nothing. -/
theorem demands_eq_nil (h : ¬ s.Lists role) : s.demands cluster ownNamespace role = [] := by
  rw [Lists, not_or, not_not, not_not] at h
  rw [demands, h.1, h.2]
  rfl

/-- If lists are written alike in one spec and another, so they are the other way round. -/
theorem WrittenAlike.symm (h : s.WrittenAlike cluster ownNamespace role s') :
    s'.WrittenAlike cluster ownNamespace role s := Eq.symm h

/-- A workload that only the first of two lists is about, which are written alike, has a tag that is
written as one it lacks. -/
theorem WrittenAlike.exists_alike (h : s.WrittenAlike cluster ownNamespace role s') {x : Workload}
    (hx : s.Chooses cluster ownNamespace role x) (hx' : ¬ s'.Chooses cluster ownNamespace role x) :
    ∃ t u, s.AsksFor cluster ownNamespace role t ∧ s'.AsksFor cluster ownNamespace role u ∧
      t ≠ u ∧ t.joined = u.joined := by
  obtain ⟨d, hd, htype, htags⟩ := hx
  have hmem : d.written ∈ (s'.demands cluster ownNamespace role).map Demand.written :=
    h ▸ List.mem_map_of_mem hd
  obtain ⟨d', hd', hwritten⟩ := List.mem_map.1 hmem
  have htype' : d'.type = d.type := congrArg Prod.fst hwritten
  have htags' : d'.tags.map Tag.joined = d.tags.map Tag.joined := congrArg Prod.snd hwritten
  -- the selector at the same place asks for the same texts, but for a tag that is not there
  obtain ⟨u, hu, hlacks⟩ : ∃ u ∈ d'.tags, u ∉ x.tags := by
    by_contra hnone
    push Not at hnone
    exact hx' ⟨d', hd', htype.trans htype'.symm, hnone⟩
  have hjoined : u.joined ∈ d.tags.map Tag.joined := htags' ▸ List.mem_map_of_mem hu
  obtain ⟨t, ht, htu⟩ := List.mem_map.1 hjoined
  have hne : t ≠ u := by
    rintro rfl
    exact hlacks (htags t ht)
  exact ⟨t, u, ⟨d, hd, ht⟩, ⟨d', hd', hu⟩, hne, htu⟩

/-- Lists that differ although they are written alike ask for two tags that are written alike. -/
theorem WrittenAlike.exists_alike_of_differs (h : s.WrittenAlike cluster ownNamespace role s')
    (hlists : s.Lists role ↔ s'.Lists role) (hdiffers : s.Differs cluster ownNamespace role s') :
    ∃ t u, s.AsksFor cluster ownNamespace role t ∧ s'.AsksFor cluster ownNamespace role u ∧
      t ≠ u ∧ t.joined = u.joined := by
  rcases hdiffers with hdiffers | ⟨x, hx⟩
  · exact absurd hlists hdiffers
  rcases (xor_iff_not_iff _ _).2 hx with ⟨hfirst, hsecond⟩ | ⟨hsecond, hfirst⟩
  · exact h.exists_alike hfirst hsecond
  · obtain ⟨u, t, hu, ht, hne, hjoined⟩ := h.symm.exists_alike hsecond hfirst
    exact ⟨t, u, ht, hu, hne.symm, hjoined.symm⟩

end Spec

/-! ## What selectors are written as -/

namespace Criterion

/-- What is left of a selector in a criterion. -/
def written (c : Criterion) : String × List String := (c.memberType, c.values)

/-- A criterion is known by what is left of its selector. -/
theorem written_injective : Function.Injective written := by
  intro c d h
  cases c
  cases d
  cases h
  rfl

/-- A criterion can be read from its terms. -/
theorem terms_injective : Function.Injective terms := by
  intro c d h
  have hsplit : c.conditions.map ([·]) = d.conditions.map ([·]) := by
    rw [← splitOn_terms, ← splitOn_terms, h]
  have hconditions : c.conditions = d.conditions :=
    List.map_injective_iff.2 (fun _ _ => List.singleton_inj.1) hsplit
  obtain ⟨memberType, values, hc⟩ := c
  obtain ⟨memberType', values', hd⟩ := d
  -- the first condition tells the type
  obtain ⟨v, vs, rfl⟩ := List.exists_cons_of_ne_nil hc
  obtain ⟨v', vs', rfl⟩ := List.exists_cons_of_ne_nil hd
  simp only [conditions, List.map_cons, List.cons.injEq, Term.condition.injEq] at hconditions
  obtain ⟨⟨rfl, -, -, rfl⟩, hrest⟩ := hconditions
  obtain rfl := List.map_injective_iff.2 (fun _ _ hvalue => (Term.condition.inj hvalue).2.2.2) hrest
  rfl

/-- Criteria can be read from what is built of them. -/
theorem anyOf_inj {cs ds : List Criterion} (hc : cs ≠ []) (hd : ds ≠ []) :
    anyOf (cs.map terms) = anyOf (ds.map terms) ↔ cs = ds := by
  constructor
  · intro h
    have hterms : cs.map terms = ds.map terms := by
      rw [← splitOn_anyOf hc, ← splitOn_anyOf hd, h]
    exact List.map_injective_iff.2 terms_injective hterms
  · rintro rfl
    rfl

end Criterion

/-- Criteria are what is left of demands. -/
def Writes (cs : List (List Term)) (ds : List Demand) : Prop :=
  ∃ criteria : List Criterion, cs = criteria.map Criterion.terms ∧
    criteria.map Criterion.written = ds.map Demand.written

namespace Writes

variable {cs cs' : List (List Term)} {ds ds' : List Demand}

/-- No criteria are what is left of no demands. -/
theorem nil : Writes [] [] := ⟨[], rfl, rfl⟩

/-- Criteria of two lists are what is left of the demands of both. -/
theorem append (h : Writes cs ds) (h' : Writes cs' ds') : Writes (cs ++ cs') (ds ++ ds') := by
  obtain ⟨criteria, rfl, hwritten⟩ := h
  obtain ⟨criteria', rfl, hwritten'⟩ := h'
  exact ⟨criteria ++ criteria', by rw [List.map_append],
    by rw [List.map_append, List.map_append, hwritten, hwritten']⟩

/-- The criteria of the members of a list are what is left of the demands of all. -/
theorem flatten {α : Type} {f : α → List Demand} {xs : List α} {css : List (List (List Term))}
    (h : List.Forall₂ (fun x cs => Writes cs (f x)) xs css) :
    Writes css.flatten (xs.flatMap f) := by
  induction h with
  | nil => exact nil
  | cons hx _ ih => exact hx.append ih

/-- One criterion for one demand. -/
theorem singleton {d : Demand} {values : List String} (hne : values ≠ [])
    (h : d.tags.map Tag.joined = values) :
    Writes [allOf (values.map (.condition d.type "Tag" "EQUALS"))] [d] := by
  refine ⟨[⟨d.type, values, hne⟩], rfl, ?_⟩
  rw [List.map_singleton, List.map_singleton, Demand.written, h]
  rfl

/-- What is built of criteria is the same exactly when the same is left of the demands. -/
theorem anyOf_inj (h : Writes cs ds) (h' : Writes cs' ds') (hne : cs ≠ []) (hne' : cs' ≠ []) :
    anyOf cs = anyOf cs' ↔ ds.map Demand.written = ds'.map Demand.written := by
  obtain ⟨criteria, rfl, hwritten⟩ := h
  obtain ⟨criteria', rfl, hwritten'⟩ := h'
  rw [← hwritten, ← hwritten', Criterion.anyOf_inj (by simpa using hne) (by simpa using hne')]
  exact (List.map_injective_iff.2 Criterion.written_injective).eq_iff.symm

end Writes

/-- The texts of labels as tags are the values that labels ask for. -/
theorem map_joined_labelTags (scope : String) (labels : Labels) :
    (labelTags scope labels).map Tag.joined = labelValues scope labels := by
  rw [labelTags, labelValues, List.map_map]
  rfl

/-- The texts of what is asked of pods are the values that pods are asked for. -/
theorem map_joined_podDemand (cluster ownNamespace : String) (labels : Labels)
    (namespaces : Option Labels) :
    (podDemand cluster ownNamespace labels namespaces).tags.map Tag.joined =
      podValues cluster ownNamespace labels namespaces := by
  -- there are tags exactly where there are texts, so the cluster is asked for in the same cases
  have hplace : ∀ place : List Tag,
      (match labelTags "" labels ++ place with
        | [] => [(⟨Tag.clusterScope, cluster⟩ : Tag)]
        | tags => tags).map Tag.joined =
      if (labelValues "" labels ++ place.map Tag.joined).isEmpty then
        ["netfence/cluster" ++ "|" ++ cluster]
      else labelValues "" labels ++ place.map Tag.joined := by
    intro place
    rw [← map_joined_labelTags, ← List.map_append]
    cases labelTags "" labels ++ place <;> rfl
  rw [podValues]
  cases namespaces with
  | none => exact hplace [⟨Tag.namespaceScope, ownNamespace⟩]
  | some ls =>
    have hlabels := hplace (labelTags Tag.namespaceLabelScope ls)
    rw [map_joined_labelTags] at hlabels
    exact hlabels

/-- The criterion for pods is what is left of what is asked of them. -/
theorem writes_pods (cluster ownNamespace : String) (labels : Labels)
    (namespaces : Option Labels) :
    Writes [allOf (podConditions cluster ownNamespace labels namespaces)]
      [podDemand cluster ownNamespace labels namespaces] := by
  rw [podConditions_eq]
  exact .singleton (podValues_ne_nil _ _ _ _) (map_joined_podDemand _ _ _ _)

namespace Origin

variable {o : Origin} {field : String}

/-- The criterion for virtual machines is what is left of what is asked of them. -/
theorem writes_machines {machines : Option Labels}
    (h : ∀ labels ∈ machines, labels.isEmpty = false) :
    Writes (machines.toList.map fun labels => allOf (labelConditions machineMember "" labels))
      (machines.toList.map machineDemand) := by
  cases machines with
  | none => exact .nil
  | some labels =>
    rw [Option.toList_some, List.map_singleton, List.map_singleton, labelConditions_eq]
    refine Writes.singleton (d := machineDemand labels) (fun hnil => ?_) (map_joined_labelTags _ _)
    have hsome := h labels rfl
    rw [← isEmpty_labelValues "", hnil] at hsome
    cases hsome

/-- The criteria of a target are what is left of what it asks for. -/
theorem writes_target {t : Target} {cs : List (List Term)}
    (h : o.targetCriteria field t = .ok cs) : Writes cs (t.demands o.cluster o.ownNamespace) := by
  obtain ⟨-, hlabelled, rfl⟩ := targetCriteria_eq_ok h
  refine Writes.append ?_ (writes_machines hlabelled)
  cases t.pods with
  | none => exact .nil
  | some labels => exact writes_pods _ _ _ _

/-- The criteria of a peer are what is left of what it asks for. -/
theorem writes_peer {p : Peer} {cs : List (List Term)} (h : o.peerCriteria field p = .ok cs) :
    Writes cs (p.demands o.cluster o.ownNamespace) := by
  obtain ⟨-, hlabelled, rfl⟩ := peerCriteria_eq_ok h
  refine Writes.append ?_ (writes_machines hlabelled)
  split
  · exact writes_pods _ _ _ _
  · exact .nil

/-- The criteria of a list are what is left of the demands of its members. -/
theorem writes_criteria {α : Type} {one : String → α → Except Defect (List (List Term))}
    {f : α → List Demand} {xs : List α} {cs : List (List Term)} (h : criteria field one xs = .ok cs)
    (hone : ∀ field x cs, one field x = .ok cs → Writes cs (f x)) :
    Writes cs (xs.flatMap f) := by
  obtain ⟨parts, rfl, hparts⟩ := criteria_eq_ok h
  exact .flatten (hparts.imp fun x part ⟨_, hone'⟩ => hone _ _ _ hone')

/-! ## Groups of lists that are written alike -/

variable {s s' : Spec} {role : GroupRole} {first second : Built} {x y : Group}

/-- The group of a list is put together from what is left of the list's demands. -/
theorem Compiles.writes (h : o.Compiles s role (some x)) :
    ∃ cs, cs ≠ [] ∧ x = o.group (role.id o.uid) cs ∧
      Writes cs (s.demands o.cluster o.ownNamespace role) := by
  cases h with
  | @targets field cs hne hcs =>
    refine ⟨cs, (selects_criteria hcs hne fun _ _ _ => selects_target).2, rfl, ?_⟩
    rw [Spec.demands, s.peers_eq_nil hne, List.flatMap_nil, List.append_nil]
    exact writes_criteria hcs fun _ _ _ => writes_target
  | @peers field cs hne hcs =>
    refine ⟨cs, (selects_criteria hcs hne fun _ _ _ => selects_peer).2, rfl, ?_⟩
    rw [Spec.demands, s.targets_eq_nil hne, List.flatMap_nil, List.nil_append]
    exact writes_criteria hcs fun _ _ _ => writes_peer

/-- The groups of two lists for one role do the same exactly when the lists are written alike. -/
theorem Compiles.agrees_iff (hx : o.Compiles s role (some x)) (hy : o.Compiles s' role (some y)) :
    x.Agrees y ↔ s.WrittenAlike o.cluster o.ownNamespace role s' := by
  obtain ⟨cs, hne, rfl, hwrites⟩ := hx.writes
  obtain ⟨cs', hne', rfl, hwrites'⟩ := hy.writes
  rw [Spec.WrittenAlike, ← hwrites.anyOf_inj hwrites' hne hne']
  exact ⟨fun h => h.expression, fun h => ⟨rfl, h, .refl _⟩⟩

/-- A group under the identity of a role is what the role's list is compiled into. -/
theorem compiles_of_id (h : o.objects s = .ok first) (hx : x ∈ first.groups)
    (hid : x.id = role.id o.uid) : o.Compiles s role (some x) := by
  obtain ⟨role', hcompiles⟩ := compiles_of_mem h hx
  have hid' : x.id = role'.id o.uid := (hcompiles.realizes.group x rfl).1
  obtain rfl : role' = role := GroupRole.id_injective o.uid (hid'.symm.trans hid)
  exact hcompiles

/-- In a spec that is built, a list that is not empty asks for something. -/
theorem demands_eq_nil_iff (h : o.objects s = .ok first) :
    s.demands o.cluster o.ownNamespace role = [] ↔ ¬ s.Lists role := by
  refine ⟨fun hnil hlists => ?_, Spec.demands_eq_nil⟩
  obtain ⟨x, hx, hid⟩ := exists_group_of_objects h hlists
  obtain ⟨cs, hne, -, criteria, rfl, hwritten⟩ := (compiles_of_id h hx hid).writes
  -- without demands there would be no criteria either
  rw [hnil, List.map_nil, List.map_eq_nil_iff] at hwritten
  exact hne (hwritten ▸ rfl)

section Groups

variable (h : o.objects s = .ok first) (h' : o.objects s' = .ok second)
include h h'

/-- Where lists are written alike, both are there or neither is. -/
theorem lists_iff (halike : s.WrittenAlike o.cluster o.ownNamespace role s') :
    s.Lists role ↔ s'.Lists role := by
  rw [← not_iff_not, ← demands_eq_nil_iff h, ← demands_eq_nil_iff h', ← List.map_eq_nil_iff, halike,
    List.map_eq_nil_iff]

/-- Of groups that compare as equal, lists for the same role are written alike. -/
theorem writtenAlike_of_settled (hdigest : Set.InjOn digest
      (Managed.functionText '' {g | g ∈ first.groups ∨ g ∈ second.groups}))
    (hsettled : Settled first.groups second.groups) (hlists : s.Lists role) :
    s'.Lists role ∧ s.WrittenAlike o.cluster o.ownNamespace role s' := by
  obtain ⟨x, hx, hid⟩ := exists_group_of_objects h hlists
  obtain ⟨y, hy, hsig⟩ := List.mem_map.1 (hsettled.mem_iff.1 (List.mem_map_of_mem hx))
  have hyx : y.id = x.id := congrArg Prod.fst hsig
  have hcx := compiles_of_id h hx hid
  have hcy := compiles_of_id h' hy (hyx.trans hid)
  have htext : x.functionText = y.functionText :=
    hdigest (Set.mem_image_of_mem _ (.inl hx)) (Set.mem_image_of_mem _ (.inr hy))
      (congrArg Prod.snd hsig).symm
  exact ⟨(hcy.realizes.group y rfl).2.1,
    (hcx.agrees_iff hcy).1 ((Group.functionText_eq_iff hyx.symm).1 htext)⟩

/-- Where all lists are written alike, each group has a counterpart that compares as equal. -/
theorem exists_counterpart (halike : ∀ role, s.WrittenAlike o.cluster o.ownNamespace role s')
    (hx : x ∈ first.groups) : ∃ y ∈ second.groups, signature x = signature y := by
  obtain ⟨role, hcx⟩ := compiles_of_mem h hx
  have hlists : s'.Lists role := (lists_iff h h' (halike role)).1 (hcx.realizes.group x rfl).2.1
  obtain ⟨y, hy, hid⟩ := exists_group_of_objects h' hlists
  have hyx : x.id = y.id := (hcx.realizes.group x rfl).1.trans hid.symm
  have hagrees := (hcx.agrees_iff (compiles_of_id h' hy hid)).2 (halike role)
  have htext : x.functionText = y.functionText := (Group.functionText_eq_iff hyx).2 hagrees
  exact ⟨y, hy, Prod.ext hyx (congrArg digest htext)⟩

/-- Groups of two specs compare as equal exactly when all lists are written alike. -/
theorem settled_groups_iff (hdigest : Set.InjOn digest
      (Managed.functionText '' {g | g ∈ first.groups ∨ g ∈ second.groups})) :
    Settled first.groups second.groups ↔
      ∀ role, s.WrittenAlike o.cluster o.ownNamespace role s' := by
  constructor
  · intro hsettled role
    by_cases hlists : s.Lists role
    · exact (writtenAlike_of_settled h h' hdigest hsettled hlists).2
    by_cases hlists' : s'.Lists role
    · have hdigest' : Set.InjOn digest
          (Managed.functionText '' {g | g ∈ second.groups ∨ g ∈ first.groups}) := by
        simpa only [or_comm] using hdigest
      exact (writtenAlike_of_settled h' h hdigest' (List.Perm.symm hsettled) hlists').2.symm
    · -- a role without a list in either spec has no group, and asks for nothing
      rw [Spec.WrittenAlike, Spec.demands_eq_nil hlists, Spec.demands_eq_nil hlists']
  · intro halike
    refine settled_of_matching (belongs_of_objects h).groups.distinct
      (belongs_of_objects h').groups.distinct (fun y hy => ?_) fun x hx => ?_
    · obtain ⟨x, hx, hsig⟩ := exists_counterpart h' h (fun role => (halike role).symm) hy
      exact ⟨x, hx, hsig.symm⟩
    · obtain ⟨y, hy, hsig⟩ := exists_counterpart h h' halike hx
      exact ⟨y, hy, (congrArg Prod.fst hsig).symm⟩

end Groups

end Origin

/-! ## Updates after an edit -/

namespace Builder

variable {b : Builder} {a : Arrivals} {r₁ r₂ : Resource} {w w' v : World} {first second : Built}

/-- Groups of a resource before and after an edit compare as equal exactly when all lists are written
alike, and these are there both times or neither time. -/
theorem settled_groups_of_edit (hmetadata : r₁.metadata = r₂.metadata)
    (hfirst : b.build r₁ = .ok first) (hsecond : b.build r₂ = .ok second)
    (hdigest : Set.InjOn digest (Managed.functionText '' b.groupsOf {r₁, r₂})) :
    ∃ ownNamespace, r₁.metadata.ownNamespace = some ownNamespace ∧
      (Settled first.groups second.groups ↔
        ∀ role, r₁.spec.WrittenAlike b.cluster ownNamespace role r₂.spec) ∧
      ∀ role, r₁.spec.WrittenAlike b.cluster ownNamespace role r₂.spec →
        (r₁.spec.Lists role ↔ r₂.spec.Lists role) := by
  obtain ⟨o, ho, hobjects⟩ := build_eq_ok hfirst
  obtain ⟨o', ho', hobjects'⟩ := build_eq_ok hsecond
  obtain rfl : o = o' := Except.ok.inj (ho.symm.trans (hmetadata ▸ ho'))
  have hdigest' : Set.InjOn digest
      (Managed.functionText '' {g | g ∈ first.groups ∨ g ∈ second.groups}) := by
    refine hdigest.mono (Set.image_mono ?_)
    rintro g (hg | hg)
    · exact ⟨r₁, by simp, first, hfirst, hg⟩
    · exact ⟨r₂, by simp, second, hsecond, hg⟩
  rw [← (origin_eq_ok ho).2.1]
  exact ⟨o.ownNamespace, ownNamespace_of_origin ho,
    Origin.settled_groups_iff hobjects hobjects' hdigest',
    fun role halike => Origin.lists_iff hobjects hobjects' halike⟩

/-- **Edits.** A resource is realized, and then its spec is edited, so that it can be built again.
The next update sends nothing exactly when policy and rules compare as equal and the lists of each
role are written alike. So if a list is added or taken away, or is about other workloads than
before, then the update sends a request, unless the lists before and after ask for two different
tags that are written alike, which takes a scope with a bar. The digests of different groups are
taken to be different. -/
theorem update_after_edit (hmetadata : r₁.metadata = r₂.metadata)
    (hw : b.Reaches a w.inventory) (hfirst : (b.update r₁).exec w = (.ok (), w'))
    (hv : v.inventory = w'.inventory) (hsecond : b.build r₂ = .ok second)
    (hdigest : Set.InjOn digest (Managed.functionText '' b.groupsOf {r₁, r₂})) :
    ∃ first ownNamespace, b.build r₁ = .ok first ∧ r₁.metadata.ownNamespace = some ownNamespace ∧
      ((b.update r₂).sent v = [] ↔ fingerprint first.policy = fingerprint second.policy ∧
        Settled first.policy.rules second.policy.rules ∧
        ∀ role, r₁.spec.WrittenAlike b.cluster ownNamespace role r₂.spec) ∧
      ∀ role, r₁.spec.Differs b.cluster ownNamespace role r₂.spec →
        (∃ p, (b.update r₂).sent v = [.patchInfra false p]) ∨
          ∃ t u, r₁.spec.AsksFor b.cluster ownNamespace role t ∧
            r₂.spec.AsksFor b.cluster ownNamespace role u ∧ t ≠ u ∧ t.joined = u.joined ∧
            ('|' ∈ t.scope.toList ∨ '|' ∈ u.scope.toList) := by
  obtain ⟨first, hbuilt, hrealizes⟩ := realizes_of_update hw.coherent hfirst
  obtain ⟨ownNamespace, hns, hgroups, hlists⟩ :=
    settled_groups_of_edit hmetadata hbuilt hsecond hdigest
  have hnothing : Change.toBuilt v.inventory (r₂.metadata.uid.getD "") second = none ↔
      fingerprint first.policy = fingerprint second.policy ∧
        Settled first.policy.rules second.policy.rules ∧
        ∀ role, r₁.spec.WrittenAlike b.cluster ownNamespace role r₂.spec := by
    rw [hv, Change.toBuilt_eq_none_iff (hw.updated hfirst).coherent (belongs_of_build hsecond),
      ← hmetadata, hrealizes.iff_settled, hgroups]
  refine ⟨first, ownNamespace, hbuilt, hns, ?_, fun role hdiffers => ?_⟩
  · rw [sent_update, Change.forUpdate_of_build hsecond, ← hnothing]
    cases Change.toBuilt v.inventory (r₂.metadata.uid.getD "") second <;> simp
  · rw [sent_update, Change.forUpdate_of_build hsecond]
    cases hplanned : Change.toBuilt v.inventory (r₂.metadata.uid.getD "") second with
    | some c => exact .inl ⟨_, rfl⟩
    | none =>
      obtain ⟨-, -, halike⟩ := hnothing.1 hplanned
      obtain ⟨t, u, ht, hu, hne, hjoined⟩ :=
        (halike role).exists_alike_of_differs (hlists role (halike role)) hdiffers
      refine .inr ⟨t, u, ht, hu, hne, hjoined, ?_⟩
      -- tags without a bar in their scopes are told apart by their joined texts
      by_contra hbars
      rw [not_or] at hbars
      exact hne (Tag.eq_of_joined_eq hbars.1 hbars.2 hjoined)

/-- A policy without targets gets one, for labelled pods: the next update sends a request. -/
theorem update_after_edit_added :
    let b : Builder := ⟨"k", "default"⟩
    let m : Metadata := { name := some "web", ownNamespace := some "shop", uid := some "u" }
    let r₁ : Resource := { metadata := m, spec := {} }
    let r₂ : Resource := {
      metadata := m, spec := { appliedTo := [{ pods := some (.ofList [("app", "web")]) }] } }
    let x : Workload := ⟨"SegmentPort", [⟨"app", "web"⟩, ⟨"netfence/namespace", "shop"⟩]⟩
    let w := (b.update r₁).after {}
    b.Reaches {} .empty ∧ (b.update r₁).exec {} = (.ok (), w) ∧
      Set.InjOn digest (Managed.functionText '' b.groupsOf {r₁, r₂}) ∧
      ¬ r₁.spec.Chooses "k" "shop" .policyScope x ∧ r₂.spec.Chooses "k" "shop" .policyScope x ∧
      ∃ p, (b.update r₂).sent w = [.patchInfra false p] := by
  intro b m r₁ r₂ x w
  have hreached : b.Reaches {} (World.inventory {}) := .filled rfl
  have hw : (b.update r₁).exec {} = (.ok (), w) := rfl
  obtain ⟨first, hfirst, hnone⟩ : ∃ first, b.build r₁ = .ok first ∧ first.groups = [] :=
    ⟨_, rfl, rfl⟩
  obtain ⟨second, hsecond, g, hone⟩ : ∃ second, b.build r₂ = .ok second ∧ ∃ g, second.groups = [g] :=
    ⟨_, rfl, _, rfl⟩
  -- there is one group, so no two have to be told apart
  have honly : ∀ h ∈ b.groupsOf {r₁, r₂}, h = g := by
    rintro h ⟨r, rfl | rfl, built, hb, hmem⟩
    · obtain rfl := Except.ok.inj (hfirst.symm.trans hb)
      rw [hnone] at hmem
      cases hmem
    · obtain rfl := Except.ok.inj (hsecond.symm.trans hb)
      rw [hone] at hmem
      exact List.mem_singleton.1 hmem
  have hdigest : Set.InjOn digest (Managed.functionText '' b.groupsOf {r₁, r₂}) := by
    rintro _ ⟨h, hh, rfl⟩ _ ⟨h', hh', rfl⟩ -
    rw [honly h hh, honly h' hh']
  have hempty : r₁.spec.demands "k" "shop" .policyScope = [] := rfl
  have hbefore : ¬ r₁.spec.Chooses "k" "shop" .policyScope x := by
    rintro ⟨d, hd, -⟩
    rw [hempty] at hd
    cases hd
  have hafter : r₂.spec.Chooses "k" "shop" .policyScope x :=
    ⟨_, List.mem_cons_self, rfl, by decide⟩
  have hmetadata : r₁.metadata = r₂.metadata := rfl
  have hv : w.inventory = w.inventory := rfl
  obtain ⟨_, ownNamespace, -, hns, -, hsent⟩ :=
    update_after_edit hmetadata hreached hw hv hsecond hdigest
  cases hns
  refine ⟨hreached, hw, hdigest, hbefore, hafter, ?_⟩
  rcases hsent .policyScope (.inr ⟨x, fun h => hbefore (h.2 hafter)⟩) with
    hsent | ⟨t, u, ⟨d, hd, -⟩, -⟩
  · exact hsent
  · rw [hempty] at hd
    cases hd

/-- A policy for the machines with value `c` of `a|b` is edited to be for those with value `b|c` of
`a`. No two of the texts that are compared have the same digest, but nothing is sent, although a
machine with the second label is chosen only now. -/
theorem update_after_edit_overlooked :
    let b : Builder := ⟨"k", "default"⟩
    let m : Metadata := { name := some "web", ownNamespace := some "shop", uid := some "u" }
    let r₁ : Resource := {
      metadata := m, spec := { appliedTo := [{ machines := some (.ofList [("a|b", "c")]) }] } }
    let r₂ : Resource := {
      metadata := m, spec := { appliedTo := [{ machines := some (.ofList [("a", "b|c")]) }] } }
    let x : Workload := ⟨"VirtualMachine", [⟨"a", "b|c"⟩]⟩
    let w := (b.update r₁).after {}
    b.Reaches {} .empty ∧ (b.update r₁).exec {} = (.ok (), w) ∧ (∃ built, b.build r₂ = .ok built) ∧
      Set.InjOn digest (Managed.functionText '' b.policiesOf {r₁, r₂} ∪
        Managed.functionText '' b.rulesOf {r₁, r₂} ∪ Managed.functionText '' b.groupsOf {r₁, r₂}) ∧
      ¬ r₁.spec.Chooses "k" "shop" .policyScope x ∧ r₂.spec.Chooses "k" "shop" .policyScope x ∧
      (b.update r₂).sent w = [] := by
  intro b m r₁ r₂ x w
  have hreached : b.Reaches {} (World.inventory {}) := .filled rfl
  have hw : (b.update r₁).exec {} = (.ok (), w) := rfl
  obtain ⟨built, hfirst, hrules, g, hgroups⟩ : ∃ built, b.build r₁ = .ok built ∧
      built.policy.rules = [] ∧ ∃ g, built.groups = [g] := ⟨_, rfl, rfl, _, rfl⟩
  have hsecond : b.build r₂ = .ok built := hfirst ▸ rfl
  have honly : ∀ r ∈ ({r₁, r₂} : Set Resource), ∀ built', b.build r = .ok built' →
      built' = built := by
    rintro r (rfl | rfl) built' hb'
    · exact Except.ok.inj (hb'.symm.trans hfirst)
    · exact Except.ok.inj (hb'.symm.trans hsecond)
  -- one digest at a time, since the evaluation of both at once takes twice the memory
  have hpolicyPrint : (b.build r₁).toOption.map (fun built => fingerprint built.policy) =
      some "ccb360499cf8529e" := by
    decide +kernel
  have hgroupPrint : (b.build r₁).toOption.map (fun built => built.groups.map fingerprint) =
      some ["f46f21faaf6abae1"] := by
    decide +kernel
  have hdiffer : digest built.policy.functionText ≠ digest g.functionText := by
    rw [hfirst] at hpolicyPrint hgroupPrint
    rw [Except.toOption, Option.map_some, hgroups, List.map_singleton] at hgroupPrint
    have hpolicy : digest built.policy.functionText = "ccb360499cf8529e" :=
      Option.some.inj hpolicyPrint
    have hgroup : digest g.functionText = "f46f21faaf6abae1" :=
      List.singleton_inj.1 (Option.some.inj hgroupPrint)
    rw [hpolicy, hgroup]
    decide
  have htexts : Managed.functionText '' b.policiesOf {r₁, r₂} ∪
      Managed.functionText '' b.rulesOf {r₁, r₂} ∪ Managed.functionText '' b.groupsOf {r₁, r₂} ⊆
      {built.policy.functionText, g.functionText} := by
    rintro _ ((⟨p, ⟨r, hr, built', hb', rfl⟩, rfl⟩ | ⟨y, ⟨r, hr, built', hb', hy⟩, rfl⟩) |
      ⟨h, ⟨r, hr, built', hb', hh⟩, rfl⟩)
    · rw [honly r hr built' hb']
      exact .inl rfl
    · rw [honly r hr built' hb', hrules] at hy
      cases hy
    · rw [honly r hr built' hb', hgroups, List.mem_singleton] at hh
      exact .inr (hh ▸ rfl)
  obtain ⟨built', hb', hrealizes⟩ := realizes_of_update hreached.coherent hw
  obtain rfl := Except.ok.inj (hfirst.symm.trans hb')
  have hcoherent : w.inventory.Coherent := (hreached.updated hw).coherent
  have hnothing : (b.update r₂).exec w = (.ok (), w) :=
    exec_update_of_realizes hcoherent hsecond hrealizes
  refine ⟨hreached, hw, ⟨built, hsecond⟩,
    (Set.injOn_pair.2 fun heq => absurd heq hdiffer).mono htexts, ?_,
    ⟨_, List.mem_cons_self, rfl, by decide⟩, ?_⟩
  · rintro ⟨d, hd, -, htags⟩
    obtain rfl := List.mem_singleton.1 hd
    exact absurd (htags ⟨"a|b", "c"⟩ (by decide)) (by decide)
  · rw [Operation.sent, Operation.after, hnothing, List.drop_length]

end Builder

end FirewallOperator
