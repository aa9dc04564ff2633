import FirewallOperator.Proofs.Selections

/-! # Where groups look for their members

A resource is declared in one namespace. Its targets are the workloads of that namespace, and a peer
is looked for there too, unless it names the labels of other namespaces to look in. In a group the
place is asked of pods, and never of virtual machines, so these are met wherever they are. A peer
that names machines and namespaces also brings in all pods of the namespaces.

`Builder.groups_confined_iff` says of every group, entry by entry of the list that it is built of,
when the place is kept all the same: when the labels of the machines repeat it, and no pods are
brought in that were not asked for. -/

namespace FirewallOperator

/-! ## Places -/

/-- Whether a member is where a peer is looked for: in the resource's namespace, or in a namespace
with all labels. -/
def Peer.places (p : Peer) (ownNamespace : String) (m : Member) : Bool :=
  match p.namespaces with
  | none => m.hasTag "netfence/namespace" ownNamespace
  | some namespaces => m.carries "netfence/ns-label/" namespaces

/-- Whether a member meets one of the blocks that stand between the `OR`s of an expression. -/
def Member.meetsSome (m : Member) (blocks : List (List Term)) : Bool := blocks.any m.meetsAll

/-- What stands for a peer in an expression keeps to the places of the peer, and brings in no pods
when only the machines of some namespaces are asked for. -/
structure Peer.Confines (p : Peer) (ownNamespace : String) (blocks : List (List Term)) : Prop where
  placed : ∀ m : Member, m.meetsSome blocks = true → p.places ownNamespace m = true
  podless : p.namespaces.isSome = true → p.machines.isSome = true → p.pods = none →
    ∀ m : Member, m.meetsSome blocks = true → m.type ≠ "SegmentPort"

/-- The labels of a target's machines repeat the namespace. -/
def Target.RepeatsPlace (t : Target) (ownNamespace : String) : Prop :=
  ∀ labels ∈ t.machines, placeValues ownNamespace none ⊆ labelValues "" labels

/-- The labels of a peer's machines repeat the places, and pods are asked for where machines and
namespaces are. -/
structure Peer.RepeatsPlace (p : Peer) (ownNamespace : String) : Prop where
  machines : ∀ labels ∈ p.machines, placeValues ownNamespace p.namespaces ⊆ labelValues "" labels
  pods : p.namespaces.isSome = true → p.machines.isSome = true → p.pods.isSome = true

/-- A member is placed by tags of its own. -/
theorem Peer.places_eq (p : Peer) (ownNamespace : String) (m : Member) :
    p.places ownNamespace m = (placeValues ownNamespace p.namespaces).all m.tags.contains := by
  rw [places]
  cases p.namespaces with
  | none => simp [placeValues, Member.hasTag]
  | some namespaces => simp only [placeValues, carries_eq]

/-- Machines with labels have further tags exactly when these are labels themselves: a machine may
have no tags but its labels. -/
theorem machines_have_iff {labels : Labels} {values : List String} :
    (∀ m : Member, m.type = "VirtualMachine" → m.carries "" labels = true →
      values.all m.tags.contains = true) ↔ values ⊆ labelValues "" labels := by
  constructor
  · intro h value hvalue
    let m : Member := ⟨"VirtualMachine", .ofList (labelValues "" labels)⟩
    have hcarries : m.carries "" labels = true := by
      simp [m, carries_eq, TextSet.contains_ofList]
    have hall := List.all_eq_true.1 (h m rfl hcarries) value hvalue
    simpa [m, TextSet.contains_ofList] using hall
  · intro h m _ hcarries
    rw [carries_eq, List.all_eq_true] at hcarries
    exact List.all_eq_true.2 fun value hvalue => hcarries value (h hvalue)

/-! ## What entries admit -/

namespace Target

variable {t : Target} {ownNamespace : String} {m : Member}

/-- A target is about pods of the namespace only. -/
theorem placed_of_pod (hpod : m.type = "SegmentPort") (h : t.admits ownNamespace m = true) :
    m.hasTag "netfence/namespace" ownNamespace = true := by
  rw [admits, Bool.or_eq_true] at h
  rcases h with h | h
  · cases hpods : t.pods with
    | none => simp [hpods] at h
    | some labels =>
      simp only [hpods, Option.any_some, Bool.and_eq_true] at h
      exact h.2
  · -- machines are no pods
    cases hmachines : t.machines <;> simp [hmachines, hpod] at h

/-- A target is about members of the namespace only when its machines repeat it. -/
theorem admits_placed_iff :
    (∀ m, t.admits ownNamespace m = true → m.hasTag "netfence/namespace" ownNamespace = true) ↔
      t.RepeatsPlace ownNamespace := by
  have hplace : ∀ m : Member, m.hasTag "netfence/namespace" ownNamespace =
      (placeValues ownNamespace none).all m.tags.contains := by
    intro m
    simp [placeValues, Member.hasTag]
  constructor
  -- among the machines that are admitted is one with the labels only, so these have to say the place
  · intro h labels hlabels
    refine machines_have_iff.1 fun m htype hcarries => ?_
    rw [← hplace]
    refine h m ?_
    rw [Option.mem_def] at hlabels
    simp [admits, hlabels, htype, hcarries]
  · intro h m hm
    rw [admits, Bool.or_eq_true] at hm
    rcases hm with hm | hm
    · cases hpods : t.pods with
      | none => simp [hpods] at hm
      | some labels =>
        simp only [hpods, Option.any_some, Bool.and_eq_true] at hm
        exact hm.2
    · cases hmachines : t.machines with
      | none => simp [hmachines] at hm
      | some labels =>
        simp only [hmachines, Option.any_some, Bool.and_eq_true, beq_iff_eq] at hm
        rw [hplace]
        exact machines_have_iff.2 (h labels hmachines) m hm.1 hm.2

end Target

namespace Peer

variable {p : Peer} {cluster ownNamespace : String} {m : Member}

/-- A peer is about the pods that it selects and the virtual machines that it selects. -/
theorem admits_eq_true_iff : p.admits cluster ownNamespace m = true ↔
    ((p.pods.isSome || p.namespaces.isSome) = true ∧ m.type = "SegmentPort" ∧
      m.carries "" (p.pods.getD .empty) = true ∧
      m.isPlaced cluster ownNamespace (p.pods.getD .empty) p.namespaces = true) ∨
    ∃ labels ∈ p.machines, m.type = "VirtualMachine" ∧ m.carries "" labels = true := by
  rw [admits, Bool.or_eq_true]
  refine or_congr ?_ ?_
  · simp only [Bool.and_eq_true, beq_iff_eq, and_assoc]
  · cases p.machines <;> simp

/-- A pod is only looked for in the places of the peer. -/
theorem places_of_isPlaced {labels : Labels}
    (h : m.isPlaced cluster ownNamespace labels p.namespaces = true) :
    p.places ownNamespace m = true := by
  rw [places]
  cases hnamespaces : p.namespaces with
  | none =>
    rw [hnamespaces] at h
    exact h
  | some namespaces =>
    rw [hnamespaces, Member.isPlaced, Bool.and_eq_true] at h
    exact h.1

/-- A pod that a peer is about is in a place that the peer names. -/
theorem places_of_pod (hpod : m.type = "SegmentPort")
    (h : p.admits cluster ownNamespace m = true) : p.places ownNamespace m = true := by
  rcases admits_eq_true_iff.1 h with ⟨-, -, -, hplaced⟩ | ⟨labels, -, htype, -⟩
  · exact places_of_isPlaced hplaced
  · rw [hpod] at htype
    exact absurd htype (by decide)

/-- Where pods are asked for, there can be one. -/
theorem exists_pod_admitted (cluster ownNamespace : String)
    (h : (p.pods.isSome || p.namespaces.isSome) = true) :
    ∃ m : Member, m.type = "SegmentPort" ∧ p.admits cluster ownNamespace m = true := by
  let values := podValues cluster ownNamespace (p.pods.getD .empty) p.namespaces
  let m : Member := ⟨"SegmentPort", .ofList values⟩
  have hall : values.all m.tags.contains = true := by
    simp [m, TextSet.contains_ofList]
  rw [all_podValues, Bool.and_eq_true] at hall
  exact ⟨m, rfl, admits_eq_true_iff.2 (.inl ⟨h, rfl, hall.1, hall.2⟩)⟩

/-- A peer is about members of its places only when its machines repeat them. -/
theorem admits_placed_iff (p : Peer) (cluster ownNamespace : String) :
    (∀ m, p.admits cluster ownNamespace m = true → p.places ownNamespace m = true) ↔
      ∀ labels ∈ p.machines, placeValues ownNamespace p.namespaces ⊆ labelValues "" labels := by
  constructor
  · intro h labels hlabels
    refine machines_have_iff.1 fun m htype hcarries => ?_
    rw [← p.places_eq]
    exact h m (admits_eq_true_iff.2 (.inr ⟨labels, hlabels, htype, hcarries⟩))
  · intro h m hm
    rcases admits_eq_true_iff.1 hm with ⟨-, -, -, hplaced⟩ | ⟨labels, hlabels, htype, hcarries⟩
    · exact places_of_isPlaced hplaced
    · rw [p.places_eq]
      exact machines_have_iff.2 (h labels hlabels) m htype hcarries

/-- A peer of machines in some namespaces is about pods exactly when it does not say which. -/
theorem admits_podless_iff (p : Peer) (cluster ownNamespace : String) :
    (p.namespaces.isSome = true → p.machines.isSome = true → p.pods = none →
      ∀ m, p.admits cluster ownNamespace m = true → m.type ≠ "SegmentPort") ↔
    (p.namespaces.isSome = true → p.machines.isSome = true → p.pods.isSome = true) := by
  refine imp_congr_right fun hnamespaces => imp_congr_right fun _ => ?_
  constructor
  · intro h
    by_contra hpods
    rw [Option.not_isSome_iff_eq_none] at hpods
    have hasked : (p.pods.isSome || p.namespaces.isSome) = true := by simp [hnamespaces]
    obtain ⟨m, htype, hm⟩ := exists_pod_admitted cluster ownNamespace hasked
    exact h hpods m hm htype
  · intro h hpods
    rw [hpods] at h
    cases h

end Peer

/-! ## What stands for an entry -/

/-- Blocks that stand for the members with a property are met by these. -/
theorem Selects.meetsSome {blocks : List (List Term)} {P : Member → Bool} (h : Selects blocks P)
    (m : Member) : m.meetsSome blocks = P m := by
  obtain ⟨criteria, rfl, hP⟩ := h
  rw [Bool.eq_iff_iff, hP]
  simp only [Member.meetsSome, List.any_map, List.any_eq_true, Function.comp_apply,
    Criterion.meetsAll_terms]

/-- What stands for a peer is confined exactly when the peer repeats its places. -/
theorem Peer.confines_iff {p : Peer} {cluster ownNamespace : String} {blocks : List (List Term)}
    (h : ∀ m : Member, m.meetsSome blocks = p.admits cluster ownNamespace m) :
    p.Confines ownNamespace blocks ↔ p.RepeatsPlace ownNamespace := by
  constructor
  · intro hconfines
    refine ⟨(p.admits_placed_iff cluster ownNamespace).1 fun m hm => ?_,
      (p.admits_podless_iff cluster ownNamespace).1 fun hnamespaces hmachines hpods m hm => ?_⟩
    · exact hconfines.placed m ((h m).trans hm)
    · exact hconfines.podless hnamespaces hmachines hpods m ((h m).trans hm)
  · intro hrepeats
    refine ⟨fun m hm => ?_, fun hnamespaces hmachines hpods m hm => ?_⟩
    · exact (p.admits_placed_iff cluster ownNamespace).2 hrepeats.machines m ((h m).symm.trans hm)
    · exact (p.admits_podless_iff cluster ownNamespace).2 hrepeats.pods hnamespaces hmachines hpods m
        ((h m).symm.trans hm)

namespace Origin

variable {o : Origin} {s : Spec} {role : GroupRole} {field : String} {g : Group}

/-- The blocks of a group's expression are the criteria that it is built of. -/
theorem splitOn_group {cs : List (List Term)} {P : Member → Bool} (h : Selects cs P) (hne : cs ≠ [])
    (o : Origin) (id : String) : (o.group id cs).expression.splitOn .or = cs := by
  obtain ⟨criteria, rfl, -⟩ := h
  exact Criterion.splitOn_anyOf (by simpa using hne)

/-- The criteria of a list are those of its entries, one entry after the other. -/
theorem exists_parts {α : Type} {one : String → α → Except Defect (List (List Term))}
    {R : α → Member → Bool} {xs : List α} {cs : List (List Term)}
    (h : criteria field one xs = .ok cs)
    (hone : ∀ field x cs, one field x = .ok cs → Selects cs (R x) ∧ cs ≠ []) :
    ∃ parts, cs = parts.flatten ∧
      List.Forall₂ (fun x part => ∀ m : Member, m.meetsSome part = R x m) xs parts := by
  obtain ⟨parts, rfl, hparts⟩ := criteria_eq_ok h
  exact ⟨parts, rfl, hparts.imp fun x part ⟨_, hone'⟩ => (hone _ _ part hone').1.meetsSome⟩

/-- What a group with a role is built of: the list of targets or of peers that the role has. -/
inductive BuiltOfList (o : Origin) (s : Spec) (role : GroupRole) : Group → Prop
  | targets {field : String} {cs : List (List Term)} (hne : s.targets role ≠ [])
      (hpeers : s.peers role = []) (hcs : criteria field o.targetCriteria (s.targets role) = .ok cs) :
      BuiltOfList o s role (o.group (role.id o.uid) cs)
  | peers {field : String} {cs : List (List Term)} (hne : s.peers role ≠ [])
      (htargets : s.targets role = []) (hcs : criteria field o.peerCriteria (s.peers role) = .ok cs) :
      BuiltOfList o s role (o.group (role.id o.uid) cs)

/-- Every group of a spec is built of one of its lists. -/
theorem builtOfList_of_objects {built : Built} (h : o.objects s = .ok built) :
    ∀ g ∈ built.groups, ∃ role, o.BuiltOfList s role g := by
  intro g hg
  obtain ⟨role, hcompiles⟩ := compiles_of_mem h hg
  refine ⟨role, ?_⟩
  cases hcompiles with
  | targets hne hcs => exact .targets hne (s.peers_eq_nil hne) hcs
  | peers hne hcs => exact .peers hne (s.targets_eq_nil hne) hcs

end Origin

/-- What stands for a peer in a group: blocks that are met by the members that the peer is about.
The pods among these are in the places of the peer, and all of them are when the peer repeats its
places. -/
structure Peer.StandsFor (p : Peer) (cluster ownNamespace : String) (blocks : List (List Term)) :
    Prop where
  meets : ∀ m : Member, m.meetsSome blocks = p.admits cluster ownNamespace m
  pods : ∀ m : Member, m.type = "SegmentPort" → m.meetsSome blocks = true →
    p.places ownNamespace m = true
  confines_iff : p.Confines ownNamespace blocks ↔ p.RepeatsPlace ownNamespace

/-- How far a group keeps to the places of its list: as a whole when it is built of targets, and
peer by peer when it is built of peers. -/
structure Group.KeepsPlaces (g : Group) (s : Spec) (cluster ownNamespace : String)
    (role : GroupRole) : Prop where
  pods : s.targets role ≠ [] → ∀ m : Member, m.type = "SegmentPort" →
    m.meets g.expression = true → m.hasTag "netfence/namespace" ownNamespace = true
  targets : s.targets role ≠ [] →
    ((∀ m : Member, m.meets g.expression = true →
        m.hasTag "netfence/namespace" ownNamespace = true) ↔
      ∀ t ∈ s.targets role, t.RepeatsPlace ownNamespace)
  peers : s.peers role ≠ [] → ∃ parts : List (List (List Term)),
    g.expression.splitOn .or = parts.flatten ∧
    List.Forall₂ (fun p part => p.StandsFor cluster ownNamespace part) (s.peers role) parts

namespace Origin

variable {o : Origin} {s : Spec} {role : GroupRole} {g : Group}

/-- A group that is built of one of the lists keeps to its places as far as the list repeats them. -/
theorem BuiltOfList.keepsPlaces (h : o.BuiltOfList s role g) :
    g.KeepsPlaces s o.cluster o.ownNamespace role := by
  cases h with
  | @targets field cs hne hpeers hcs =>
    obtain ⟨hselects, hcsne⟩ := selects_criteria hcs hne fun _ _ _ hone => selects_target hone
    have hmeets : ∀ m, m.meets (o.group (role.id o.uid) cs).expression =
        (s.targets role).any (·.admits o.ownNamespace m) :=
      (hselects.means hcsne o _).2
    refine ⟨fun _ m hpod hm => ?_, fun _ => ?_, fun hsome => absurd hpeers hsome⟩
    · rw [hmeets] at hm
      obtain ⟨t, -, ht⟩ := List.any_eq_true.1 hm
      exact Target.placed_of_pod hpod ht
    · -- the whole list is placed when each of its targets is
      simp only [hmeets, List.any_eq_true, ← Target.admits_placed_iff]
      constructor
      · intro hall t ht m hm
        exact hall m ⟨t, ht, hm⟩
      · rintro hall m ⟨t, ht, hm⟩
        exact hall t ht m hm
  | @peers field cs hne htargets hcs =>
    refine ⟨fun hsome => absurd htargets hsome, fun hsome => absurd htargets hsome, fun _ => ?_⟩
    obtain ⟨hselects, hcsne⟩ := selects_criteria hcs hne fun _ _ _ hone => selects_peer hone
    obtain ⟨parts, hflat, hparts⟩ := exists_parts hcs fun _ _ _ hone => selects_peer hone
    refine ⟨parts, (splitOn_group hselects hcsne o _).trans hflat, ?_⟩
    refine hparts.imp fun p part hpart => ⟨hpart, fun m hpod hm => ?_, Peer.confines_iff hpart⟩
    exact Peer.places_of_pod hpod ((hpart m).symm.trans hm)

end Origin

namespace Builder

variable {b : Builder} {r : Resource} {built : Built}

/-- **Confinement.** The groups that a resource is built into are those of its lists. The pods that
meet a group are in the resource's namespace, or in the namespaces that the peer names that they
meet. The virtual machines are there too, and a peer of machines in some namespaces brings in no
pods, exactly for the targets and the peers that repeat their places. -/
theorem groups_confined_iff (hb : b.build r = .ok built) :
    ∃ uid ownNamespace, r.metadata.uid = some uid ∧ r.metadata.ownNamespace = some ownNamespace ∧
      ∀ g ∈ built.groups, ∃ role, g.id = role.id uid ∧ r.spec.Lists role ∧
        g.KeepsPlaces r.spec b.cluster ownNamespace role := by
  obtain ⟨o, ho, hbuilt⟩ := build_eq_ok hb
  obtain ⟨huid, hcluster, -⟩ := origin_eq_ok ho
  refine ⟨o.uid, o.ownNamespace, huid, ownNamespace_of_origin ho, fun g hg => ?_⟩
  obtain ⟨role, hrole⟩ := Origin.builtOfList_of_objects hbuilt g hg
  have hkeeps := hrole.keepsPlaces
  rw [hcluster] at hkeeps
  cases hrole with
  | targets hne hpeers hcs => exact ⟨role, rfl, .inl hne, hkeeps⟩
  | peers hne htargets hcs => exact ⟨role, rfl, .inr hne, hkeeps⟩

/-- Pods and machines of a namespace, the machines by a label that repeats it: whatever meets the
group is in the namespace. -/
theorem groups_confined_iff_repeated :
    let b : Builder := ⟨"k", "default"⟩
    let r : Resource := {
      metadata := { name := some "web", ownNamespace := some "shop", uid := some "u" }
      spec := {
        appliedTo := [{ pods := some (.ofList [("app", "web")]) },
          { machines := some (.ofList [("netfence/namespace", "shop"), ("os", "linux")]) }] } }
    ∃ built, b.build r = .ok built ∧ ∃ g ∈ built.groups, g.id = "sp_u_scope" ∧
      ∀ m : Member, m.meets g.expression = true → m.hasTag "netfence/namespace" "shop" = true := by
  intro b r
  obtain ⟨built, hb, g, hg, hid⟩ :
      ∃ built, b.build r = .ok built ∧ ∃ g ∈ built.groups, g.id = "sp_u_scope" :=
    ⟨_, rfl, _, List.mem_cons_self, rfl⟩
  obtain ⟨uid, ownNamespace, huid, hns, hgroups⟩ := groups_confined_iff hb
  cases huid
  cases hns
  obtain ⟨role, hrole, -, hkeeps⟩ := hgroups g hg
  obtain rfl : role = .policyScope := GroupRole.id_injective "u" (hrole.symm.trans hid)
  have hrepeats : ∀ t ∈ r.spec.appliedTo, t.RepeatsPlace "shop" := by
    intro t ht labels hlabels
    rcases List.mem_pair.1 ht with rfl | rfl
    · cases hlabels
    · cases hlabels
      decide
  exact ⟨built, hb, g, hg, hid, (hkeeps.targets (List.cons_ne_nil _ _)).2 hrepeats⟩

/-- A policy for machines of its namespace, with traffic from machines in the namespaces of a team: a
machine that is in neither meets both groups, and all pods of the team meet the second. -/
theorem groups_unconfined_machines :
    let b : Builder := ⟨"k", "default"⟩
    let r : Resource := {
      metadata := { name := some "web", ownNamespace := some "shop", uid := some "u" }
      spec := {
        appliedTo := [{ machines := some (.ofList [("os", "linux")]) }]
        rules := [{ sources := [{ machines := some (.ofList [("app", "db")]),
                                  namespaces := some (.ofList [("team", "a")]) }] }] } }
    let machine : Member := ⟨"VirtualMachine", .ofList ["app|db", "os|linux"]⟩
    let pod : Member := ⟨"SegmentPort", .ofList ["netfence/ns-label/team|a"]⟩
    machine.hasTag "netfence/namespace" "shop" = false ∧
      machine.hasTag "netfence/ns-label/team" "a" = false ∧
      ∃ built, b.build r = .ok built ∧
        (∃ g ∈ built.groups, g.id = "sp_u_scope" ∧ machine.meets g.expression = true) ∧
        ∃ g ∈ built.groups, g.id = "sp_u_0_src" ∧ machine.meets g.expression = true ∧
          pod.meets g.expression = true := by
  intro b r machine pod
  refine ⟨by decide, by decide, _, rfl, ⟨_, List.mem_cons_self, rfl, ?_⟩,
    _, List.mem_cons_of_mem _ List.mem_cons_self, rfl, ?_, ?_⟩
  all_goals decide

end Builder

end FirewallOperator
