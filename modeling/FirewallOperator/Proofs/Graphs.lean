import FirewallOperator.Proofs.References

/-! # The graph of built objects

A policy and its rules refer to groups by paths, and a declared list becomes such a reference. Here
these lists of paths are looked at as a whole: without the paths that stand for every endpoint they
are, in order, the paths of the groups (`Origin.paths_of_objects`), so no reference dangles and no
group is referred to twice. The ports of a rule's services are read back by `portRange?`.
`Builder.graph_exact` puts both together with what a build owes to its resource: identities, places,
owner and tags. -/

namespace FirewallOperator

/-! ## Ports read back -/

/-- The first and the last port that a text means: one port, or a range with a hyphen. -/
def portRange? (s : String) : Option (Nat × Nat) :=
  match s.toList.splitOn '-' with
  | [port] => (String.ofList port).toNat?.map fun n => (n, n)
  | [first, last] => do return (← (String.ofList first).toNat?, ← (String.ofList last).toNat?)
  | _ => none

/-- The first and the last port that are declared. -/
def Port.range (p : Port) : Nat × Nat := (p.port.toNat, (p.last.getD p.port).toNat)

/-- A number is read back from its digits. -/
theorem toNat?_ofList_toString (n : Nat) :
    (String.ofList (toString n).toList).toNat? = some n := by
  rw [String.ofList_toList]
  exact Nat.toNat?_repr n

/-- A single port is a range of one. -/
theorem portRange?_one (n : Nat) : portRange? (toString n) = some (n, n) := by
  have hsplit : (toString n).toList.splitOn '-' = [(toString n).toList] :=
    List.splitOn_eq_singleton (notMem_toString (by decide) n)
  simp only [portRange?, hsplit, toNat?_ofList_toString, Option.map_some]

/-- A range of ports is read back from its ends. -/
theorem portRange?_hyphen (m n : Nat) :
    portRange? (toString m ++ "-" ++ toString n) = some (m, n) := by
  have hsplit : (toString m ++ "-" ++ toString n).toList.splitOn '-' =
      [(toString m).toList, (toString n).toList] := by
    have hm : (toString m).toList.splitOn '-' = [(toString m).toList] :=
      List.splitOn_eq_singleton (notMem_toString (by decide) m)
    have hn : (toString n).toList.splitOn '-' = [(toString n).toList] :=
      List.splitOn_eq_singleton (notMem_toString (by decide) n)
    have happend : (toString m ++ "-" ++ toString n).toList =
        (toString m).toList ++ '-' :: (toString n).toList := by simp
    rw [happend, List.splitOn, List.splitOnP_append_cons _ _ (by decide)]
    exact congrArg₂ (· ++ ·) hm hn
  simp only [portRange?, hsplit, toNat?_ofList_toString]
  rfl

namespace Origin

variable {o : Origin}

/-- The entry of a port means the declared range, under the protocol's name. -/
theorem serviceEntry_eq_ok {field : String} {index : Nat} {p : Port} {e : ServiceEntry}
    (h : serviceEntry field index p = .ok e) :
    e.id = "port_" ++ toString index ∧ e.protocol = p.protocol.name ∧
      e.ports.map portRange? = [some p.range] := by
  rw [serviceEntry] at h
  split at h
  case isTrue => cases h
  case isFalse =>
    cases hlast : p.last with
    | none =>
      rw [hlast] at h
      cases h
      refine ⟨rfl, rfl, ?_⟩
      rw [Port.range, hlast, List.map_singleton, portRange?_one]
      rfl
    | some last =>
      simp only [hlast] at h
      split at h
      case isTrue => cases h
      case isFalse =>
        -- a range of one port is written as the port
        split at h
        case isTrue heq =>
          cases h
          refine ⟨rfl, rfl, ?_⟩
          rw [Port.range, hlast, heq, List.map_singleton, portRange?_one]
          rfl
        case isFalse =>
          cases h
          refine ⟨rfl, rfl, ?_⟩
          rw [Port.range, hlast, List.map_singleton, portRange?_hyphen]
          rfl

/-- The entries of a rule's ports mean the declared ranges in order, each under an identity of its
own. -/
theorem services_of_ports {field : String} {ports : List Port} {services : List ServiceEntry}
    (h : ports.zipIdx.mapM (fun (p, i) => serviceEntry (indexed field i) i p) = .ok services) :
    (services.map (·.id)).Nodup ∧
      services.map (fun e => (e.protocol, e.ports.map portRange?)) =
        ports.map fun p => (p.protocol.name, [some p.range]) := by
  rw [mapM_eq_ok] at h
  have hids : services.map (·.id) = (List.range ports.length).map ("port_" ++ toString ·) := by
    rw [map_eq_of_forall₂ h fun q e hq => (serviceEntry_eq_ok hq).1, List.range_eq_range',
      ← List.zipIdx_map_snd 0 ports, List.map_map]
    rfl
  have hreadings : services.map (fun e => (e.protocol, e.ports.map portRange?)) =
      ports.zipIdx.map fun q => (q.1.protocol.name, [some q.1.range]) :=
    map_eq_of_forall₂ h fun q e hq => by
      obtain ⟨-, hprotocol, hports⟩ := serviceEntry_eq_ok hq
      rw [hprotocol, hports]
  constructor
  · rw [hids]
    refine List.nodup_range.map fun i j hij => ?_
    exact Nat.repr_inj.1 ((String.append_right_inj _).1 hij)
  · rw [hreadings]
    conv_rhs => rw [← List.zipIdx_map_fst 0 ports, List.map_map]
    rfl

end Origin

/-! ## What a build owes to its resource -/

/-- An entry that is there once among all entries is in exactly one of the lists. -/
theorem countP_mem_eq_one {α : Type} [DecidableEq α] {a : α} {lists : List (List α)}
    (h : lists.flatten.count a = 1) : lists.countP (a ∈ ·) = 1 := by
  induction lists with
  | nil => cases h
  | cons l rest ih =>
    rw [List.flatten_cons, List.count_append] at h
    -- a list that has the entry uses it up, so none of the rest has it
    by_cases hmem : a ∈ l
    · have hl : 0 < l.count a := List.count_pos_iff.2 hmem
      have hrest : rest.flatten.count a = 0 := by omega
      have hnone : rest.countP (a ∈ ·) = 0 := by
        rw [List.countP_eq_zero]
        intro l' hl' ha
        exact List.count_eq_zero.1 hrest (List.mem_flatten.2 ⟨l', hl', of_decide_eq_true ha⟩)
      rw [List.countP_cons_of_pos (by simpa using hmem), hnone]
    · rw [List.count_eq_zero.2 hmem, Nat.zero_add] at h
      rw [List.countP_cons_of_neg (by simpa using hmem), ih h]

/-- A rule says what is declared at a place. -/
structure Rule.Renders (x : Rule) (uid : String) (index : Nat) (d : RuleSpec) : Prop where
  id : x.id = ruleId uid index
  sequence : x.sequence = Int64.ofNat index
  /-- One path stands for all workloads and one for all peers of a side. -/
  single : ∀ paths ∈ [x.scope, x.sources, x.destinations], ∃ path, paths = [path]
  scope : x.scope = [anyPath] ↔ d.appliedTo = []
  sources : x.sources = [anyPath] ↔ d.sources = []
  destinations : x.destinations = [anyPath] ↔ d.destinations = []
  distinct : (x.services.map (·.id)).Nodup
  /-- Read back, the services are the declared ranges of ports in order. -/
  services : x.services.map (fun e => (e.protocol, e.ports.map portRange?)) =
    d.ports.map fun p => (p.protocol.name, [some p.range])

/-- Built objects are those of a spec, and refer to each other without gaps or sharing. -/
structure Built.Exact (built : Built) (domain uid : String) (s : Spec) : Prop where
  policy_id : built.policy.id = policyId uid
  rules : List.Forall₂ (fun d x => x.Renders uid d.2 d.1) s.rules.zipIdx built.policy.rules
  policy_scope : built.policy.scope = [] ↔ s.appliedTo = []
  distinct : (built.groups.map (·.id)).Nodup
  /-- A path stands for every endpoint or is that of one built group. -/
  resolved : ∀ paths ∈ built.references, ∀ path ∈ paths,
    path = anyPath ∨ ∃! g, g ∈ built.groups ∧ path = g.path domain
  /-- The path of a built group is in exactly one of the lists. -/
  referenced : ∀ g ∈ built.groups, built.references.countP (g.path domain ∈ ·) = 1
  policy_owner : owner? built.policy = some uid
  rules_owner : ∀ x ∈ built.policy.rules, owner? x = some uid
  groups_owner : ∀ g ∈ built.groups, owner? g = some uid
  rules_tags : ∀ x ∈ built.policy.rules, x.tags = built.policy.tags
  groups_tags : ∀ g ∈ built.groups, g.tags = built.policy.tags

namespace Origin

variable {o : Origin}

/-- A reference is to anything exactly if there is no group. -/
theorem pathOf_eq_anyPath_iff {g : Option Group} : o.pathOf g = anyPath ↔ g = none := by
  cases g with
  | none => exact ⟨fun _ => rfl, fun _ => rfl⟩
  | some g => exact ⟨fun h => absurd h (groupPath_ne_anyPath o.domain g.id), nofun⟩

/-- Every peer is meant exactly when none is listed. -/
theorem peerGroup_eq_none_iff {id field : String} {peers : List Peer} {g : Option Group}
    (h : o.peerGroup id field peers = .ok g) : g = none ↔ peers = [] := by
  rcases peerGroup_eq_ok h with ⟨hnil, hnone⟩ | ⟨hne, cs, -, hsome⟩
  · exact iff_of_true hnone hnil
  · exact iff_of_false (hsome ▸ Option.some_ne_none _) hne

/-- A rule is enforced where its policy is exactly when it lists no targets. -/
theorem ruleScope_eq_none_iff {id field : String} {inherits : Bool} {targets : List Target}
    {g : Option Group} (h : o.ruleScope id field inherits targets = .ok g) :
    g = none ↔ targets = [] := by
  rcases ruleScope_eq_ok h with ⟨hnil, -, hnone⟩ | ⟨hne, cs, -, hsome⟩
  · exact iff_of_true hnone hnil
  · exact iff_of_false (hsome ▸ Option.some_ne_none _) hne

/-- A rule that is built renders the declared one. -/
theorem renders_of_rule {inherits : Bool} {index : Nat} {r : RuleSpec} {p : Rule × List Group}
    (h : o.rule inherits index r = .ok p) : p.1.Renders o.uid index r := by
  obtain ⟨scope, sources, destinations, services, hscope, hsources, hdestinations, hservices,
    rfl⟩ := rule_eq_ok h
  obtain ⟨hdistinct, hreadings⟩ := services_of_ports hservices
  have hany : ∀ g : Option Group, [o.pathOf g] = [anyPath] ↔ g = none := fun g =>
    List.singleton_inj.trans pathOf_eq_anyPath_iff
  exact {
    id := rfl
    sequence := rfl
    single := by simp [ruleOf]
    scope := (hany scope).trans (ruleScope_eq_none_iff hscope)
    sources := (hany sources).trans (peerGroup_eq_none_iff hsources)
    destinations := (hany destinations).trans (peerGroup_eq_none_iff hdestinations)
    distinct := hdistinct
    services := hreadings }

/-- A policy has no scope exactly when its spec lists no targets. -/
theorem scope_eq_nil_iff {s : Spec} {built : Built} (h : o.objects s = .ok built) :
    built.policy.scope = [] ↔ s.appliedTo = [] := by
  obtain ⟨scope, rules, hscope, -, rfl⟩ := objects_eq_ok h
  rcases hscope with ⟨hnil, rfl⟩ | ⟨hne, cs, -, rfl⟩
  · simp [builtOf, hnil]
  · simp [builtOf, hne]

/-- Groups with different identities have different paths. -/
theorem nodup_paths (domain : String) {gs : List Group} (h : (gs.map (·.id)).Nodup) :
    (gs.map (·.path domain)).Nodup := by
  have hpath : gs.map (·.path domain) = (gs.map (·.id)).map (groupPath domain) := by
    rw [List.map_map]
    rfl
  rw [hpath]
  exact h.map fun _ _ => groupPath_inj.1

/-- What is built of a specification is exactly what it declares. -/
theorem exact_of_objects {s : Spec} {built : Built} (h : o.objects s = .ok built) :
    built.Exact o.domain o.uid s := by
  have hbelongs := belongs_of_objects h
  obtain ⟨htags, hruleTags, hgroupTags⟩ := tags_of_objects h
  have hids : (built.groups.map (·.id)).Nodup := hbelongs.groups.distinct
  have hdistinct := nodup_paths o.domain hids
  refine {
    policy_id := hbelongs.policy_id
    rules := ?rules
    policy_scope := scope_eq_nil_iff h
    distinct := hids
    resolved := ?resolved
    referenced := ?referenced
    policy_owner := hbelongs.policy_owner
    rules_owner := hbelongs.rules.owned
    groups_owner := hbelongs.groups.owned
    rules_tags := fun x hx => (hruleTags x hx).trans htags.symm
    groups_tags := fun g hg => (hgroupTags g hg).trans htags.symm }
  case rules =>
    obtain ⟨scope, rules, -, hrules, rfl⟩ := objects_eq_ok h
    rw [builtOf, List.forall₂_map_right_iff]
    exact hrules.imp fun q p hp => renders_of_rule hp
  case resolved =>
    intro paths hlist path hpath
    by_cases hany : path = anyPath
    · exact .inl hany
    · obtain ⟨g, hg, rfl⟩ :=
        (mem_references_iff h).1 ⟨List.mem_flatten.2 ⟨paths, hlist, hpath⟩, hany⟩
      refine .inr ⟨g, ⟨hg, rfl⟩, ?_⟩
      rintro g' ⟨hg', hsame⟩
      exact List.inj_on_of_nodup_map hdistinct hg' hg hsame.symm
  -- among all paths that are referred to, that of a group comes once, as it does among the groups'
  case referenced =>
    intro g hg
    have hne : decide (g.path o.domain ≠ anyPath) = true :=
      decide_eq_true (groupPath_ne_anyPath o.domain g.id)
    apply countP_mem_eq_one
    rw [← List.count_filter (p := (· ≠ anyPath)) hne, paths_of_objects h]
    exact List.count_eq_one_of_mem hdistinct (List.mem_map_of_mem hg)

end Origin

namespace Builder

/-- **Exact graph.** A resource that can be built has a uid, and what it is built into is what the
spec declares, rule by rule; the groups are referred to once each, by the paths that they have in
the builder's domain, and nothing else is referred to. -/
theorem graph_exact {b : Builder} {r : Resource} {built : Built} (hb : b.build r = .ok built) :
    ∃ uid, r.metadata.uid = some uid ∧ built.Exact b.domain uid r.spec := by
  obtain ⟨o, ho, hbuilt⟩ := build_eq_ok hb
  obtain ⟨huid, -, hdomain⟩ := origin_eq_ok ho
  exact ⟨o.uid, huid, hdomain ▸ Origin.exact_of_objects hbuilt⟩

/-- The first rule has sources and a range of ports, and the second targets of its own and
destinations: four groups, each under its own path. -/
theorem graph_exact_two_rules :
    let b : Builder := ⟨"k", "default"⟩
    let r : Resource := {
      metadata := { name := some "web", ownNamespace := some "shop", uid := some "u" }
      spec := {
        appliedTo := [{ pods := some .empty }]
        rules := [
          { sources := [{ namespaces := some .empty }]
            ports := [{ port := 80 }, { port := 8000, last := some 8080 }] },
          { appliedTo := [{ pods := some .empty }], destinations := [{ pods := some .empty }] }] } }
    ∃ built, b.build r = .ok built ∧ built.Exact "default" "u" r.spec ∧
      built.groups.map (·.id) = ["sp_u_scope", "sp_u_0_src", "sp_u_1_scope", "sp_u_1_dst"] ∧
      built.references = [["/infra/domains/default/groups/sp_u_scope"],
        [anyPath], ["/infra/domains/default/groups/sp_u_0_src"], [anyPath],
        ["/infra/domains/default/groups/sp_u_1_scope"], [anyPath],
        ["/infra/domains/default/groups/sp_u_1_dst"]] ∧
      built.policy.rules.map (fun x => x.services.map (·.ports)) =
        [[["80"], ["8000-8080"]], []] := by
  intro b r
  obtain ⟨built, hb, hgroups, hreferences, hports⟩ : ∃ built, b.build r = .ok built ∧
      built.groups.map (·.id) = ["sp_u_scope", "sp_u_0_src", "sp_u_1_scope", "sp_u_1_dst"] ∧
      built.references = [["/infra/domains/default/groups/sp_u_scope"],
        [anyPath], ["/infra/domains/default/groups/sp_u_0_src"], [anyPath],
        ["/infra/domains/default/groups/sp_u_1_scope"], [anyPath],
        ["/infra/domains/default/groups/sp_u_1_dst"]] ∧
      built.policy.rules.map (fun x => x.services.map (·.ports)) =
        [[["80"], ["8000-8080"]], []] := ⟨_, rfl, by decide, by decide, by decide⟩
  obtain ⟨uid, huid, hexact⟩ := graph_exact hb
  cases huid
  exact ⟨built, hb, hexact, hgroups, hreferences, hports⟩

end Builder

end FirewallOperator
