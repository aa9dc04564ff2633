import FirewallOperator.Proofs.Isolation
import FirewallOperator.Proofs.Selections

/-! # Identities of different resources

A uid may be any text, also one that looks like another with an index behind it. `Collides` names
the one way in which that matters: the policy of the longer uid and a rule of the shorter one then
call the groups that they are enforced on alike. `Builder.identities_collide` says that there is no
other way: policies never share an identity, nor do rules, and two groups do exactly when their
roles collide. -/

namespace FirewallOperator

/-- Groups with two roles have one identity although their uids are different: one uid is the other
with an index behind it, and the groups are for the scope of the longer uid's policy and for that of
the shorter one's rule at this index. -/
inductive Collides (u v : String) : GroupRole → GroupRole → Prop
  | rule (index : Nat) (h : v = u ++ "_" ++ toString index) :
      Collides u v (.ruleScope index) .policyScope
  | policy (index : Nat) (h : u = v ++ "_" ++ toString index) :
      Collides u v .policyScope (.ruleScope index)

variable {u v : String}

/-- Some roles collide exactly when one uid is the other with an index behind it. -/
theorem exists_collides_iff : (∃ p q, Collides u v p q) ↔
    ∃ index : Nat, v = u ++ "_" ++ toString index ∨ u = v ++ "_" ++ toString index := by
  constructor
  · rintro ⟨_, _, ⟨index, h⟩ | ⟨index, h⟩⟩
    · exact ⟨index, .inl h⟩
    · exact ⟨index, .inr h⟩
  · rintro ⟨index, h | h⟩
    · exact ⟨_, _, .rule index h⟩
    · exact ⟨_, _, .policy index h⟩

/-- Groups of different uids have one identity exactly when their roles collide. -/
theorem GroupRole.id_eq_iff_collides (hne : u ≠ v) {p q : GroupRole} :
    p.id u = q.id v ↔ Collides u v p q := by
  rw [id_eq_id_iff]
  constructor
  · rintro ⟨hending, hbase⟩
    -- two rules, or two policies, with one identity would have one uid
    have hrules : ∀ i j, ruleId u i ≠ ruleId v j := fun i j h => hne (ruleId_inj.1 h).1
    have hpolicies : policyId u ≠ policyId v := fun h => hne (policyId_inj.1 h)
    cases p with
    | policyScope =>
      cases q with
      | policyScope => exact absurd hbase hpolicies
      | ruleScope j => exact .policy j (ruleId_eq_policyId_iff.1 hbase.symm)
      | source j => simp [ending] at hending
      | destination j => simp [ending] at hending
    | ruleScope i =>
      cases q with
      | policyScope => exact .rule i (ruleId_eq_policyId_iff.1 hbase)
      | ruleScope j => exact absurd hbase (hrules i j)
      | source j => simp [ending] at hending
      | destination j => simp [ending] at hending
    | source i =>
      cases q with
      | policyScope => simp [ending] at hending
      | ruleScope j | source j | destination j => exact absurd hbase (hrules i j)
    | destination i =>
      cases q with
      | policyScope => simp [ending] at hending
      | ruleScope j | source j | destination j => exact absurd hbase (hrules i j)
  · rintro (⟨i, h⟩ | ⟨j, h⟩)
    · exact ⟨rfl, ruleId_eq_policyId_iff.2 h⟩
    · exact ⟨rfl, (ruleId_eq_policyId_iff.2 h).symm⟩

/-- Rules of different uids have different identities. -/
theorem InFamily.uid_of_rule {id : String} (h : InFamily u .rule id) (h' : InFamily v .rule id) :
    u = v := by
  cases h with
  | rule i =>
    generalize hid : ruleId u i = id at h'
    cases h' with
    | rule j => exact (ruleId_inj.1 hid).1

namespace Builder

variable {b b' : Builder} {r r' : Resource} {built built' : Built}

/-- The groups that a resource is built into have the identities of the roles that have a list. -/
theorem exists_group_iff (hb : b.build r = .ok built) (huid : r.metadata.uid = some u)
    {id : String} :
    (∃ g ∈ built.groups, g.id = id) ↔ ∃ role, r.spec.Lists role ∧ role.id u = id := by
  obtain ⟨o, ho, hbuilt⟩ := build_eq_ok hb
  obtain rfl : o.uid = u := Option.some.inj ((origin_eq_ok ho).1.symm.trans huid)
  constructor
  · rintro ⟨g, hg, rfl⟩
    obtain ⟨role, hid, hlists, -⟩ := Origin.exists_role_of_objects hbuilt g hg
    exact ⟨role, hlists, hid.symm⟩
  · rintro ⟨role, hlists, rfl⟩
    exact Origin.exists_group_of_objects hbuilt hlists

/-- What two resources with different uids are built into: their groups share an identity exactly
when both have a list of colliding roles. -/
theorem groups_share_iff (hne : u ≠ v) (hb : b.build r = .ok built) (hb' : b'.build r' = .ok built')
    (hu : r.metadata.uid = some u) (hv : r'.metadata.uid = some v) :
    (∃ g ∈ built.groups, ∃ g' ∈ built'.groups, g.id = g'.id) ↔
      ∃ p q, Collides u v p q ∧ r.spec.Lists p ∧ r'.spec.Lists q := by
  constructor
  · rintro ⟨g, hg, g', hg', hid⟩
    obtain ⟨p, hp, hpid⟩ := (exists_group_iff hb hu).1 ⟨g, hg, rfl⟩
    obtain ⟨q, hq, hqid⟩ := (exists_group_iff hb' hv).1 ⟨g', hg', rfl⟩
    exact ⟨p, q, (GroupRole.id_eq_iff_collides hne).1 (hpid.trans (hid.trans hqid.symm)), hp, hq⟩
  · rintro ⟨p, q, hcollides, hp, hq⟩
    obtain ⟨g, hg, hgid⟩ := (exists_group_iff hb hu).2 ⟨p, hp, rfl⟩
    obtain ⟨g', hg', hgid'⟩ := (exists_group_iff hb' hv).2 ⟨q, hq, rfl⟩
    exact ⟨g, hg, g', hg', (hgid.trans ((GroupRole.id_eq_iff_collides hne).2 hcollides)).trans
      hgid'.symm⟩

/-- **Collisions.** Policies of different uids never share an identity, whatever they are built of,
nor do rules. Groups do exactly when one uid is the other with an index behind it, and then it is
the scope of the longer uid's policy that is called like the scope of the shorter one's rule at that
index. So nothing is shared by uids without an underscore. -/
theorem identities_collide (hne : u ≠ v) :
    (∀ {b b' : Builder} {r r' : Resource} {built built' : Built}, b.build r = .ok built →
      b'.build r' = .ok built' → r.metadata.uid = some u → r'.metadata.uid = some v →
      built.policy.id ≠ built'.policy.id ∧
        (∀ x ∈ built.policy.rules, ∀ y ∈ built'.policy.rules, x.id ≠ y.id) ∧
        ((∃ g ∈ built.groups, ∃ g' ∈ built'.groups, g.id = g'.id) ↔
          ∃ p q, Collides u v p q ∧ r.spec.Lists p ∧ r'.spec.Lists q)) ∧
      (∀ p q : GroupRole, p.id u = q.id v ↔ Collides u v p q) ∧
      ((∃ p q : GroupRole, p.id u = q.id v) ↔
        ∃ index : Nat, v = u ++ "_" ++ toString index ∨ u = v ++ "_" ++ toString index) ∧
      ('_' ∉ u.toList → '_' ∉ v.toList → ∀ k id, InFamily u k id → ¬ InFamily v k id) := by
  refine ⟨fun {b b' r r' built built'} hb hb' hu hv => ?_,
    fun p q => GroupRole.id_eq_iff_collides hne, ?_,
    fun hu hv k id h h' => hne (InFamily.uid_unique hu hv h h')⟩
  · have hof : built.IsOf u := by simpa [hu] using isOf_of_build hb
    have hof' : built'.IsOf v := by simpa [hv] using isOf_of_build hb'
    have hbelongs : built.Belongs u := by simpa [hu] using belongs_of_build hb
    have hbelongs' : built'.Belongs v := by simpa [hv] using belongs_of_build hb'
    refine ⟨fun hid => ?_, fun x hx y hy hid => ?_, groups_share_iff hne hb hb' hu hv⟩
    · rw [hbelongs.policy_id, hbelongs'.policy_id, policyId_inj] at hid
      exact hne hid
    · have hfamily : InFamily v .rule x.id := hid ▸ (hof'.rules y hy).familiar
      exact hne (InFamily.uid_of_rule (hof.rules x hx).familiar hfamily)
  · simp only [GroupRole.id_eq_iff_collides hne, exists_collides_iff]

/-- One resource has the uid `a` and a rule with targets of its own, and another has the uid `a_0`
and targets. The group of the rule and that of the other policy are both called `sp_a_0_scope`. -/
theorem identities_collide_indexed :
    let b : Builder := ⟨"k", "default"⟩
    let metadata (uid : String) : Metadata :=
      { name := some "web", ownNamespace := some "shop", uid := some uid }
    let pods : List Target := [{ pods := some .empty }]
    let r : Resource := { metadata := metadata "a", spec := { rules := [{ appliedTo := pods }] } }
    let r' : Resource := { metadata := metadata "a_0", spec := { appliedTo := pods } }
    "a" ≠ "a_0" ∧ ∃ built built', b.build r = .ok built ∧ b.build r' = .ok built' ∧
      Collides "a" "a_0" (.ruleScope 0) .policyScope ∧
      (∃ g ∈ built.groups, ∃ g' ∈ built'.groups, g.id = g'.id) ∧
      GroupRole.policyScope.id "a_0" = "sp_a_0_scope" := by
  intro b metadata pods r r'
  have hne : "a" ≠ "a_0" := by decide
  have hcollides : Collides "a" "a_0" (.ruleScope 0) .policyScope := .rule 0 (by decide)
  obtain ⟨built, hb⟩ : ∃ built, b.build r = .ok built := ⟨_, rfl⟩
  obtain ⟨built', hb'⟩ : ∃ built', b.build r' = .ok built' := ⟨_, rfl⟩
  have hshared := ((identities_collide hne).1 hb hb' rfl rfl).2.2.2 ⟨_, _, hcollides,
    .inl (List.cons_ne_nil _ _), .inl (List.cons_ne_nil _ _)⟩
  exact ⟨hne, built, built', hb, hb', hcollides, hshared, by decide⟩

end Builder

end FirewallOperator
