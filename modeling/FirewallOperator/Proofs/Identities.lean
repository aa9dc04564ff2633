import FirewallOperator.Build
import Mathlib.Data.List.Nodup
import Mathlib.Logic.Function.Basic
import Std.Data.String.ToNat

/-! # Identities of built objects

All identities of a resource's objects are made from its uid and what the object is for. A
`GroupRole` says what a group is for. What an identity was made from can mostly be read back: the
index of a rule stands behind the last underscore (`ruleId_inj`), and the end of a group's identity
says what the group is for (`GroupRole.id_eq_id_iff`). So for one uid different roles have different
identities, as have the rules at different places. -/

namespace FirewallOperator

/-! ## Indexes -/

/-- A number is written with digits only. -/
theorem notMem_toString {c : Char} (hc : c.isDigit = false) (n : Nat) :
    c ∉ (toString n).toList := by
  intro h
  have hrepr : toString n = Nat.repr n := rfl
  rw [hrepr, Nat.repr_eq_ofList_toDigits, String.toList_ofList] at h
  have hdigit : c.isDigit = true := Nat.isDigit_of_mem_toDigits (by decide) (by decide) h
  rw [hc] at hdigit
  exact Bool.false_ne_true hdigit

/-- What stands behind the last underscore can be read off. -/
theorem takeWhile_reverse_append {t : String} (ht : '_' ∉ t.toList) (s : String) :
    (s ++ "_" ++ t).toList.reverse.takeWhile (· != '_') = t.toList.reverse := by
  have hall : ∀ c ∈ t.toList.reverse, (c != '_') = true := by
    intro c hc
    exact bne_iff_ne.2 fun heq => ht (heq ▸ List.mem_reverse.1 hc)
  have hsplit : (s ++ "_" ++ t).toList.reverse = t.toList.reverse ++ '_' :: s.toList.reverse := by
    simp
  rw [hsplit, List.takeWhile_append_of_pos hall, List.takeWhile_cons_of_neg (by decide),
    List.append_nil]

/-- A text and an index behind it are both read back, whatever underscores the text has. -/
theorem append_index_inj {s t : String} {i j : Nat} :
    s ++ "_" ++ toString i = t ++ "_" ++ toString j ↔ s = t ∧ i = j := by
  constructor
  · intro h
    have hread := congrArg (fun x => x.toList.reverse.takeWhile (· != '_')) h
    simp only [takeWhile_reverse_append (notMem_toString (c := '_') (by decide) _)] at hread
    obtain rfl : i = j := Nat.repr_inj.1 (String.toList_inj.1 (List.reverse_inj.1 hread))
    exact ⟨(String.append_left_inj _).1 ((String.append_left_inj _).1 h), rfl⟩
  · rintro ⟨rfl, rfl⟩
    rfl

/-! ## Policies and rules -/

variable {u v : String} {i j : Nat}

/-- A policy is known by its uid. -/
@[simp] theorem policyId_inj : policyId u = policyId v ↔ u = v := String.append_right_inj _

/-- A rule is known by its uid and its number. -/
@[simp] theorem ruleId_inj : ruleId u i = ruleId v j ↔ u = v ∧ i = j := by
  rw [ruleId, ruleId, append_index_inj, policyId_inj]

/-- A rule has the identity of the policy whose uid is the rule's with the index behind it. -/
theorem ruleId_eq_policyId_iff : ruleId u i = policyId v ↔ v = u ++ "_" ++ toString i := by
  have hrule : ruleId u i = policyId (u ++ "_" ++ toString i) := by
    simp only [ruleId, policyId, String.append_assoc]
  rw [hrule, policyId_inj, eq_comm]

/-- No rule has the identity of the policy of its uid. -/
theorem ruleId_ne_policyId (uid : String) (index : Nat) : ruleId uid index ≠ policyId uid := by
  rw [ne_eq, ruleId_eq_policyId_iff]
  intro h
  have hlen := congrArg String.length h
  simp only [String.length_append] at hlen
  have hone : ("_" : String).length = 1 := rfl
  omega

/-- Rules at different places have different identities. -/
theorem ruleId_injective (uid : String) : Function.Injective (ruleId uid) :=
  fun _ _ h => (ruleId_inj.1 h).2

/-! ## Paths -/

/-- A path names the group of one identity. -/
@[simp] theorem groupPath_inj {domain a b : String} :
    groupPath domain a = groupPath domain b ↔ a = b := String.append_right_inj _

/-- No group has the path that stands for every endpoint. -/
theorem groupPath_ne_anyPath (domain id : String) : groupPath domain id ≠ anyPath := by
  intro h
  have hstart : "/infra/domains/".length = 15 := rfl
  have hlength : ("/infra/domains/" ++ domain ++ "/groups/" ++ id).length = 3 :=
    congrArg String.length h
  simp only [String.length_append] at hlength
  omega

/-! ## Groups -/

/-- What a group of a resource is for. -/
inductive GroupRole where
  /-- What the policy is enforced on. -/
  | policyScope
  /-- What a rule is enforced on. -/
  | ruleScope (index : Nat)
  /-- Where a rule's traffic comes from. -/
  | source (index : Nat)
  /-- Where a rule's traffic goes to. -/
  | destination (index : Nat)
  deriving DecidableEq, Repr

namespace GroupRole

/-- The identity of the group with a role. -/
def id (uid : String) : GroupRole → String
  | policyScope => scopeGroupId (policyId uid)
  | ruleScope index => scopeGroupId (ruleId uid index)
  | source index => sourceGroupId (ruleId uid index)
  | destination index => destinationGroupId (ruleId uid index)

/-- The roles of the groups that a rule can have. -/
def ofRule (index : Nat) : List GroupRole := [ruleScope index, source index, destination index]

/-- The roles of the groups that a resource with a number of rules can have. -/
def all (rules : Nat) : List GroupRole := policyScope :: (List.range rules).flatMap ofRule

/-- The identity of the policy or rule that a group belongs to. -/
def base (uid : String) : GroupRole → String
  | policyScope => policyId uid
  | ruleScope index | source index | destination index => ruleId uid index

/-- What the identities of groups for scopes, sources and destinations end with. -/
def ending : GroupRole → String
  | policyScope | ruleScope _ => "_scope"
  | source _ => "_src"
  | destination _ => "_dst"

/-- The identity of a group is that of the object it is about, with an ending. -/
theorem id_eq_append (uid : String) (role : GroupRole) :
    role.id uid = role.base uid ++ role.ending := by
  cases role <;> rfl

/-- The last character of an identity tells how it ends. -/
theorem getLast?_id (uid : String) (role : GroupRole) :
    (role.id uid).toList.getLast? = role.ending.toList.getLast? := by
  have hending : role.ending.toList ≠ [] := by cases role <;> simp [ending]
  rw [id_eq_append, String.toList_append, List.getLast?_append, Option.or_of_isSome]
  exact List.getLast?_isSome.2 hending

/-- Groups have one identity when they are for scopes, sources or destinations alike, of a policy or
rule with one identity. -/
theorem id_eq_id_iff {p q : GroupRole} :
    p.id u = q.id v ↔ p.ending = q.ending ∧ p.base u = q.base v := by
  constructor
  · intro h
    have hlast : p.ending.toList.getLast? = q.ending.toList.getLast? := by
      rw [← getLast?_id u, h, getLast?_id]
    have hending : p.ending = q.ending := by
      cases p <;> cases q <;> simp [ending] at hlast ⊢
    rw [id_eq_append, id_eq_append, hending, String.append_left_inj] at h
    exact ⟨hending, h⟩
  · rintro ⟨hending, hbase⟩
    rw [id_eq_append, id_eq_append, hending, hbase]

/-- The identities of different roles are different. -/
theorem id_injective (uid : String) : Function.Injective (id uid) := by
  intro p q h
  obtain ⟨hending, hbase⟩ := id_eq_id_iff.1 h
  cases p <;> cases q <;> simp_all [ending, base, ruleId_ne_policyId, (ruleId_ne_policyId _ _).symm]

/-- A rule has groups in three roles. -/
theorem mem_ofRule {role : GroupRole} {index : Nat} :
    role ∈ ofRule index ↔
      role = ruleScope index ∨ role = source index ∨ role = destination index := by
  simp [ofRule]

/-- No role comes twice. -/
theorem nodup_all (rules : Nat) : (all rules).Nodup := by
  rw [all, List.nodup_cons, List.nodup_flatMap]
  refine ⟨?_, ?_, ?_⟩
  · simp [mem_ofRule]
  · simp [ofRule]
  · refine List.nodup_range.imp fun hne role hi hj => hne ?_
    rw [mem_ofRule] at hi hj
    rcases hi with rfl | rfl | rfl <;> simpa using hj

end GroupRole

end FirewallOperator
