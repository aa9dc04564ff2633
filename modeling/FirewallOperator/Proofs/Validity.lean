import FirewallOperator.Build
import Mathlib.Data.List.Basic
import Mathlib.Tactic.MkIffOfInductiveProp

/-! # Valid resources

A resource is valid when it is identified and each of its parts says something possible:
`Resource.IsValid`. A `Place` is where something can be wrong instead, and `Place.cause?` says what.
Places are looked at in the order of the declaration, `Place.rank`, and `Place.all` lists those of a
resource in that order. `Resource.isValid_iff_findSome?` and `Resource.isFirstDefect_of_findSome?`
are what a walk along the list finds out: that the resource is valid, or where the first defect
is. -/

namespace FirewallOperator

/-! ## Validity -/

/-- A target chooses something, and machines by at least one label. -/
@[mk_iff] structure Target.IsValid (t : Target) : Prop where
  chooses : t.pods ≠ none ∨ t.machines ≠ none
  labelled : t.machines ≠ some .empty

/-- A peer chooses something, and machines by at least one label. -/
@[mk_iff] structure Peer.IsValid (p : Peer) : Prop where
  chooses : p.pods ≠ none ∨ p.machines ≠ none ∨ p.namespaces ≠ none
  labelled : p.machines ≠ some .empty

/-- A port is not zero, nor is its range reversed. -/
@[mk_iff] structure Port.IsValid (p : Port) : Prop where
  nonzero : p.port ≠ 0
  ordered : ∀ last, p.last = some last → p.port ≤ last

/-- A rule says what it is enforced on, unless all rules share that, and its parts are valid. -/
@[mk_iff] structure RuleSpec.IsValid (shared : List Target) (r : RuleSpec) : Prop where
  applied : r.appliedTo ≠ [] ∨ shared ≠ []
  targets : ∀ t ∈ r.appliedTo, t.IsValid
  sources : ∀ p ∈ r.sources, p.IsValid
  destinations : ∀ p ∈ r.destinations, p.IsValid
  ports : ∀ p ∈ r.ports, p.IsValid

/-- A resource has a uid, a name and a namespace, and its parts are valid. -/
@[mk_iff] structure Resource.IsValid (r : Resource) : Prop where
  uid : r.metadata.uid ≠ none
  name : ∃ name, r.metadata.name = some name ∧ name ≠ ""
  ownNamespace : r.metadata.ownNamespace ≠ none
  targets : ∀ t ∈ r.spec.appliedTo, t.IsValid
  rules : ∀ x ∈ r.spec.rules, x.IsValid r.spec.appliedTo

/-! ## What is wrong with a part -/

namespace Defect

namespace Cause

/-- What is wrong with a target. -/
def ofTarget? (t : Target) : Option Cause :=
  if t.isEmpty then some .emptyTarget
  else if t.machines = some .empty then some .anyMachine
  else none

/-- What is wrong with a peer. -/
def ofPeer? (p : Peer) : Option Cause :=
  if p.isEmpty then some .emptyPeer
  else if p.machines = some .empty then some .anyMachine
  else none

/-- What is wrong with a port. -/
def ofPort? (p : Port) : Option Cause :=
  if p.port = 0 then some .portZero
  else p.last.bind fun last => if last < p.port then some (.reversedRange p.port last) else none

/-- The field that a cause is about, of what stands at a path. -/
def field (path : String) : Cause → String
  | .anyMachine => path ++ ".vmSelector"
  | _ => path

/-- A target without a defect is valid. -/
theorem ofTarget?_eq_none_iff {t : Target} : ofTarget? t = none ↔ t.IsValid := by
  rw [Target.isValid_iff, ofTarget?, Target.isEmpty]
  cases t.pods <;> cases t.machines <;> simp

/-- A peer without a defect is valid. -/
theorem ofPeer?_eq_none_iff {p : Peer} : ofPeer? p = none ↔ p.IsValid := by
  rw [Peer.isValid_iff, ofPeer?, Peer.isEmpty]
  cases p.pods <;> cases p.machines <;> cases p.namespaces <;> simp

/-- A port without a defect is valid. -/
theorem ofPort?_eq_none_iff {p : Port} : ofPort? p = none ↔ p.IsValid := by
  rw [Port.isValid_iff, ofPort?]
  by_cases hzero : p.port = 0
  · simp [hzero]
  · cases p.last <;> simp [hzero, UInt16.not_lt]

end Cause

/-- The defect of what stands at a path. -/
def ofCause (path : String) (c : Cause) : Defect := ⟨c.field path, c⟩

end Defect

open Defect (ofCause)
open Defect.Cause (ofTarget? ofPeer? ofPort?)

/-! ## Places -/

/-- A place of a resource at which something can be wrong. -/
inductive Place where
  | uid
  | name
  | ownNamespace
  | target (index : Nat)
  /-- The whole list of what a rule is enforced on. -/
  | ruleTargets (rule : Nat)
  | ruleTarget (rule index : Nat)
  | source (rule index : Nat)
  | destination (rule index : Nat)
  | port (rule index : Nat)
  deriving DecidableEq, Repr

namespace Place

/-- Where a place comes in the order of the declaration, numbered like a section of a text: each
rule is a section of its own. -/
def rank : Place → List Nat
  | uid => [0]
  | name => [1]
  | ownNamespace => [2]
  | target i => [3, i]
  | ruleTargets k => [4, k, 0]
  | ruleTarget k i => [4, k, 1, i]
  | source k i => [4, k, 2, i]
  | destination k i => [4, k, 3, i]
  | port k i => [4, k, 4, i]

/-- The path of a place, with indexes in decimal and in brackets. -/
def path : Place → String
  | uid => "metadata.uid"
  | name => "metadata.name"
  | ownNamespace => "metadata.namespace"
  | target i => "spec.appliedTo[" ++ toString i ++ "]"
  | ruleTargets k => "spec.rules[" ++ toString k ++ "].appliedTo"
  | ruleTarget k i => "spec.rules[" ++ toString k ++ "].appliedTo[" ++ toString i ++ "]"
  | source k i => "spec.rules[" ++ toString k ++ "].sources[" ++ toString i ++ "]"
  | destination k i => "spec.rules[" ++ toString k ++ "].destinations[" ++ toString i ++ "]"
  | port k i => "spec.rules[" ++ toString k ++ "].ports[" ++ toString i ++ "]"

/-- What is wrong at a place of a resource. Nothing is wrong at a place that it does not have. -/
def cause? (r : Resource) : Place → Option Defect.Cause
  | uid => if r.metadata.uid = none then some .noUid else none
  | name => if r.metadata.name.getD "" = "" then some .noName else none
  | ownNamespace => if r.metadata.ownNamespace = none then some .noNamespace else none
  | target i => r.spec.appliedTo[i]?.bind ofTarget?
  | ruleTargets k => r.spec.rules[k]?.bind fun x =>
    if x.appliedTo = [] ∧ r.spec.appliedTo = [] then some .noScope else none
  | ruleTarget k i => r.spec.rules[k]?.bind fun x => x.appliedTo[i]?.bind ofTarget?
  | source k i => r.spec.rules[k]?.bind fun x => x.sources[i]?.bind ofPeer?
  | destination k i => r.spec.rules[k]?.bind fun x => x.destinations[i]?.bind ofPeer?
  | port k i => r.spec.rules[k]?.bind fun x => x.ports[i]?.bind ofPort?

/-- The defect at a place of a resource. -/
def defect? (r : Resource) (p : Place) : Option Defect := (p.cause? r).map (ofCause p.path)

/-- What holds of every place holds of every place of each form. -/
theorem forall_iff {P : Place → Prop} : (∀ p, P p) ↔ P uid ∧ P name ∧ P ownNamespace ∧
    (∀ i, P (target i)) ∧ (∀ k, P (ruleTargets k)) ∧ (∀ k i, P (ruleTarget k i)) ∧
    (∀ k i, P (source k i)) ∧ (∀ k i, P (destination k i)) ∧ ∀ k i, P (port k i) := by
  constructor
  · intro h
    exact ⟨h _, h _, h _, fun _ => h _, fun _ => h _, fun _ _ => h _, fun _ _ => h _,
      fun _ _ => h _, fun _ _ => h _⟩
  · rintro ⟨huid, hname, hnamespace, htarget, htargets, hruleTarget, hsource, hdestination, hport⟩ p
    cases p with
    | uid => exact huid
    | name => exact hname
    | ownNamespace => exact hnamespace
    | target i => exact htarget i
    | ruleTargets k => exact htargets k
    | ruleTarget k i => exact hruleTarget k i
    | source k i => exact hsource k i
    | destination k i => exact hdestination k i
    | port k i => exact hport k i

end Place

section Indexed

variable {α β : Type}

/-- Nothing is wrong at any index of a list exactly when nothing is wrong with any member. -/
theorem forall_getElem?_bind {check : α → Option Defect.Cause} {xs : List α} :
    (∀ i : Nat, xs[i]?.bind check = none) ↔ ∀ x ∈ xs, check x = none := by
  constructor
  · intro h x hx
    obtain ⟨i, hi⟩ := List.mem_iff_getElem?.1 hx
    rw [← h i, hi, Option.bind_some]
  · intro h i
    cases hi : xs[i]? with
    | none => rfl
    | some x => exact h x (List.mem_of_getElem? hi)

/-- The same for lists that are parts of the members of a list. -/
theorem forall_getElem?_bind_part {check : β → Option Defect.Cause} {part : α → List β}
    {xs : List α} :
    (∀ k i : Nat, (xs[k]?.bind fun x => (part x)[i]?.bind check) = none) ↔
      ∀ x ∈ xs, ∀ y ∈ part x, check y = none := by
  constructor
  · intro h x hx
    obtain ⟨k, hk⟩ := List.mem_iff_getElem?.1 hx
    exact forall_getElem?_bind.1 fun i => by rw [← h k i, hk, Option.bind_some]
  · intro h k i
    cases hk : xs[k]? with
    | none => rfl
    | some x => exact forall_getElem?_bind.2 (h x (List.mem_of_getElem? hk)) i

end Indexed

/-- A resource is valid exactly when nothing is wrong at any place. -/
theorem Resource.isValid_iff_cause? {r : Resource} :
    r.IsValid ↔ ∀ p : Place, p.cause? r = none := by
  have hname : (∃ name, r.metadata.name = some name ∧ name ≠ "") ↔
      r.metadata.name.getD "" ≠ "" := by
    cases r.metadata.name <;> simp
  rw [Place.forall_iff, Resource.isValid_iff, hname]
  simp only [Place.cause?, forall_getElem?_bind, forall_getElem?_bind_part,
    Defect.Cause.ofTarget?_eq_none_iff, Defect.Cause.ofPeer?_eq_none_iff,
    Defect.Cause.ofPort?_eq_none_iff, RuleSpec.isValid_iff, ite_eq_right_iff, reduceCtorEq,
    imp_false, not_and_or, ne_eq]
  -- what is left to do is to take the parts of the rules one after the other
  constructor
  · rintro ⟨huid, hname, hnamespace, htargets, hrules⟩
    exact ⟨huid, hname, hnamespace, htargets, fun x hx => (hrules x hx).1,
      fun x hx => (hrules x hx).2.1, fun x hx => (hrules x hx).2.2.1,
      fun x hx => (hrules x hx).2.2.2.1, fun x hx => (hrules x hx).2.2.2.2⟩
  · rintro ⟨huid, hname, hnamespace, htargets, happlied, hruleTargets, hsources, hdestinations,
      hports⟩
    exact ⟨huid, hname, hnamespace, htargets, fun x hx =>
      ⟨happlied x hx, hruleTargets x hx, hsources x hx, hdestinations x hx, hports x hx⟩⟩

/-! ## Places in order -/

namespace Place

/-- The places of a rule, in order. -/
def ofRule (k : Nat) (x : RuleSpec) : List Place :=
  ruleTargets k :: (x.appliedTo.zipIdx.map fun q => ruleTarget k q.2)
    ++ (x.sources.zipIdx.map fun q => source k q.2)
    ++ (x.destinations.zipIdx.map fun q => destination k q.2)
    ++ x.ports.zipIdx.map fun q => port k q.2

/-- The places of a resource, in order. -/
def all (r : Resource) : List Place :=
  [uid, name, ownNamespace] ++ (r.spec.appliedTo.zipIdx.map fun q => target q.2)
    ++ r.spec.rules.zipIdx.flatMap fun q => ofRule q.2 q.1

variable {α : Type} {r : Resource} {p : Place} {c : Defect.Cause}

/-- The place of a member is among the places of a list. -/
theorem mem_map_zipIdx {place : Nat → Place} {xs : List α} {i : Nat} {x : α}
    (h : xs[i]? = some x) : place i ∈ xs.zipIdx.map fun q => place q.2 :=
  List.mem_map.2 ⟨(x, i), List.mem_zipIdx_iff_getElem?.2 h, rfl⟩

/-- The places of a rule are among those of the resource. -/
theorem mem_all_of_mem_ofRule {k : Nat} {x : RuleSpec} (hx : r.spec.rules[k]? = some x)
    (hp : p ∈ ofRule k x) : p ∈ all r :=
  List.mem_append_right _ (List.mem_flatMap.2 ⟨(x, k), List.mem_zipIdx_iff_getElem?.2 hx, hp⟩)

/-- A place of a part of a rule is one of the rule's, and so of the resource's. -/
theorem mem_all_of_part {part : RuleSpec → List α} {check : α → Option Defect.Cause}
    {place : Nat → Nat → Place} {k i : Nat}
    (hpart : ∀ x, ∀ p ∈ (part x).zipIdx.map fun q => place k q.2, p ∈ ofRule k x)
    (h : (r.spec.rules[k]?.bind fun x => (part x)[i]?.bind check) = some c) :
    place k i ∈ all r := by
  obtain ⟨x, hx, h⟩ := Option.bind_eq_some_iff.1 h
  obtain ⟨y, hy, -⟩ := Option.bind_eq_some_iff.1 h
  exact mem_all_of_mem_ofRule hx (hpart x _ (mem_map_zipIdx hy))

/-- Where something is wrong is one of the places. -/
theorem mem_all (h : p.cause? r = some c) : p ∈ all r := by
  cases p with
  | uid => simp [all]
  | name => simp [all]
  | ownNamespace => simp [all]
  | target i =>
    obtain ⟨t, ht, -⟩ := Option.bind_eq_some_iff.1 h
    exact List.mem_append_left _ (List.mem_append_right _ (mem_map_zipIdx ht))
  | ruleTargets k =>
    obtain ⟨x, hx, -⟩ := Option.bind_eq_some_iff.1 h
    exact mem_all_of_mem_ofRule hx (by simp [ofRule])
  | ruleTarget k i => exact mem_all_of_part (fun _ _ hp => by simp [ofRule, hp]) h
  | source k i => exact mem_all_of_part (fun _ _ hp => by simp [ofRule, hp]) h
  | destination k i => exact mem_all_of_part (fun _ _ hp => by simp [ofRule, hp]) h
  | port k i => exact mem_all_of_part (fun _ _ hp => by simp [ofRule, hp]) h

/-- The numbers of members increase. -/
theorem pairwise_zipIdx (xs : List α) : xs.zipIdx.Pairwise fun p q => p.2 < q.2 := by
  have hindices : (xs.zipIdx.map Prod.snd).Pairwise (· < ·) := by
    rw [List.zipIdx_map_snd]
    exact List.pairwise_lt_range'
  rwa [List.pairwise_map] at hindices

/-- The places of the members of a list come in order when those of their indices do. -/
theorem pairwise_map_zipIdx {place : Nat → Place}
    (h : ∀ i j, i < j → (place i).rank < (place j).rank) (xs : List α) :
    (xs.zipIdx.map fun q => place q.2).Pairwise fun p q => p.rank < q.rank := by
  rw [List.pairwise_map]
  exact (pairwise_zipIdx xs).imp (h _ _)

/-- The places of a rule are in the section of its index. -/
theorem rank_of_mem_ofRule {k : Nat} {x : RuleSpec} (h : p ∈ ofRule k x) :
    ∃ rest, p.rank = 4 :: k :: rest := by
  simp only [ofRule, List.mem_append, List.mem_cons, List.mem_map] at h
  rcases h with (((rfl | ⟨_, _, rfl⟩) | ⟨_, _, rfl⟩) | ⟨_, _, rfl⟩) | ⟨_, _, rfl⟩
  all_goals exact ⟨_, rfl⟩

/-- The places of a rule are listed by rank. -/
theorem pairwise_ofRule (k : Nat) (x : RuleSpec) :
    (ofRule k x).Pairwise fun p q => p.rank < q.rank := by
  simp only [ofRule, List.cons_append, List.pairwise_cons, List.pairwise_append]
  refine ⟨?_, ⟨⟨pairwise_map_zipIdx ?_ _, pairwise_map_zipIdx ?_ _, ?_⟩,
    pairwise_map_zipIdx ?_ _, ?_⟩, pairwise_map_zipIdx ?_ _, ?_⟩
  all_goals grind [rank, List.cons_lt_cons_iff]

/-- The places of a resource are listed by rank. -/
theorem pairwise_all (r : Resource) : (all r).Pairwise fun p q => p.rank < q.rank := by
  simp only [all, List.pairwise_append, List.pairwise_flatMap]
  refine ⟨⟨by decide, pairwise_map_zipIdx ?_ _, ?_⟩, ⟨fun q _ => pairwise_ofRule q.2 q.1, ?_⟩, ?_⟩
  · grind [rank, List.cons_lt_cons_iff]
  · grind [rank, List.cons_lt_cons_iff]
  · refine (pairwise_zipIdx r.spec.rules).imp fun hk p hp q hq => ?_
    obtain ⟨_, hp⟩ := rank_of_mem_ofRule hp
    obtain ⟨_, hq⟩ := rank_of_mem_ofRule hq
    rw [hp, hq]
    exact List.cons_lt_cons_iff.2 (.inr ⟨rfl, List.cons_lt_cons_iff.2 (.inl hk)⟩)
  · intro p hp q hq
    obtain ⟨_, -, hq⟩ := List.mem_flatMap.1 hq
    obtain ⟨_, hq⟩ := rank_of_mem_ofRule hq
    rw [hq]
    simp only [List.mem_append, List.mem_cons, List.not_mem_nil, or_false, List.mem_map] at hp
    grind [rank, List.cons_lt_cons_iff]

end Place

/-! ## The first defect -/

/-- The first place at which something is wrong with a resource, and what it is. -/
def Resource.IsFirstDefect (r : Resource) (p : Place) (c : Defect.Cause) : Prop :=
  p.cause? r = some c ∧ ∀ q : Place, q.rank < p.rank → q.cause? r = none

namespace Resource

variable {r : Resource}

/-- A resource is valid exactly when no defect is found along its places. -/
theorem isValid_iff_findSome? :
    r.IsValid ↔ (Place.all r).findSome? (Place.defect? r) = none := by
  rw [isValid_iff_cause?, List.findSome?_eq_none_iff]
  simp only [Place.defect?, Option.map_eq_none_iff]
  constructor
  · intro h p _
    exact h p
  · intro h p
    cases hp : p.cause? r with
    | none => rfl
    | some c => rw [← hp, h p (Place.mem_all hp)]

/-- The defect that is found along the places is that of the first place. -/
theorem isFirstDefect_of_findSome? {d : Defect}
    (h : (Place.all r).findSome? (Place.defect? r) = some d) :
    ∃ p c, r.IsFirstDefect p c ∧ d = ofCause p.path c := by
  obtain ⟨before, p, after, hall, hp, hbefore⟩ := List.findSome?_eq_some_iff.1 h
  obtain ⟨c, hc, rfl⟩ := Option.map_eq_some_iff.1 hp
  refine ⟨p, c, ⟨hc, fun q hq => ?_⟩, rfl⟩
  cases hqc : q.cause? r with
  | none => rfl
  | some c' =>
    -- the list has the place `q`, and from `p` on only what comes later
    have hmem := Place.mem_all hqc
    have horder := Place.pairwise_all r
    rw [hall] at hmem horder
    rcases List.mem_append.1 hmem with hmem | hmem
    · have hnone := hbefore q hmem
      rw [Place.defect?, hqc] at hnone
      cases hnone
    · rcases List.mem_cons.1 hmem with rfl | hmem
      · exact absurd hq (List.lt_irrefl _)
      · have hlater := List.rel_of_pairwise_cons (List.pairwise_append.1 horder).2.1 hmem
        exact absurd (List.lt_trans hq hlater) (List.lt_irrefl _)

end Resource

end FirewallOperator
