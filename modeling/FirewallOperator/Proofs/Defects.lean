import FirewallOperator.Proofs.Building
import FirewallOperator.Proofs.Validity

/-! # Defects of a build

A build stops at the first defect that it comes across. `errorOf?` is what a computation stops with,
and each part of a build has its equation here: a chain stops where its first link does, a list
where the first of its members does. Put together, `Place.findSome?_all` says that a build stops
with the first defect along the places of the resource, and `Builder.build_blames_first` is what
that comes to. -/

namespace FirewallOperator

open Defect (ofCause)
open Defect.Cause (ofTarget? ofPeer? ofPort?)

/-! ## Computations that fail -/

section Failures

variable {ε α β : Type}

/-- What a computation fails with. -/
def errorOf? : Except ε α → Option ε
  | .ok _ => none
  | .error e => some e

/-- A chain fails as its first link does, or else as the second. -/
theorem errorOf?_bind {outcome : Except ε α} {next : α → Except ε β} {e : Option ε}
    (h : ∀ a, outcome = .ok a → errorOf? (next a) = e) :
    errorOf? (outcome >>= next) = (errorOf? outcome).or e := by
  cases outcome with
  | error _ => rfl
  | ok a => exact h a rfl

/-- A value that is made of an outcome has no fault of its own. -/
theorem errorOf?_bind_pure {outcome : Except ε α} {f : α → β} :
    errorOf? (outcome >>= fun a => pure (f a)) = errorOf? outcome := by
  cases outcome <;> rfl

/-- A function of an outcome has no fault of its own. -/
theorem errorOf?_map {f : α → β} {outcome : Except ε α} :
    errorOf? (f <$> outcome) = errorOf? outcome := by
  cases outcome <;> rfl

/-- A list of computations fails as the first of them that does. -/
theorem errorOf?_mapM {f : α → Except ε β} {xs : List α} :
    errorOf? (xs.mapM f) = xs.findSome? fun x => errorOf? (f x) := by
  induction xs with
  | nil => rfl
  | cons x xs ih =>
    have hrest : ∀ y, f x = .ok y →
        errorOf? (xs.mapM f >>= fun ys => pure (y :: ys)) = xs.findSome? fun x => errorOf? (f x) :=
      fun y _ => errorOf?_bind_pure.trans ih
    rw [List.mapM_cons, errorOf?_bind hrest, List.findSome?_cons]
    cases errorOf? (f x) <;> rfl

/-- Functions that agree on a list find the same in it. -/
theorem findSome?_congr {f g : α → Option β} {xs : List α} (h : ∀ x ∈ xs, f x = g x) :
    xs.findSome? f = xs.findSome? g := by
  rw [← List.head?_filterMap, List.filterMap_congr h, List.head?_filterMap]

/-- What is found first in parts of a list is found in the first part that has something. -/
theorem findSome?_flatMap {γ : Type} {f : α → List β} {g : β → Option γ} {xs : List α} :
    (xs.flatMap f).findSome? g = xs.findSome? fun x => (f x).findSome? g := by
  rw [← List.head?_filterMap, List.filterMap_flatMap, List.head?_flatMap]
  simp only [List.head?_filterMap]

end Failures

/-! ## Parts of a build -/

/-- Labels without entries are the empty ones. -/
theorem Labels.isEmpty_iff {ls : Labels} : ls.isEmpty = true ↔ ls = .empty := by
  obtain ⟨entries, ordered⟩ := ls
  cases entries <;> simp [SortedMap.isEmpty, SortedMap.empty]

/-- The defect of the first member of a list that has one. -/
def Defect.firstIn {α : Type} (field : String) (check : α → Option Defect.Cause) (xs : List α) :
    Option Defect :=
  xs.zipIdx.findSome? fun q => (check q.1).map (ofCause (indexed field q.2))

open Defect (firstIn)

namespace Origin

variable (o : Origin) (field : String)

/-- A selection of virtual machines fails only if it has no labels. -/
theorem errorOf?_machines (ls : Option Labels) :
    errorOf? (ls.toList.mapM (machineCriterion field)) =
      if ls = some .empty then some (ofCause field .anyMachine) else none := by
  rw [errorOf?_mapM]
  cases ls with
  | none => rfl
  | some l =>
    rw [Option.toList_some, List.findSome?_singleton, machineCriterion]
    simp only [Labels.isEmpty_iff, Option.some.injEq]
    split <;> rfl

/-- The criteria of a target fail with the defect of the target. -/
theorem errorOf?_targetCriteria (t : Target) :
    errorOf? (o.targetCriteria field t) = (ofTarget? t).map (ofCause field) := by
  rw [targetCriteria, ofTarget?]
  cases t.isEmpty with
  | true => rfl
  | false =>
    rw [if_neg Bool.false_ne_true, if_neg Bool.false_ne_true]
    refine errorOf?_bind_pure.trans ((errorOf?_machines field t.machines).trans ?_)
    split <;> rfl

/-- The criteria of a peer fail with the defect of the peer. -/
theorem errorOf?_peerCriteria (p : Peer) :
    errorOf? (o.peerCriteria field p) = (ofPeer? p).map (ofCause field) := by
  rw [peerCriteria, ofPeer?]
  cases p.isEmpty with
  | true => rfl
  | false =>
    rw [if_neg Bool.false_ne_true, if_neg Bool.false_ne_true]
    refine errorOf?_bind_pure.trans ((errorOf?_machines field p.machines).trans ?_)
    split <;> rfl

/-- The entry of a port fails with the defect of the port. -/
theorem errorOf?_serviceEntry (i : Nat) (p : Port) :
    errorOf? (serviceEntry field i p) = (ofPort? p).map (ofCause field) := by
  rw [serviceEntry, ofPort?]
  by_cases hzero : p.port = 0
  · rw [if_pos hzero, if_pos hzero]
    rfl
  · rw [if_neg hzero, if_neg hzero]
    cases p.last with
    | none => rfl
    | some last =>
      by_cases hlt : last < p.port
      · simp only [Option.bind_some, hlt, if_true]
        rfl
      · simp only [Option.bind_some, hlt, if_false]
        split <;> rfl

/-- The criteria of a list fail with the first defect of a member. -/
theorem errorOf?_criteria {α : Type} {one : String → α → Except Defect (List (List Term))}
    {check : α → Option Defect.Cause}
    (h : ∀ field x, errorOf? (one field x) = (check x).map (ofCause field)) (xs : List α) :
    errorOf? (criteria field one xs) = firstIn field check xs := by
  rw [criteria, errorOf?_bind_pure, errorOf?_mapM]
  simp only [h]
  rfl

/-- A group of targets fails with the first defect of a target. -/
theorem errorOf?_targetGroup (id : String) (ts : List Target) :
    errorOf? (o.targetGroup id field ts) = firstIn field ofTarget? ts := by
  rw [targetGroup, errorOf?_bind_pure, errorOf?_criteria field o.errorOf?_targetCriteria]

/-- A group of peers fails with the first defect of a peer. -/
theorem errorOf?_peerGroup (id : String) (ps : List Peer) :
    errorOf? (o.peerGroup id field ps) = firstIn field ofPeer? ps := by
  rw [peerGroup]
  cases ps with
  | nil => rfl
  | cons p rest =>
    exact errorOf?_bind_pure.trans (errorOf?_criteria field o.errorOf?_peerCriteria _)

/-- The scope of a rule fails if there is none to inherit, or else with the first defect of a
target. -/
theorem errorOf?_ruleScope (id : String) (inherits : Bool) (ts : List Target) :
    errorOf? (o.ruleScope id field inherits ts) =
      (if ts = [] ∧ inherits = false then some (ofCause field .noScope) else none).or
        (firstIn field ofTarget? ts) := by
  rw [ruleScope]
  cases ts with
  | nil => cases inherits <;> rfl
  | cons t rest =>
    have hsome : ¬ (t :: rest = [] ∧ inherits = false) := fun h => List.cons_ne_nil _ _ h.1
    rw [if_neg hsome, Option.none_or]
    exact errorOf?_bind_pure.trans (o.errorOf?_targetGroup field _ _)

/-- The parts of a rule are built one after the other. -/
theorem errorOf?_rule (inherits : Bool) (k : Nat) (x : RuleSpec) :
    errorOf? (o.rule inherits k x) =
      (((((if x.appliedTo = [] ∧ inherits = false then
            some (ofCause (indexed "spec.rules" k ++ ".appliedTo") .noScope) else none).or
          (firstIn (indexed "spec.rules" k ++ ".appliedTo") ofTarget? x.appliedTo)).or
        (firstIn (indexed "spec.rules" k ++ ".sources") ofPeer? x.sources)).or
        (firstIn (indexed "spec.rules" k ++ ".destinations") ofPeer? x.destinations)).or
        (firstIn (indexed "spec.rules" k ++ ".ports") ofPort? x.ports)) := by
  have hports : errorOf? (x.ports.zipIdx.mapM fun q =>
      serviceEntry (indexed (indexed "spec.rules" k ++ ".ports") q.2) q.2 q.1) =
      firstIn (indexed "spec.rules" k ++ ".ports") ofPort? x.ports := by
    rw [errorOf?_mapM]
    simp only [errorOf?_serviceEntry]
    rfl
  rw [rule, Option.or_assoc, Option.or_assoc]
  refine (errorOf?_bind fun _ _ => ?_).trans (congrArg (Option.or · _) (o.errorOf?_ruleScope ..))
  refine (errorOf?_bind fun _ _ => ?_).trans (congrArg (Option.or · _) (o.errorOf?_peerGroup ..))
  refine (errorOf?_bind fun _ _ => ?_).trans (congrArg (Option.or · _) (o.errorOf?_peerGroup ..))
  exact errorOf?_bind_pure.trans hports

/-- A specification fails with the first defect of a target, or else of a rule. -/
theorem errorOf?_objects (s : Spec) :
    errorOf? (o.objects s) = (firstIn "spec.appliedTo" ofTarget? s.appliedTo).or
      (s.rules.zipIdx.findSome? fun q => errorOf? (o.rule (!s.appliedTo.isEmpty) q.2 q.1)) := by
  have hrules : ∀ {inherits : Bool} {f : List (Rule × List Group) → Built},
      errorOf? ((s.rules.zipIdx.mapM fun q => o.rule inherits q.2 q.1) >>= fun rules =>
        pure (f rules)) = s.rules.zipIdx.findSome? fun q => errorOf? (o.rule inherits q.2 q.1) :=
    errorOf?_bind_pure.trans errorOf?_mapM
  rw [objects]
  cases s.appliedTo with
  | nil => exact hrules
  | cons t rest =>
    refine (errorOf?_bind fun scope hscope => ?_).trans
      (congrArg (Option.or · _) (errorOf?_map.trans (o.errorOf?_targetGroup ..)))
    -- there is a group, so the rules need not say what they are enforced on
    obtain ⟨g, -, rfl⟩ := map_eq_ok.1 hscope
    exact hrules

end Origin

/-! ## The defect of a build -/

namespace Place

variable {r : Resource}

/-- A target of the whole policy is named by its index. -/
theorem path_target (i : Nat) : (target i).path = indexed "spec.appliedTo" i := by
  have hopen : "spec.appliedTo[" = "spec.appliedTo" ++ "[" := by decide
  rw [path, indexed, hopen]

/-- The targets of a rule are named by the index of the rule. -/
theorem path_ruleTargets (k : Nat) :
    (ruleTargets k).path = indexed "spec.rules" k ++ ".appliedTo" := by
  have hopen : "spec.rules[" = "spec.rules" ++ "[" := by decide
  have hclose : "].appliedTo" = "]" ++ ".appliedTo" := by decide
  rw [path, indexed, hopen, hclose, ← String.append_assoc]

/-- A member of a list of a rule is named by the index of the rule, the list and its own index. -/
theorem path_ruleMember (k i : Nat) :
    (ruleTarget k i).path = indexed (indexed "spec.rules" k ++ ".appliedTo") i ∧
      (source k i).path = indexed (indexed "spec.rules" k ++ ".sources") i ∧
      (destination k i).path = indexed (indexed "spec.rules" k ++ ".destinations") i ∧
      (port k i).path = indexed (indexed "spec.rules" k ++ ".ports") i := by
  have hopen : "spec.rules[" = "spec.rules" ++ "[" := by decide
  have hlist : "].appliedTo[" = "]" ++ ".appliedTo" ++ "[" ∧ "].sources[" = "]" ++ ".sources" ++ "[" ∧
      "].destinations[" = "]" ++ ".destinations" ++ "[" ∧ "].ports[" = "]" ++ ".ports" ++ "[" := by
    decide
  obtain ⟨htargets, hsources, hdestinations, hports⟩ := hlist
  simp only [path, indexed, hopen, htargets, hsources, hdestinations, hports, String.append_assoc,
    and_self]

/-- What is found along the places of the members of a list is the defect of the first that has
one. -/
theorem findSome?_map_zipIdx {α : Type} {field : String} {check : α → Option Defect.Cause}
    {xs : List α} (place : Nat → Place) (hpath : ∀ i, (place i).path = indexed field i)
    (hcause : ∀ i, (place i).cause? r = xs[i]?.bind check) :
    (xs.zipIdx.map fun q => place q.2).findSome? (defect? r) = firstIn field check xs := by
  rw [List.findSome?_map]
  refine findSome?_congr fun q hq => ?_
  rw [Function.comp_apply, defect?, hpath, hcause, List.mem_zipIdx_iff_getElem?.1 hq,
    Option.bind_some]

/-- A rule is built up to the first defect along its places. -/
theorem findSome?_ofRule {k : Nat} {x : RuleSpec} (hx : r.spec.rules[k]? = some x) (o : Origin) :
    (ofRule k x).findSome? (defect? r) = errorOf? (o.rule (!r.spec.appliedTo.isEmpty) k x) := by
  have hat : ∀ check : RuleSpec → Option Defect.Cause,
      r.spec.rules[k]?.bind check = check x := by
    intro check
    rw [hx, Option.bind_some]
  have hlist : defect? r (ruleTargets k) =
      if x.appliedTo = [] ∧ (!r.spec.appliedTo.isEmpty) = false then
        some (ofCause (indexed "spec.rules" k ++ ".appliedTo") .noScope)
      else none := by
    rw [defect?, cause?, hat, path_ruleTargets]
    simp only [Bool.not_eq_false', List.isEmpty_iff]
    split <;> rfl
  have htargets := findSome?_map_zipIdx (r := r) (ruleTarget k) (fun i => (path_ruleMember k i).1)
    fun i => hat fun x => x.appliedTo[i]?.bind ofTarget?
  have hsources := findSome?_map_zipIdx (r := r) (source k) (fun i => (path_ruleMember k i).2.1)
    fun i => hat fun x => x.sources[i]?.bind ofPeer?
  have hdestinations := findSome?_map_zipIdx (r := r) (destination k)
    (fun i => (path_ruleMember k i).2.2.1)
    fun i => hat fun x => x.destinations[i]?.bind ofPeer?
  have hports := findSome?_map_zipIdx (r := r) (port k) (fun i => (path_ruleMember k i).2.2.2)
    fun i => hat fun x => x.ports[i]?.bind ofPort?
  rw [o.errorOf?_rule, ← hlist, ← htargets, ← hsources, ← hdestinations, ← hports, ofRule]
  simp only [List.findSome?_append]
  rw [List.findSome?_cons]
  cases defect? r (ruleTargets k) <;> rfl

end Place

namespace Builder

/-- The metadata of a resource fails at its uid, its name or its namespace, in this order. -/
theorem errorOf?_origin (b : Builder) (r : Resource) :
    errorOf? (b.origin r.metadata) =
      [Place.uid, .name, .ownNamespace].findSome? (Place.defect? r) := by
  rw [origin]
  simp only [List.findSome?_cons, List.findSome?_nil, Place.defect?, Place.cause?]
  cases r.metadata.uid with
  | none => rfl
  | some uid =>
    by_cases hname : r.metadata.name.getD "" = ""
    · simp only [hname]
      rfl
    · have hnonempty : (r.metadata.name.getD "").isEmpty = false := by simpa using hname
      simp only [hnonempty, hname]
      cases r.metadata.ownNamespace <;> rfl

/-- A build goes up to the first defect along the places of the resource. -/
theorem errorOf?_eq_findSome? (b : Builder) (r : Resource) :
    errorOf? (b.objects r) = (Place.all r).findSome? (Place.defect? r) := by
  have htargets := Place.findSome?_map_zipIdx (r := r) .target Place.path_target fun _ => rfl
  have hrules : ∀ o : Origin,
      (r.spec.rules.zipIdx.flatMap fun q => Place.ofRule q.2 q.1).findSome? (Place.defect? r) =
        r.spec.rules.zipIdx.findSome? fun q =>
          errorOf? (o.rule (!r.spec.appliedTo.isEmpty) q.2 q.1) := by
    intro o
    rw [findSome?_flatMap]
    exact findSome?_congr fun q hq =>
      Place.findSome?_ofRule (List.mem_zipIdx_iff_getElem?.1 hq) o
  rw [Place.all, List.findSome?_append, List.findSome?_append, ← b.errorOf?_origin r,
    Option.or_assoc]
  refine errorOf?_bind fun o _ => ?_
  rw [o.errorOf?_objects, hrules o, htargets]

/-- **First defect.** A resource is built exactly when it is valid. Otherwise the build fails with
the name of the resource and the field of the first place at which something is wrong. -/
theorem build_blames_first (b : Builder) (r : Resource) :
    ((∃ built, b.build r = .ok built) ↔ r.IsValid) ∧
      ((∃ built, b.build r = .ok built) ∨ ∃ p c, r.IsFirstDefect p c ∧
        b.build r =
          .error (.build (r.metadata.name.getD "") c.message (some (c.field p.path)))) := by
  have hfirst := b.errorOf?_eq_findSome? r
  rw [build, Resource.isValid_iff_findSome?, ← hfirst]
  cases hb : b.objects r with
  | ok built => exact ⟨⟨fun _ => rfl, fun _ => ⟨built, rfl⟩⟩, .inl ⟨built, rfl⟩⟩
  | error d =>
    rw [hb] at hfirst
    obtain ⟨p, c, hpc, rfl⟩ := Resource.isFirstDefect_of_findSome? hfirst.symm
    refine ⟨⟨?_, ?_⟩, .inr ⟨p, c, hpc, rfl⟩⟩
    · rintro ⟨_, h⟩
      cases h
    · intro h
      cases h

/-- Of two rules that are not valid the first is blamed, and in it the sources before the ports. -/
example : (⟨"k", "default"⟩ : Builder).build {
      metadata := { name := some "web", ownNamespace := some "shop", uid := some "u" }
      spec := {
        appliedTo := [{ pods := some .empty }]
        rules := [
          { sources := [{ pods := some .empty }, { machines := some .empty }]
            ports := [{ port := 0 }] },
          { destinations := [{}] }] } } =
    .error (.build "web" "vmSelector must match at least one label"
      (some "spec.rules[0].sources[1].vmSelector")) := by
  rfl

end Builder

end FirewallOperator
