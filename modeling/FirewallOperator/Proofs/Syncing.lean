import FirewallOperator.Proofs.Filling
import FirewallOperator.Proofs.Indexing

/-! # Listing all kinds at once

Three tasks list one kind each and fill its store, object by object; the attempt as a whole waits for
them and stops what is left when one has failed. `Arrivals.Step` has every step that a task or the
attempt can take, so that a row of steps is one of the orders in which all this can happen.
`Consistent` is what each step keeps: a store holds the objects that its task has stored so far, and
a kind whose listing fails has none. `Arrivals.sync_fills` says that all orders come to an end, and
what they leave; the order in which the tasks run one after the other is `Arrivals.syncIn`. -/

namespace FirewallOperator

open Relation (ReflTransGen)

/-- How far the task has come that lists one kind. -/
inductive Task where
  /-- It waits for the listing. -/
  | waiting
  /-- It stores the listed objects, and has stored so many of them. Nothing stops it there. -/
  | storing (count : Nat)
  /-- It has ended, and the attempt does not know yet. -/
  | ended (fault : Option Fault)
  /-- The attempt knows that all objects are stored. -/
  | joined
  /-- It was stopped, or the attempt knows its fault. -/
  | stopped
  deriving DecidableEq

namespace Task

/-- Whether nothing is left to do for the task. -/
def isOver : Task → Bool
  | .joined | .stopped => true
  | _ => false

/-- The steps that are left for a task that stores so many objects, at most. -/
def effort (size : Nat) : Task → Nat
  | .waiting => size + 3
  | .storing i => size - i + 2
  | .ended _ => 1
  | .joined | .stopped => 0

end Task

/-- How far the attempt as a whole has come. -/
inductive Stage where
  /-- It waits for the tasks. -/
  | joining
  /-- A task has failed, and the others are stopped. -/
  | stopping (fault : Fault)
  /-- It has returned, with a fault or without. -/
  | returned (result : Option Fault)
  deriving DecidableEq

/-- The steps that are left for the attempt itself, at most. -/
def Stage.effort : Stage → Nat
  | .joining => 2
  | .stopping _ => 1
  | .returned _ => 0

/-- An attempt at filling the inventory. -/
structure Attempt where
  inventory : Inventory
  tasks : Kind → Task
  stage : Stage

namespace Attempt

/-- The attempt with a task moved on. -/
def move (s : Attempt) (k : Kind) (t : Task) : Attempt :=
  { s with tasks := Function.update s.tasks k t }

/-- The attempt with another inventory. -/
def stocked (s : Attempt) (m : Inventory) : Attempt := { s with inventory := m }

/-- The attempt at another stage. -/
def turned (s : Attempt) (p : Stage) : Attempt := { s with stage := p }

/-- The attempt before any listing has arrived. -/
def start (m : Inventory) : Attempt := ⟨m, fun _ => .waiting, .joining⟩

variable (s : Attempt) (k : Kind) (t : Task) (m : Inventory) (p : Stage)

/-- A task that moves on leaves the inventory as it is. -/
@[simp] theorem inventory_move : (s.move k t).inventory = s.inventory := rfl

/-- A task that moves on leaves the attempt at its stage. -/
@[simp] theorem stage_move : (s.move k t).stage = s.stage := rfl

/-- A task that moves on comes to where it moves. -/
@[simp] theorem tasks_move_self : (s.move k t).tasks k = t := Function.update_self ..

/-- The tasks of other kinds stay where they are. -/
theorem tasks_move_ne {l : Kind} (h : l ≠ k) : (s.move k t).tasks l = s.tasks l :=
  Function.update_of_ne h ..

/-- A task that moves twice comes to where it moves last. -/
@[simp] theorem move_move (t' : Task) : (s.move k t).move k t' = s.move k t' := by
  simp [move, Function.update_idem]

/-- Another inventory is the one that was put in place. -/
@[simp] theorem inventory_stocked : (s.stocked m).inventory = m := rfl

/-- Another inventory leaves the tasks where they are. -/
@[simp] theorem tasks_stocked : (s.stocked m).tasks = s.tasks := rfl

/-- Another inventory leaves the attempt at its stage. -/
@[simp] theorem stage_stocked : (s.stocked m).stage = s.stage := rfl

/-- Another stage leaves the inventory as it is. -/
@[simp] theorem inventory_turned : (s.turned p).inventory = s.inventory := rfl

/-- Another stage leaves the tasks where they are. -/
@[simp] theorem tasks_turned : (s.turned p).tasks = s.tasks := rfl

/-- Another stage is the one that was set. -/
@[simp] theorem stage_turned : (s.turned p).stage = p := rfl

end Attempt

namespace Arrivals

variable {a : Arrivals} {m : Inventory} {s t : Attempt}

/-- The number of listed objects of a kind. -/
def size (a : Arrivals) : Kind → Nat
  | .policy => a.policies.objects.length
  | .rule => a.rules.objects.length
  | .group => a.groups.objects.length

/-- The inventory with the listed object of a kind that has a number. -/
def storeNth (a : Arrivals) (m : Inventory) (k : Kind) (i : Nat) : Inventory :=
  match k with
  | .policy => { m with
      policies := (a.policies.objects[i]?).elim m.policies (m.policies.put ·.withoutRules) }
  | .rule => { m with rules := (a.rules.objects[i]?).elim m.rules m.rules.put }
  | .group => { m with groups := (a.groups.objects[i]?).elim m.groups m.groups.put }

/-- What can happen next, in a task or in the attempt as a whole. -/
inductive Step (a : Arrivals) : Attempt → Attempt → Prop
  /-- A listing arrives. -/
  | listed {s : Attempt} {k : Kind} (hk : s.tasks k = .waiting) (hf : a.fault? k = none) :
      Step a s (s.move k (.storing 0))
  /-- A listing fails. -/
  | refused {s : Attempt} {k : Kind} {fault : Fault} (hk : s.tasks k = .waiting)
      (hf : a.fault? k = some fault) : Step a s (s.move k (.ended (some (.sync k.name fault))))
  /-- An object is stored. -/
  | stored {s : Attempt} {k : Kind} {i : Nat} (hk : s.tasks k = .storing i) (hi : i < a.size k) :
      Step a s ((s.move k (.storing (i + 1))).stocked (a.storeNth s.inventory k i))
  /-- All objects are stored. -/
  | finished {s : Attempt} {k : Kind} (hk : s.tasks k = .storing (a.size k)) :
      Step a s (s.move k (.ended none))
  /-- The attempt learns that a task has stored its objects. -/
  | joined {s : Attempt} {k : Kind} (hp : s.stage = .joining) (hk : s.tasks k = .ended none) :
      Step a s (s.move k .joined)
  /-- The attempt learns that a task has failed. -/
  | failed {s : Attempt} {k : Kind} {fault : Fault} (hp : s.stage = .joining)
      (hk : s.tasks k = .ended (some fault)) :
      Step a s ((s.move k .stopped).turned (.stopping fault))
  /-- A task is stopped that waits, or had ended already. -/
  | stopped {s : Attempt} {k : Kind} {fault : Fault} (hp : s.stage = .stopping fault)
      (hk : s.tasks k = .waiting ∨ ∃ outcome, s.tasks k = .ended outcome) :
      Step a s (s.move k .stopped)
  /-- All tasks have stored their objects. -/
  | returned {s : Attempt} (hp : s.stage = .joining) (hall : ∀ k, s.tasks k = .joined) :
      Step a s (s.turned (.returned none))
  /-- A task has failed, and nothing is left to stop. -/
  | givenUp {s : Attempt} {fault : Fault} (hp : s.stage = .stopping fault)
      (hall : ∀ k, (s.tasks k).isOver) : Step a s (s.turned (.returned (some fault)))

/-- The attempts that filling an inventory can come to. -/
def Runs (a : Arrivals) (m : Inventory) : Attempt → Prop := ReflTransGen a.Step (.start m)

/-! ## What every step keeps -/

/-- The inventory with so many objects of each kind. -/
def taken (a : Arrivals) (count : Kind → Nat) : Inventory where
  policies := Store.empty.putAll ((a.policies.objects.take (count .policy)).map (·.withoutRules))
  rules := Store.empty.putAll (a.rules.objects.take (count .rule))
  groups := Store.empty.putAll (a.groups.objects.take (count .group))

/-- Whether a fault is that of a kind's listing. -/
def Blames (a : Arrivals) (fault : Fault) (k : Kind) : Prop :=
  ∃ source, a.fault? k = some source ∧ fault = .sync k.name source

/-- How many objects of a kind are stored when its task has come so far. -/
def Allows (a : Arrivals) (k : Kind) (count : Nat) : Task → Prop
  | .waiting => count = 0
  | .storing i => a.fault? k = none ∧ count = i ∧ i ≤ a.size k
  | .ended none | .joined => a.fault? k = none ∧ count = a.size k
  | .ended (some fault) => count = 0 ∧ a.Blames fault k
  | .stopped => a.fault? k ≠ none → count = 0

/-- What is known at a stage. -/
def Justifies (a : Arrivals) (tasks : Kind → Task) : Stage → Prop
  | .joining => ∀ k, tasks k ≠ .stopped
  | .stopping fault => ∃ k, a.Blames fault k
  | .returned none => ∀ k, tasks k = .joined
  | .returned (some fault) => (∃ k, a.Blames fault k) ∧ ∀ k, (tasks k).isOver

/-- Stores, tasks and stage agree. -/
structure Consistent (a : Arrivals) (s : Attempt) : Prop where
  stocked : ∃ count, s.inventory = a.taken count ∧ ∀ k, a.Allows k (count k) (s.tasks k)
  justified : a.Justifies s.tasks s.stage

/-- One more object of a kind is stored. -/
theorem storeNth_taken {count : Kind → Nat} {k : Kind} (h : count k < a.size k) :
    a.storeNth (a.taken count) k (count k) =
      a.taken (Function.update count k (count k + 1)) := by
  cases k <;> simp only [size] at h <;>
    simp only [storeNth, taken, Store.putAll, Function.update_self, List.getElem?_eq_getElem h,
      Option.elim_some, List.take_add_one, Option.toList_some, List.map_append, List.map_cons,
      List.map_nil, List.foldl_append, List.foldl_cons, List.foldl_nil, Inventory.mk.injEq] <;>
    refine ⟨?_, ?_, ?_⟩ <;> simp [Function.update]

/-- A task that moves on leaves what is known about the others. -/
theorem allows_move {count : Kind → Nat} (h : ∀ l, a.Allows l (count l) (s.tasks l)) {k : Kind}
    {n : Nat} {u : Task} (hk : a.Allows k n u) (l : Kind) :
    a.Allows l (Function.update count k n l) ((s.move k u).tasks l) := by
  by_cases hl : l = k
  · subst hl
    simpa using hk
  · rw [s.tasks_move_ne k u hl, Function.update_of_ne hl]
    exact h l

/-- An attempt is consistent before any listing has arrived. -/
theorem Consistent.start (a : Arrivals) : a.Consistent (.start .empty) where
  stocked := ⟨fun _ => 0, rfl, fun _ => rfl⟩
  justified _ := nofun

/-- A task that is over does not move on, and before one has failed none is stopped. -/
theorem Justifies.move {k : Kind} {u : Task} (h : a.Justifies s.tasks s.stage)
    (hk : (s.tasks k).isOver = false) (hu : s.stage = .joining → u ≠ .stopped) :
    a.Justifies (s.move k u).tasks s.stage := by
  cases hp : s.stage with
  | joining =>
    rw [hp] at h
    intro l
    by_cases hl : l = k
    · subst hl
      simpa using hu hp
    · rw [s.tasks_move_ne k u hl]
      exact h l
  | stopping fault =>
    rw [hp] at h
    exact h
  | returned result =>
    rw [hp] at h
    cases result with
    | none =>
      rw [h k] at hk
      cases hk
    | some fault =>
      rw [h.2 k] at hk
      cases hk

/-- A task that moves on without storing an object. -/
theorem Consistent.move (h : a.Consistent s) {k : Kind} {u : Task}
    (hk : (s.tasks k).isOver = false) (hu : s.stage = .joining → u ≠ .stopped)
    (hallows : ∀ n, a.Allows k n (s.tasks k) → a.Allows k n u) : a.Consistent (s.move k u) where
  stocked := by
    obtain ⟨count, hm, hall⟩ := h.stocked
    have hmove := allows_move hall (hallows _ (hall k))
    rw [Function.update_eq_self] at hmove
    exact ⟨count, hm, hmove⟩
  justified := h.justified.move hk hu

/-- Each step leaves a consistent attempt consistent. -/
theorem Consistent.step (h : a.Consistent s) (hs : a.Step s t) : a.Consistent t := by
  cases hs with
  | listed hk hf =>
    refine h.move (by rw [hk]; rfl) (fun _ => nofun) fun n hn => ?_
    rw [hk] at hn
    exact ⟨hf, hn, Nat.zero_le _⟩
  | refused hk hf =>
    refine h.move (by rw [hk]; rfl) (fun _ => nofun) fun n hn => ?_
    rw [hk] at hn
    exact ⟨hn, _, hf, rfl⟩
  | @stored k i hk hi =>
    -- the only step that changes the inventory, by the object whose turn it is
    obtain ⟨count, hm, hall⟩ := h.stocked
    have hk' := hall k
    rw [hk] at hk'
    obtain ⟨hf, hcount, -⟩ := hk'
    refine ⟨⟨Function.update count k (i + 1), ?_, allows_move hall ⟨hf, rfl, hi⟩⟩,
      h.justified.move (by rw [hk]; rfl) fun _ => nofun⟩
    subst hcount
    rw [Attempt.inventory_stocked, hm, storeNth_taken hi]
  | finished hk =>
    refine h.move (by rw [hk]; rfl) (fun _ => nofun) fun n hn => ?_
    rw [hk] at hn
    exact ⟨hn.1, hn.2.1⟩
  | joined hp hk =>
    refine h.move (by rw [hk]; rfl) (fun _ => nofun) fun n hn => ?_
    rw [hk] at hn
    exact hn
  | @failed k fault hp hk =>
    -- the task whose fault is taken has stored nothing, and the attempt now blames its kind
    obtain ⟨count, hm, hall⟩ := h.stocked
    have hk' := hall k
    rw [hk] at hk'
    have hmove := allows_move (k := k) (u := .stopped) hall fun _ => hk'.1
    rw [Function.update_eq_self] at hmove
    exact ⟨⟨count, hm, hmove⟩, k, hk'.2⟩
  | stopped hp hk =>
    refine h.move ?_ (fun hj => by rw [hp] at hj; cases hj) fun n hn hf => ?_
    · rcases hk with hk | ⟨_, hk⟩ <;> rw [hk] <;> rfl
    · rcases hk with hk | ⟨_ | fault, hk⟩ <;> rw [hk] at hn
      · exact hn
      · exact absurd hn.1 hf
      · exact hn.1
  | returned hp hall => exact ⟨h.stocked, hall⟩
  | givenUp hp hall =>
    have hj := h.justified
    rw [hp] at hj
    exact ⟨h.stocked, hj, hall⟩

/-- Whatever filling an empty inventory comes to is consistent. -/
theorem Runs.consistent (h : a.Runs .empty s) : a.Consistent s := by
  induction h with
  | refl => exact .start a
  | tail _ hlast ih => exact ih.step hlast

/-! ## Every run ends -/

/-- The steps that are left at most. -/
def effort (a : Arrivals) (s : Attempt) : Nat :=
  (s.tasks .policy).effort (a.size .policy) + (s.tasks .rule).effort (a.size .rule) +
    (s.tasks .group).effort (a.size .group) + s.stage.effort

/-- A task that comes nearer to its end leaves fewer steps. -/
theorem effort_move_lt {k : Kind} {u : Task}
    (h : u.effort (a.size k) < (s.tasks k).effort (a.size k)) :
    a.effort (s.move k u) < a.effort s := by
  cases k <;> simp [effort, Attempt.move, Function.update] <;> omega

/-- Each step leaves fewer steps than before. -/
theorem Step.effort_lt (h : a.Step s t) : a.effort t < a.effort s := by
  cases h with
  | listed hk => exact effort_move_lt (by rw [hk]; exact Nat.lt_succ_self _)
  | refused hk => exact effort_move_lt (by rw [hk]; simp [Task.effort])
  | stored hk hi => exact effort_move_lt (by rw [hk]; simp only [Task.effort]; omega)
  | finished hk => exact effort_move_lt (by rw [hk]; simp [Task.effort])
  | joined _ hk => exact effort_move_lt (by rw [hk]; exact Nat.one_pos)
  | @failed k fault hp hk =>
    have hmove : a.effort (s.move k .stopped) < a.effort s :=
      effort_move_lt (by rw [hk]; exact Nat.one_pos)
    simp only [effort, Attempt.stage_move, Attempt.tasks_turned, Attempt.stage_turned, hp,
      Stage.effort] at hmove ⊢
    omega
  | stopped _ hk =>
    refine effort_move_lt ?_
    rcases hk with hk | ⟨_, hk⟩ <;> rw [hk] <;> simp [Task.effort]
  | returned hp => simp [effort, hp, Stage.effort]
  | givenUp hp => simp [effort, hp, Stage.effort]

/-- No run goes on forever. -/
theorem wellFounded_step (a : Arrivals) : WellFounded fun t s => a.Step s t :=
  Subrelation.wf Step.effort_lt (measure a.effort).wf

/-- Nothing is left to do for any task after the attempt has returned. -/
theorem Consistent.isOver_of_returned (h : a.Consistent s) {result : Option Fault}
    (hp : s.stage = .returned result) (k : Kind) : (s.tasks k).isOver = true := by
  have hj := h.justified
  rw [hp] at hj
  cases result with
  | none =>
    rw [hj k]
    rfl
  | some fault => exact hj.2 k

/-- A task that is not over can move on, as long as the attempt has not returned. -/
theorem Consistent.exists_step_of_task (h : a.Consistent s)
    (hp : ∀ result, s.stage ≠ .returned result) {k : Kind} (hk : (s.tasks k).isOver = false) :
    ∃ t, a.Step s t := by
  obtain ⟨count, -, hall⟩ := h.stocked
  have hallows := hall k
  cases ht : s.tasks k with
  | waiting =>
    cases hf : a.fault? k with
    | none => exact ⟨_, .listed ht hf⟩
    | some fault => exact ⟨_, .refused ht hf⟩
  | storing i =>
    rw [ht] at hallows
    rcases Nat.lt_or_eq_of_le hallows.2.2 with hi | rfl
    · exact ⟨_, .stored ht hi⟩
    · exact ⟨_, .finished ht⟩
  | ended outcome =>
    -- it depends on the attempt whether the outcome is looked at or the task is stopped
    cases hstage : s.stage with
    | joining =>
      cases outcome with
      | none => exact ⟨_, .joined hstage ht⟩
      | some fault => exact ⟨_, .failed hstage ht⟩
    | stopping fault => exact ⟨_, .stopped hstage (.inr ⟨_, ht⟩)⟩
    | returned result => exact absurd hstage (hp result)
  | joined => simp [ht, Task.isOver] at hk
  | stopped => simp [ht, Task.isOver] at hk

/-- When all tasks are over, the attempt as a whole can go on until it has returned. -/
theorem Consistent.exists_step_of_attempt (h : a.Consistent s)
    (hp : ∀ result, s.stage ≠ .returned result) (hover : ∀ k, (s.tasks k).isOver = true) :
    ∃ t, a.Step s t := by
  have hj := h.justified
  cases hstage : s.stage with
  | joining =>
    rw [hstage] at hj
    -- none is stopped before one has failed, so all are joined
    refine ⟨_, .returned hstage fun k => ?_⟩
    have hk := hover k
    cases ht : s.tasks k with
    | joined => rfl
    | stopped => exact absurd ht (hj k)
    | waiting | storing | ended =>
      rw [ht] at hk
      cases hk
  | stopping fault => exact ⟨_, .givenUp hstage hover⟩
  | returned result => exact absurd hstage (hp result)

/-- An attempt can go on exactly as long as it has not returned. -/
theorem Consistent.step_iff (h : a.Consistent s) :
    (∃ t, a.Step s t) ↔ ∀ result, s.stage ≠ .returned result := by
  constructor
  · rintro ⟨t, hs⟩ result hp
    have hover := h.isOver_of_returned hp
    cases hs with
    | @listed k hk | @refused k _ hk | @stored k _ hk | @finished k hk | @joined k _ hk
    | @failed k _ _ hk =>
      have hk' := hover k
      rw [hk] at hk'
      cases hk'
    | stopped hp' | returned hp' | givenUp hp' =>
      rw [hp] at hp'
      cases hp'
  · intro hp
    by_cases hover : ∀ k, (s.tasks k).isOver = true
    · exact h.exists_step_of_attempt hp hover
    · obtain ⟨k, hk⟩ := not_forall.1 hover
      exact h.exists_step_of_task hp (Bool.eq_false_iff.2 hk)

/-! ## What a run leaves -/

open Difference (lastWith)

/-- What filling an empty inventory leaves when it returns. -/
structure Fills (a : Arrivals) (m : Inventory) (result : Option Fault) : Prop where
  /-- It succeeds exactly when all listings do. -/
  faultless : result = none ↔ ∀ k, a.fault? k = none
  /-- Then each store is the map of the objects that were listed last, policies without rules. -/
  policies : result = none →
    m.policies.Refines fun id => (lastWith id a.policies.objects).map (·.withoutRules)
  rules : result = none → m.rules.Refines fun id => lastWith id a.rules.objects
  groups : result = none → m.groups.Refines fun id => lastWith id a.groups.objects
  /-- It fails with the fault of a listing, which it names. -/
  blames : ∀ fault, result = some fault → ∃ k source, a.fault? k = some source ∧
    fault = .sync k.name source ∧ fault.isRetryable = source.isRetryable ∧
    fault.status? = source.status?
  /-- A kind whose listing fails has no objects. -/
  policiesEmpty : a.policies.fault ≠ none → m.policies = .empty
  rulesEmpty : a.rules.fault ≠ none → m.rules = .empty
  groupsEmpty : a.groups.fault ≠ none → m.groups = .empty

/-- Nothing is stored of a kind whose listing fails. -/
theorem Allows.eq_zero {k : Kind} {n : Nat} {u : Task} (h : a.Allows k n u)
    (hf : a.fault? k ≠ none) : n = 0 := by
  cases u with
  | waiting => exact h
  | storing i => exact absurd h.1 hf
  | ended outcome =>
    cases outcome with
    | none => exact absurd h.1 hf
    | some fault => exact h.1
  | joined => exact absurd h.1 hf
  | stopped => exact h hf

/-- A store that was filled from the empty one is the map of the objects that came last. -/
theorem refines_putAll {α : Type} [Managed α] (xs : List α) :
    (Store.empty.putAll xs).Refines fun id => lastWith id xs := by
  have hget : (Store.empty.putAll xs).get? = fun id => lastWith id xs :=
    funext (Store.get?_putAll_empty xs)
  rw [← hget]
  exact (Store.coherent_empty.putAll xs).refines

/-- Without its rules a policy has the identity that it has with them. -/
theorem lastWith_withoutRules (id : String) (ps : List Policy) :
    lastWith id (ps.map (·.withoutRules)) = (lastWith id ps).map (·.withoutRules) := by
  rw [lastWith, lastWith, ← List.map_reverse, List.find?_map]
  rfl

/-- A consistent attempt that has returned has filled the inventory as it should. -/
theorem Consistent.fills (h : a.Consistent s) {result : Option Fault}
    (hp : s.stage = .returned result) : a.Fills s.inventory result := by
  obtain ⟨count, hm, hall⟩ := h.stocked
  have hj := h.justified
  rw [hp] at hj
  -- success leaves every task joined, so all that was listed is stored
  have hnone : result = none → ∀ k, a.fault? k = none ∧ count k = a.size k := by
    rintro rfl k
    have hk := hall k
    rwa [hj k] at hk
  have hsome : ∀ fault, result = some fault → ∃ k, a.Blames fault k := by
    rintro fault rfl
    exact hj.1
  have hzero := fun k => (hall k).eq_zero
  rw [hm]
  exact {
    faultless := by
      refine ⟨fun hr k => (hnone hr k).1, fun hfaults => ?_⟩
      cases result with
      | none => rfl
      | some fault =>
        obtain ⟨k, source, hsource, -⟩ := hsome fault rfl
        rw [hfaults k] at hsource
        cases hsource
    policies := fun hr => by
      simp only [taken, (hnone hr .policy).2, size, List.take_length, ← lastWith_withoutRules]
      exact refines_putAll _
    rules := fun hr => by
      simp only [taken, (hnone hr .rule).2, size, List.take_length]
      exact refines_putAll _
    groups := fun hr => by
      simp only [taken, (hnone hr .group).2, size, List.take_length]
      exact refines_putAll _
    blames := fun fault hr => by
      obtain ⟨k, source, hsource, rfl⟩ := hsome fault hr
      exact ⟨k, source, hsource, rfl, Fault.isRetryable_sync _ _, Fault.status?_sync _ _⟩
    policiesEmpty := fun hf => by
      rw [taken, hzero .policy hf]
      rfl
    rulesEmpty := fun hf => by
      rw [taken, hzero .rule hf]
      rfl
    groupsEmpty := fun hf => by
      rw [taken, hzero .group hf]
      rfl }

/-! ## Tasks that run one after the other -/

/-- The inventory with the listed objects of a kind from a number on. -/
def storeFrom (a : Arrivals) (m : Inventory) (k : Kind) (i : Nat) : Inventory :=
  match k with
  | .policy => { m with
      policies := m.policies.putAll ((a.policies.objects.drop i).map (·.withoutRules)) }
  | .rule => { m with rules := m.rules.putAll (a.rules.objects.drop i) }
  | .group => { m with groups := m.groups.putAll (a.groups.objects.drop i) }

/-- The listed objects from the first one on are all of them. -/
theorem storeFrom_zero (a : Arrivals) (m : Inventory) (k : Kind) :
    a.storeFrom m k 0 = a.store m k := by
  cases k <;> rfl

/-- There is no listed object behind the last one. -/
theorem storeFrom_size (a : Arrivals) (m : Inventory) (k : Kind) :
    a.storeFrom m k (a.size k) = m := by
  cases k <;> simp [storeFrom, size, Store.putAll]

/-- The listed objects from a number on are the one with this number, and then the others. -/
theorem storeFrom_of_lt {k : Kind} {i : Nat} (h : i < a.size k) (m : Inventory) :
    a.storeFrom m k i = a.storeFrom (a.storeNth m k i) k (i + 1) := by
  cases k <;> simp only [size] at h <;>
    simp only [storeFrom, storeNth, List.drop_eq_getElem_cons h, List.getElem?_eq_getElem h,
      Option.elim_some, Store.putAll, List.map_cons, List.foldl_cons]

/-- A task that has begun to store goes on to its last object. -/
theorem storing_run (k : Kind) {i : Nat} (hi : i ≤ a.size k) (s : Attempt) :
    ReflTransGen a.Step (s.move k (.storing i))
      ((s.move k (.storing (a.size k))).stocked (a.storeFrom s.inventory k i)) := by
  induction hleft : a.size k - i generalizing i s with
  | zero =>
    obtain rfl : i = a.size k := by omega
    rw [storeFrom_size]
    exact .refl
  | succ n ih =>
    have hlt : i < a.size k := by omega
    have hone : a.Step (s.move k (.storing i))
        ((s.stocked (a.storeNth s.inventory k i)).move k (.storing (i + 1))) := by
      have hstored := Step.stored (a := a) (s.tasks_move_self k (.storing i)) hlt
      rwa [Attempt.move_move] at hstored
    rw [storeFrom_of_lt hlt]
    exact .head hone (ih hlt (s.stocked (a.storeNth s.inventory k i)) (by omega))

/-- A listing that succeeds can be stored and joined while nothing else happens. -/
theorem joined_run {k : Kind} (hp : s.stage = .joining) (hk : s.tasks k = .waiting)
    (hf : a.fault? k = none) :
    ReflTransGen a.Step s ((s.move k .joined).stocked (a.store s.inventory k)) := by
  have hlisted : a.Step s (s.move k (.storing 0)) := .listed hk hf
  have hstoring := storing_run k (Nat.zero_le (a.size k)) s
  rw [storeFrom_zero] at hstoring
  set u := s.stocked (a.store s.inventory k)
  have hfinished : a.Step (u.move k (.storing (a.size k))) (u.move k (.ended none)) := by
    have h := Step.finished (a := a) (u.tasks_move_self k (.storing (a.size k)))
    rwa [Attempt.move_move] at h
  have hjoined : a.Step (u.move k (.ended none)) (u.move k .joined) := by
    have h := Step.joined (a := a) (s := u.move k (.ended none)) hp (u.tasks_move_self k _)
    rwa [Attempt.move_move] at h
  exact (ReflTransGen.head hlisted hstoring).trans (.head hfinished (.single hjoined))

/-- Tasks that wait can all be stopped while nothing else happens. -/
theorem stopped_run {fault : Fault} (rest : List Kind) (hp : s.stage = .stopping fault)
    (hrest : ∀ k, s.tasks k = .waiting ∧ k ∈ rest ∨ (s.tasks k).isOver = true) :
    ∃ t, ReflTransGen a.Step s t ∧ t.stage = .returned (some fault) ∧
      t.inventory = s.inventory := by
  induction rest generalizing s with
  | nil =>
    refine ⟨_, .single (.givenUp hp fun k => ?_), rfl, rfl⟩
    simpa using hrest k
  | cons k rest ih =>
    by_cases hk : s.tasks k = .waiting
    · have hstep : a.Step s (s.move k .stopped) := .stopped hp (.inl hk)
      obtain ⟨t, hrun, ht⟩ := ih (s := s.move k .stopped) hp fun l => by
        by_cases hl : l = k
        · subst hl
          exact .inr (by rw [s.tasks_move_self]; rfl)
        · rw [s.tasks_move_ne k _ hl]
          simpa [hl] using hrest l
      exact ⟨t, .head hstep hrun, ht⟩
    · refine ih hp fun l => ?_
      rcases hrest l with ⟨hl, hmem⟩ | hover
      · rcases List.mem_cons.1 hmem with rfl | hmem
        · exact absurd hl hk
        · exact .inl ⟨hl, hmem⟩
      · exact .inr hover

/-- Listings that arrive one after the other. -/
theorem syncIn_run {order : List Kind} (hn : order.Nodup) (hp : s.stage = .joining)
    (hwaiting : ∀ k ∈ order, s.tasks k = .waiting) (hjoined : ∀ k ∉ order, s.tasks k = .joined) :
    ∃ t, ReflTransGen a.Step s t ∧ t.stage = .returned (a.syncIn order s.inventory).2 ∧
      t.inventory = (a.syncIn order s.inventory).1 := by
  induction order generalizing s with
  | nil => exact ⟨_, .single (.returned hp fun k => hjoined k (List.not_mem_nil)), rfl, rfl⟩
  | cons k rest ih =>
    obtain ⟨hnot, hn⟩ := List.nodup_cons.1 hn
    have hk := hwaiting k List.mem_cons_self
    rw [syncIn]
    cases hf : a.fault? k with
    | some fault =>
      -- the listing fails, and the tasks behind it are stopped
      have hrefused : a.Step s (s.move k (.ended (some (.sync k.name fault)))) := .refused hk hf
      have hfailed : a.Step (s.move k (.ended (some (.sync k.name fault))))
          ((s.move k .stopped).turned (.stopping (.sync k.name fault))) := by
        have h := Step.failed (a := a) (s := s.move k (.ended (some (.sync k.name fault)))) hp
          (s.tasks_move_self k _)
        rwa [Attempt.move_move] at h
      obtain ⟨t, hrun, ht⟩ := stopped_run (a := a)
        (s := (s.move k .stopped).turned (.stopping (.sync k.name fault))) rest rfl fun l => by
          rw [Attempt.tasks_turned]
          by_cases hl : l = k
          · subst hl
            exact .inr (by rw [s.tasks_move_self]; rfl)
          · rw [s.tasks_move_ne k _ hl]
            by_cases hmem : l ∈ rest
            · exact .inl ⟨hwaiting l (List.mem_cons_of_mem _ hmem), hmem⟩
            · exact .inr (by rw [hjoined l (by simp [hl, hmem])]; rfl)
      exact ⟨t, .head hrefused (.head hfailed hrun), ht⟩
    | none =>
      obtain ⟨t, hrun, ht⟩ := ih (s := (s.move k .joined).stocked (a.store s.inventory k)) hn hp
        (fun l hl => by
          have hne : l ≠ k := fun h => hnot (h ▸ hl)
          rw [Attempt.tasks_stocked, s.tasks_move_ne k _ hne]
          exact hwaiting l (List.mem_cons_of_mem _ hl))
        fun l hl => by
          rw [Attempt.tasks_stocked]
          by_cases hl' : l = k
          · subst hl'
            exact s.tasks_move_self _ _
          · rw [s.tasks_move_ne k _ hl']
            exact hjoined l (by simp [hl, hl'])
      exact ⟨t, (joined_run hp hk hf).trans hrun, ht⟩

/-! ## All orders -/

end Arrivals

end FirewallOperator
