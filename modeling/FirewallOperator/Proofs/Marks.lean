import FirewallOperator.Proofs.Filling
import Mathlib.Data.List.Induction

/-! # Marked objects that are stored

An object that is marked asks for its removal, and should not be stored. Changes see to that, since
`Store.apply` removes what is marked. Two other ways into a store do not look at the mark: listings
are stored as they are, and so are groups that are written one at a time. `Builder.marks_absent_iff`
says that no job and no answer of the backend does worse: nothing that is marked is ever stored
exactly when nothing marked comes in these two ways without being replaced at once. -/

namespace FirewallOperator

open Operation

/-! ## Stores without marked objects -/

/-- No stored object is marked. -/
def Store.Unmarked {α : Type} [Managed α] (s : Store α) : Prop :=
  ∀ id x, s.get? id = some x → Managed.marked x = false

/-- For each identity, the last object of a list is not marked. -/
def EndsUnmarked {α : Type} [Managed α] (xs : List α) : Prop :=
  ∀ id x, Difference.lastWith id xs = some x → Managed.marked x = false

namespace Store

variable {α : Type} [Managed α] {s : Store α}

/-- The empty store has no marked object. -/
theorem unmarked_empty : (empty : Store α).Unmarked := nofun

/-- Storing objects as they are keeps marked ones away exactly when the last ones are not marked. -/
theorem Unmarked.putAll_iff (h : s.Unmarked) (xs : List α) :
    (s.putAll xs).Unmarked ↔ EndsUnmarked xs := by
  constructor
  · intro hall id x hlast
    refine hall id x ?_
    rw [get?_putAll, hlast, Option.some_or]
  · intro hends id x hget
    rw [get?_putAll] at hget
    cases hlast : Difference.lastWith id xs with
    | none =>
      rw [hlast, Option.none_or] at hget
      exact h id x hget
    | some y =>
      rw [hlast, Option.some_or] at hget
      exact hends id x (hlast.trans hget)

/-- Applying objects keeps marked ones away, whatever they are. -/
theorem Unmarked.applyAll (h : s.Unmarked) (xs : List α) : (s.applyAll xs).Unmarked := by
  intro id x hget
  rw [get?_applyAll] at hget
  cases hlast : Difference.lastWith id xs with
  | none =>
    simp only [hlast] at hget
    exact h id x hget
  | some y =>
    simp only [hlast] at hget
    split at hget
    · cases hget
    case isFalse hmark =>
      cases hget
      exact Bool.eq_false_iff.2 hmark

end Store

/-- No stored object of any kind is marked. -/
structure Inventory.Unmarked (m : Inventory) : Prop where
  policies : m.policies.Unmarked
  rules : m.rules.Unmarked
  groups : m.groups.Unmarked

/-- For each kind and identity, the last object that is listed is not marked. -/
structure Arrivals.EndUnmarked (a : Arrivals) : Prop where
  policies : EndsUnmarked a.policies.objects
  rules : EndsUnmarked a.rules.objects
  groups : EndsUnmarked a.groups.objects

/-- Policies keep their marks when they lose their rules. -/
theorem endsUnmarked_withoutRules (ps : List Policy) :
    EndsUnmarked (ps.map (·.withoutRules)) ↔ EndsUnmarked ps := by
  have hlast : ∀ id, Difference.lastWith id (ps.map (·.withoutRules)) =
      (Difference.lastWith id ps).map (·.withoutRules) := by
    intro id
    rw [Difference.lastWith, ← List.map_reverse, List.find?_map]
    rfl
  simp only [EndsUnmarked, hlast, Option.map_eq_some_iff, forall_exists_index, and_imp,
    forall_apply_eq_imp_iff₂]
  exact Iff.rfl

/-- Nothing marked is stored in the beginning exactly when the listings end so. -/
theorem Arrivals.unmarked_filled_iff (a : Arrivals) :
    (a.filled .empty).Unmarked ↔ a.EndUnmarked := by
  have hpolicies : (a.filled .empty).policies.Unmarked ↔ EndsUnmarked a.policies.objects :=
    (Store.unmarked_empty.putAll_iff _).trans (endsUnmarked_withoutRules _)
  have hrules : (a.filled .empty).rules.Unmarked ↔ EndsUnmarked a.rules.objects :=
    Store.unmarked_empty.putAll_iff _
  have hgroups : (a.filled .empty).groups.Unmarked ↔ EndsUnmarked a.groups.objects :=
    Store.unmarked_empty.putAll_iff _
  constructor
  · intro h
    exact ⟨hpolicies.1 h.policies, hrules.1 h.rules, hgroups.1 h.groups⟩
  · intro h
    exact ⟨hpolicies.2 h.policies, hrules.2 h.rules, hgroups.2 h.groups⟩

/-- A change stores nothing that is marked. -/
theorem Inventory.Unmarked.after {b : Builder} {m : Inventory} {c : Change} (h : m.Unmarked)
    (hc : Change.Planned b m c) : c.after.Unmarked := by
  obtain ⟨-, hrules, hgroups⟩ := hc.applied
  refine ⟨fun id p hp => ?_, hrules ▸ h.rules.applyAll _, hgroups ▸ h.groups.applyAll _⟩
  rcases hc.policy_after hp with hold | hmark
  · exact h.policies id p hold
  · exact hmark

/-! ## Jobs -/

/-- The groups that are written one at a time until the backend refuses one. -/
def acceptedGroups : List (Option Fault) → List Group → List Group
  | _, [] => []
  | answers, g :: rest =>
    match answers.head?.join with
    | none => g :: acceptedGroups answers.tail rest
    | some _ => []

/-- A job brings no marked object into a store. -/
def Job.PutsUnmarked (job : Job) (w : World) : Prop :=
  match job with
  | .updateGroups gs => EndsUnmarked (acceptedGroups w.writes gs)
  | _ => True

namespace Builder

variable {b : Builder} {a : Arrivals} {w : World}

/-- Groups that are accepted are stored, and nothing else changes. -/
theorem inventory_after_updateGroups (b : Builder) (gs : List Group) (w : World) :
    ((b.updateGroups gs).after w).inventory =
      { w.inventory with groups := w.inventory.groups.putAll (acceptedGroups w.writes gs) } := by
  -- on the groups, for every world: each is stored before the next is written
  induction gs generalizing w with
  | nil => rfl
  | cons g rest ih =>
    rw [after, exec_updateGroups_cons, acceptedGroups, ← World.answer]
    cases ha : w.answer with
    | none => exact ih _
    | some fault => rfl

/-- Where nothing marked is stored, only groups that are written as they are can change that. -/
theorem serve_unmarked_iff (h : w.inventory.Unmarked) (job : Job) :
    ((b.serve job).after w).inventory.Unmarked ↔ job.PutsUnmarked w := by
  by_cases hgroups : ∃ gs, job = .updateGroups gs
  · obtain ⟨gs, rfl⟩ := hgroups
    have hafter := b.inventory_after_updateGroups gs w
    rw [serve, hafter, Job.PutsUnmarked, ← h.groups.putAll_iff]
    constructor
    · intro hall
      exact hall.groups
    · intro hput
      exact ⟨h.policies, h.rules, hput⟩
  · have hputs : job.PutsUnmarked w := by
      cases job with
      | updateGroups gs => exact absurd ⟨gs, rfl⟩ hgroups
      | _ => trivial
    refine iff_of_true ?_ hputs
    refine serve_keeps (fun gs hjob => hgroups ⟨gs, hjob⟩) ?_ ?_ ?_ h
    · intro m r built c _ hm hb hc
      exact hm.after (.update hb hc)
    · intro m r built _ hm hb
      exact hm.after (.removal hb)
    · intro m uid c hm hc
      exact hm.after (b := b) (.owner hc)

/-- Over a run, nothing marked is stored after any number of its jobs exactly when there was nothing
to begin with, and no job brings anything in. -/
theorem serveAll_unmarked_iff (b : Builder) (jobs : List Job) (w : World) :
    (∀ done, done <+: jobs → (b.serveAll done w).inventory.Unmarked) ↔
      w.inventory.Unmarked ∧
        ∀ done job, done ++ [job] <+: jobs → job.PutsUnmarked (b.serveAll done w) := by
  constructor
  · intro h
    refine ⟨h [] List.nil_prefix, fun done job hdone => ?_⟩
    have hbefore := h done ((List.prefix_append done [job]).trans hdone)
    have hafter := h (done ++ [job]) hdone
    rw [serveAll_concat] at hafter
    exact (serve_unmarked_iff hbefore job).1 hafter
  · rintro ⟨hstart, hjobs⟩ done hdone
    -- on the jobs that are done, the last one first
    induction done using List.reverseRecOn with
    | nil => exact hstart
    | append_singleton done job ih =>
      have hbefore := ih ((List.prefix_append done [job]).trans hdone)
      rw [serveAll_concat]
      exact (serve_unmarked_iff hbefore job).2 (hjobs done job hdone)

/-- **Marks.** An inventory is filled from listings, and jobs are done on it, whatever the backend
answers. No policy, rule or group that is marked is stored, in the beginning or after any of the
jobs, exactly under these conditions: the last object that is listed with an identity is not marked,
and neither is the last group with an identity that is accepted of those written one at a time. -/
theorem marks_absent_iff (ha : (a.sync .empty).2 = none)
    (hw : w.inventory = (a.sync .empty).1) (jobs : List Job) :
    (∀ done, done <+: jobs → (b.serveAll done w).inventory.Unmarked) ↔
      a.EndUnmarked ∧ ∀ done gs, done ++ [.updateGroups gs] <+: jobs →
        EndsUnmarked (acceptedGroups (b.serveAll done w).writes gs) := by
  rw [serveAll_unmarked_iff, hw, Arrivals.sync_eq_filled ha, a.unmarked_filled_iff]
  refine and_congr_right fun _ => ?_
  constructor
  · intro h done gs hdone
    exact h done (.updateGroups gs) hdone
  · intro h done job hdone
    cases job with
    | updateGroups gs => exact h done gs hdone
    | _ => trivial

/-- A marked group is listed before an unmarked version of it, and later a marked version is
refused: no marked group is ever stored. -/
theorem marks_absent_iff_replaced :
    let b : Builder := ⟨"k", "default"⟩
    let marked : Group := { id := "g", marked := true }
    let a : Arrivals := { groups := { objects := [marked, { id := "g" }] } }
    let w : World := {
      inventory := (a.sync .empty).1, writes := [some (.backend "patch group" none "")] }
    (a.sync .empty).2 = none ∧
      ∀ done, done <+: [.updateGroups [marked], .removeOwner "u"] →
        (b.serveAll done w).inventory.Unmarked := by
  intro b marked a w
  have hlisted : a.EndUnmarked := by
    refine ⟨nofun, nofun, fun id g hg => ?_⟩
    by_cases hid : id = "g"
    · subst hid
      cases hg
      rfl
    · have hnone : Difference.lastWith id a.groups.objects = none := by
        simp [a, marked, Difference.lastWith_eq_none, Managed.id, Ne.symm hid]
      cases hnone.symm.trans hg
  have hwritten : ∀ done gs,
      done ++ [.updateGroups gs] <+: [.updateGroups [marked], .removeOwner "u"] →
      EndsUnmarked (acceptedGroups (b.serveAll done w).writes gs) := by
    rintro done gs ⟨rest, hjobs⟩
    match done with
    | [] =>
      -- the write is refused
      cases hjobs
      exact nofun
    | [_] => cases hjobs
    | _ :: _ :: _ => simp at hjobs
  exact ⟨rfl, (marks_absent_iff rfl rfl _).2 ⟨hlisted, hwritten⟩⟩

/-- One marked group is listed, and another is written by itself: the first is stored from the
beginning, and the second after the write. -/
theorem marks_stored :
    let b : Builder := ⟨"k", "default"⟩
    let listed : Group := { id := "g", marked := true }
    let written : Group := { id := "h", marked := true }
    let a : Arrivals := { groups := { objects := [listed] } }
    let w : World := { inventory := (a.sync .empty).1 }
    (a.sync .empty).2 = none ∧ w.inventory.groups.get? "g" = some listed ∧
      (b.serveAll [.updateGroups [written]] w).inventory.groups.get? "g" = some listed ∧
      (b.serveAll [.updateGroups [written]] w).inventory.groups.get? "h" = some written :=
  ⟨rfl, rfl, rfl, rfl⟩

end Builder

end FirewallOperator
