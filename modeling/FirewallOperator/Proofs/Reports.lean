import FirewallOperator.Cluster
import FirewallOperator.Proofs.Convergence
import FirewallOperator.Proofs.Statuses

/-! # Reports on a resource

A look at a resource may report on it, the report is merged into the status that the resource shows,
and that makes for another look. `Builder.shown_after_reconcile` is what the resource shows then, and
`Builder.reconcile_settles` is whether the next look reports again: only to take back a message or a
generation, which a merged report cannot do. -/

namespace FirewallOperator

open Operation

/-- A value stays unless it is missing and another takes its place. -/
theorem or_eq_left_iff {α : Type} {x y : Option α} :
    x.or y = x ↔ ¬ (x = none ∧ y.isSome = true) := by
  cases x with
  | none => cases y <;> simp
  | some x => simp

/-! ## Reports that are sent -/

/-- The report that a call makes. -/
def Call.report? : Call → Option Status
  | .patchStatus _ _ s => some s
  | _ => none

/-- The reports among calls. -/
def reports (calls : List Call) : List Status := calls.filterMap Call.report?

/-- What a resource shows as its status once a report has been merged into it. -/
def Cluster.reported (status : Json) (s : Status) : Json :=
  (((Json.obj [("status", status)]).merged (Cluster.statusChange s)).member? "status").getD .null

/-- A status is reported by a merge of its written form. -/
theorem Cluster.reported_eq (status : Json) (s : Status) :
    Cluster.reported status s = status.merged s.toJson := by
  rw [reported, statusChange, Json.merged]
  rfl

namespace Status

/-- The report that follows an update; after some faults there is none. -/
def ofOutcome (generation : Option Int64) (now : Timestamp) : Except Fault Unit → Option Status
  | .ok () => some (.ready generation now)
  | .error fault => if fault.isBuild then some (.failed generation fault.message now) else none

/-- What a report says does not depend on the time, but for its conditions. -/
theorem ofOutcome_eq_some {generation : Option Int64} {now : Timestamp}
    {outcome : Except Fault Unit} {s : Status} (h : ofOutcome generation now outcome = some s) :
    (s.message = none ↔ outcome = .ok ()) ∧ s.observedGeneration = generation ∧
      s.conditions ≠ [] ∧ (∀ c ∈ s.conditions, c.time = now) ∧
      ∀ later, ∃ t, ofOutcome generation later outcome = some t ∧ t.phase = s.phase ∧
        t.message = s.message ∧ t.observedGeneration = s.observedGeneration := by
  cases outcome with
  | ok =>
    cases h
    exact ⟨by simp [ready], rfl, by simp [ready], by simp [ready],
      fun later => ⟨_, rfl, rfl, rfl, rfl⟩⟩
  | error fault =>
    rw [ofOutcome] at h
    split at h
    case isTrue hbuild =>
      cases h
      exact ⟨by simp [failed], rfl, by simp [failed], by simp [failed],
        fun later => ⟨_, if_pos hbuild, rfl, rfl, rfl⟩⟩
    case isFalse => cases h

/-- A status is no news if its phase, its message and its generation are those before. -/
theorem isNews_some_eq_false_iff {p n : Status} :
    isNews (some p) n = false ↔
      p.phase = n.phase ∧ p.message = n.message ∧ p.observedGeneration = n.observedGeneration := by
  simp [isNews, and_assoc]

end Status

namespace Builder

variable {b : Builder} {a : Arrivals} {now : Timestamp} {r : Resource} {w w' v : World}

/-- A status is written if it is news. -/
theorem exec_report (r : Resource) (s : Status) (w : World) :
    (report r s).exec w =
      if Status.isNews r.status s then (patchStatus r.address r.addressNamespace s).exec w
      else (.ok (), w) := by
  rw [report]
  split <;> rfl

/-- A resource is updated, and what came of it is reported. -/
theorem exec_realize (b : Builder) (now : Timestamp) (r : Resource) (w : World) :
    (b.realize now r).exec w =
      match Status.ofOutcome r.metadata.generation now ((b.update r).exec w).1 with
      | some s => (report r s).exec ((b.update r).after w)
      | none => (b.update r).exec w := by
  rw [realize, exec_bind, exec_tryCatch, exec_bind, after]
  rcases (b.update r).exec w with ⟨fault | _, v⟩
  · simp only [exec_pure, Status.ofOutcome]
    cases fault.isBuild <;> rfl
  · rfl

/-- A resource that is held and lives is realized. -/
theorem exec_reconcile_of_held (b : Builder) (now : Timestamp) (hheld : r.isHeld = true)
    (hlive : r.isDeleting = false) (w : World) :
    (b.reconcile now r).exec w =
      match (b.realize now r).exec w with
      | (.ok (), v) => (.ok .onChange, v)
      | (.error fault, v) => (.error fault, v) := by
  rw [reconcile, hlive, hheld, if_neg Bool.false_ne_true, if_pos rfl, exec_bind]
  rcases (b.realize now r).exec w with ⟨_ | _, v⟩ <;> rfl

/-- An update adds its own calls to those before. -/
theorem calls_after_update (b : Builder) (r : Resource) (w : World) :
    ((b.update r).after w).calls = w.calls ++ (b.update r).sent w := by
  rw [sent_update, calls_update]

/-- An update reports nothing. -/
theorem reports_sent_update (b : Builder) (r : Resource) (w : World) :
    reports ((b.update r).sent w) = [] := by
  rw [sent_update]
  rcases Change.forUpdate b w.inventory r with fault | _ | c <;> rfl

/-- A report is sent when it is news. -/
theorem calls_report (r : Resource) (s : Status) (w : World) :
    ((report r s).after w).calls = w.calls ++
      if Status.isNews r.status s then [.patchStatus r.address r.addressNamespace s] else [] := by
  rw [after, exec_report]
  split
  · rw [exec_patchStatus]
    cases w.patchStatus <;> rfl
  · exact (List.append_nil _).symm

/-- A look at a resource that is held and not being deleted reports what follows from the update, if
that is news. -/
theorem reports_sent_reconcile (b : Builder) (now : Timestamp) (hheld : r.isHeld = true)
    (hlive : r.isDeleting = false) (w : World) :
    reports ((b.reconcile now r).sent w) =
      ((Status.ofOutcome r.metadata.generation now ((b.update r).exec w).1).filter
        (Status.isNews r.status)).toList := by
  have hafter : ((b.reconcile now r).after w).calls = ((b.realize now r).after w).calls := by
    rw [after, exec_reconcile_of_held b now hheld hlive, after]
    rcases (b.realize now r).exec w with ⟨_ | _, v⟩ <;> rfl
  rw [sent, hafter, after, exec_realize]
  cases Status.ofOutcome r.metadata.generation now ((b.update r).exec w).1 with
  | none =>
    rw [← after, calls_after_update, List.drop_left, reports_sent_update]
    rfl
  | some s =>
    simp only
    rw [← after, calls_report, calls_after_update, List.append_assoc, List.drop_left, reports,
      List.filterMap_append, ← reports, reports_sent_update, Option.filter_some]
    cases Status.isNews r.status s <;> rfl

/-- A report leaves the inventory as it is. -/
theorem inventory_after_report (r : Resource) (s : Status) (w : World) :
    ((report r s).after w).inventory = w.inventory := by
  rw [after, exec_report]
  split
  · rw [exec_patchStatus]
    cases w.patchStatus <;> rfl
  · rfl

/-- After a look that succeeds there was something to report, and the inventory is as the update
left it. -/
theorem ofOutcome_of_reconcile {next : Next} (hheld : r.isHeld = true)
    (hlive : r.isDeleting = false) (h : (b.reconcile now r).exec w = (.ok next, w')) :
    (∃ s, Status.ofOutcome r.metadata.generation now ((b.update r).exec w).1 = some s) ∧
      w'.inventory = ((b.update r).after w).inventory := by
  rw [exec_reconcile_of_held b now hheld hlive, exec_realize] at h
  cases ho : Status.ofOutcome r.metadata.generation now ((b.update r).exec w).1 with
  | some s =>
    have hinventory := inventory_after_report r s ((b.update r).after w)
    simp only [ho] at h
    rw [after] at hinventory
    rcases hr : (report r s).exec ((b.update r).after w) with ⟨_ | _, v⟩
    · rw [hr] at h
      cases h
    · rw [hr] at h hinventory
      cases h
      exact ⟨⟨s, rfl⟩, hinventory⟩
  | none =>
    simp only [ho] at h
    rcases hu : (b.update r).exec w with ⟨_ | _, v⟩
    · rw [hu] at h
      cases h
    · rw [hu] at ho
      cases ho

/-! ## Looking again -/

/-- The outcome of an update depends on the inventory and on the backend's answer. -/
theorem outcome_update_congr (hv : v.inventory = w.inventory) (ha : v.answer = w.answer) :
    ((b.update r).exec v).1 = ((b.update r).exec w).1 := by
  rw [exec_update, exec_update, hv]
  rcases Change.forUpdate b w.inventory r with _ | _ | c
  · rfl
  · rfl
  · simp only [Change.exec_submit, ha]
    cases w.answer <;> rfl

/-- An update that fails leaves the inventory as it was. -/
theorem inventory_of_update_error {fault : Fault}
    (h : (b.update r).exec w = (.error fault, w')) : w'.inventory = w.inventory := by
  rw [exec_update] at h
  split at h
  · cases h
    rfl
  · cases h
  · rw [Change.exec_submit] at h
    split at h
    · cases h
    · cases h
      rfl

/-- With nothing else changed, an update has the same outcome again. -/
theorem outcome_update_again (hw : b.Reaches a w.inventory)
    (hv : v.inventory = ((b.update r).after w).inventory) (ha : v.answer = w.answer) :
    ((b.update r).exec v).1 = ((b.update r).exec w).1 := by
  have hreached : b.Reaches a ((b.update r).after w).inventory := .served (.update r) hw
  rw [after] at hv hreached
  rcases hu : (b.update r).exec w with ⟨fault | _, w₁⟩
  -- after success there is nothing left to do, whatever the backend would answer
  case ok =>
    rw [hu] at hv hreached
    obtain ⟨built, hb, hrealizes⟩ := realizes_of_update hw.coherent hu
    rw [exec_update_of_realizes (hv ▸ hreached.coherent) hb (hv ▸ hrealizes)]
  -- after a fault the same is planned, and answered in the same way
  case error =>
    rw [hu] at hv
    rw [outcome_update_congr (hv.trans (inventory_of_update_error hu)) ha, hu]

/-- What a resource shows after a look: what was to be reported, and in parts that the report leaves
out what the resource showed before. -/
theorem shown_after_reconcile {prev : List (String × Json)} {s : Status} (hnow : now.IsValid)
    (hheld : r.isHeld = true) (hlive : r.isDeleting = false)
    (hprev : Status.ofJson? (.obj prev) = some (r.status.getD {}))
    (hs : Status.ofOutcome r.metadata.generation now ((b.update r).exec w).1 = some s) :
    ∃ shown, Status.ofJson?
        ((reports ((b.reconcile now r).sent w)).foldl Cluster.reported (.obj prev)) = some shown ∧
      shown.phase = s.phase ∧ shown.message = s.message.or (r.status.getD {}).message ∧
      shown.observedGeneration =
        s.observedGeneration.or (r.status.getD {}).observedGeneration := by
  obtain ⟨-, -, hconditions, htimes, -⟩ := Status.ofOutcome_eq_some hs
  rw [reports_sent_reconcile b now hheld hlive, hs, Option.filter_some]
  cases hnews : Status.isNews r.status s with
  | true =>
    have hvalid : ∀ c ∈ s.conditions, c.time.IsValid := fun c hc => (htimes c hc).symm ▸ hnow
    have hmerged := Status.ofJson?_merged hprev hconditions hvalid
    rw [← Cluster.reported_eq] at hmerged
    exact ⟨_, hmerged, rfl, rfl, rfl⟩
  -- what is no news was already shown
  | false =>
    refine ⟨r.status.getD {}, hprev, ?_⟩
    cases hold : r.status with
    | none => rw [hold] at hnews; cases hnews
    | some old =>
      rw [hold] at hnews
      obtain ⟨hphase, hmessage, hgeneration⟩ := Status.isNews_some_eq_false_iff.1 hnews
      rw [Option.getD_some, hphase, hmessage, hgeneration, Option.or_self, Option.or_self]
      exact ⟨rfl, rfl, rfl⟩

/-- **Settling.** A look at a resource that is held and not being deleted succeeds, from any
inventory that is reached, and its report is merged into the status that the resource shows. With
nothing else changed the next look reports nothing, unless a part of the old status was to be taken
back: a message once the resource is ready, or a generation when the resource has none. -/
theorem reconcile_settles {prev : List (String × Json)} {next : Next}
    (hw : b.Reaches a w.inventory) (hnow : now.IsValid) (hheld : r.isHeld = true)
    (hlive : r.isDeleting = false)
    (hprev : Status.ofJson? (.obj prev) = some (r.status.getD {}))
    (h : (b.reconcile now r).exec w = (.ok next, w')) :
    ∃ shown, Status.ofJson?
        ((reports ((b.reconcile now r).sent w)).foldl Cluster.reported (.obj prev)) = some shown ∧
      ∀ (later : Timestamp) (v : World), v.inventory = w'.inventory → v.answer = w.answer →
        (reports ((b.reconcile later { r with status := some shown }).sent v) = [] ↔
          ¬ ∃ old, r.status = some old ∧
            (((b.update r).exec w).1 = .ok () ∧ old.message.isSome ∨
              r.metadata.generation = none ∧ old.observedGeneration.isSome)) := by
  obtain ⟨⟨s, hs⟩, hinventory⟩ := ofOutcome_of_reconcile hheld hlive h
  obtain ⟨shown, hshown, hphase, hmessage, hgeneration⟩ :=
    shown_after_reconcile hnow hheld hlive hprev hs
  obtain ⟨hready, hgen, -, -, hlater⟩ := Status.ofOutcome_eq_some hs
  refine ⟨shown, hshown, fun later v hv ha => ?_⟩
  -- the update comes to the same again, so the next report differs from this one in its time only
  obtain ⟨t, ht, htphase, htmessage, htgeneration⟩ := hlater later
  have hagain : ((b.update { r with status := some shown }).exec v).1 =
      ((b.update r).exec w).1 := outcome_update_again hw (hv.trans hinventory) ha
  have hreports := reports_sent_reconcile (r := { r with status := some shown }) b later hheld
    hlive v
  have hquiet : reports ((b.reconcile later { r with status := some shown }).sent v) = [] ↔
      Status.isNews (some shown) t = false := by
    rw [hreports, hagain, ht, Option.filter_some]
    cases Status.isNews (some shown) t <;> simp
  rw [hquiet, Status.isNews_some_eq_false_iff, hphase, htphase, hmessage, htmessage, hgeneration,
    htgeneration, or_eq_left_iff, or_eq_left_iff, hready, hgen]
  cases r.status with
  | none => simp
  | some old => simp [not_or]

/-- A resource without a status is reported as ready once. -/
theorem reconcile_settles_from_empty :
    let b : Builder := ⟨"k", "default"⟩
    let r : Resource := {
      metadata := {
        name := some "web", ownNamespace := some "shop", uid := some "u", generation := some 1
        finalizers := [Resource.finalizer] }
      spec := { appliedTo := [{ pods := some .empty }], rules := [{}] } }
    let now : Timestamp := ⟨⟨2024, 2, 29⟩, 12, 30, 0, 0⟩
    let w : World := {}
    let w' := (b.reconcile now r).after w
    b.Reaches {} w.inventory ∧ now.IsValid ∧ r.isHeld = true ∧ r.isDeleting = false ∧
      Status.ofJson? (.obj []) = some (r.status.getD {}) ∧
      (b.reconcile now r).exec w = (.ok .onChange, w') ∧
      ∃ shown, Status.ofJson?
          ((reports ((b.reconcile now r).sent w)).foldl Cluster.reported (.obj [])) = some shown ∧
        ∀ (later : Timestamp) (v : World), v.inventory = w'.inventory → v.answer = w.answer →
          (reports ((b.reconcile later { r with status := some shown }).sent v) = [] ↔
            ¬ ∃ old, r.status = some old ∧
              (((b.update r).exec w).1 = .ok () ∧ old.message.isSome ∨
                r.metadata.generation = none ∧ old.observedGeneration.isSome)) := by
  intro b r now w w'
  have hw : b.Reaches {} w.inventory := .filled rfl
  have hnow : now.IsValid := ⟨rfl, by decide, by decide, by decide, by decide⟩
  have hprev : Status.ofJson? (.obj []) = some (r.status.getD {}) := rfl
  have h : (b.reconcile now r).exec w = (.ok .onChange, w') := rfl
  exact ⟨hw, hnow, rfl, rfl, hprev, h, reconcile_settles hw hnow rfl rfl hprev h⟩

/-- A resource that had failed is reported as ready, keeps the message of its failure, and is for
that reported as ready again. -/
theorem reconcile_reports_ready_again :
    let b : Builder := ⟨"k", "default"⟩
    let r : Resource := {
      metadata := {
        name := some "web", ownNamespace := some "shop", uid := some "u", generation := some 2
        finalizers := [Resource.finalizer] }
      spec := { appliedTo := [{ pods := some .empty }], rules := [{}] }
      status := some {
        phase := .failed, message := some "no target", observedGeneration := some 1 } }
    let prev := [("phase", .str "Failed"), ("message", .str "no target"),
      ("observedGeneration", .int 1)]
    let now : Timestamp := ⟨⟨2024, 2, 29⟩, 12, 30, 0, 0⟩
    let w : World := {}
    let w' := (b.reconcile now r).after w
    (b.reconcile now r).exec w = (.ok .onChange, w') ∧ Status.ofJson? (.obj prev) = r.status ∧
      ∃ shown, Status.ofJson?
          ((reports ((b.reconcile now r).sent w)).foldl Cluster.reported (.obj prev)) = some shown ∧
        shown.phase = .ready ∧ shown.message = some "no target" ∧
        ∀ later, reports ((b.reconcile later { r with status := some shown }).sent w') =
          [.ready (some 2) later] := by
  intro b r prev now w w'
  have hw : b.Reaches {} w.inventory := .filled rfl
  have hnow : now.IsValid := ⟨rfl, by decide, by decide, by decide, by decide⟩
  have hprev : Status.ofJson? (.obj prev) = some (r.status.getD {}) := rfl
  have hready : Status.ofOutcome (some 2) now ((b.update r).exec w).1 =
      some (.ready (some 2) now) := rfl
  obtain ⟨shown, hshown, hphase, hmessage, -⟩ := shown_after_reconcile hnow rfl rfl hprev hready
  refine ⟨rfl, hprev, shown, hshown, hphase, hmessage, fun later => ?_⟩
  have hagain : ((b.update { r with status := some shown }).exec w').1 = .ok () :=
    outcome_update_again hw rfl rfl
  have hnews : Status.isNews (some shown) (.ready (some 2) later) = true := by
    rw [← Bool.not_eq_false, Status.isNews_some_eq_false_iff, hmessage]
    rintro ⟨-, hnone, -⟩
    cases hnone
  have hreports := reports_sent_reconcile (r := { r with status := some shown }) b later rfl rfl w'
  rw [hreports, hagain, Status.ofOutcome, Option.filter_some, hnews]
  rfl

end Builder

end FirewallOperator
