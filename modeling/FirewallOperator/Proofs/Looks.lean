import FirewallOperator.Proofs.Faults
import FirewallOperator.Proofs.Releases
import FirewallOperator.Proofs.Reports

/-! # What one look does

A look at a resource attempts one operation on the backend and ends with at most one call to the
cluster (`Builder.exec_reconcile`), and the attempt makes at most one request
(`Builder.attempt_attempted`). `Builder.reconcile_disciplined` says what follows: how many calls
there are and in which order, which of them can fail, what the look fails with, and that a report
which did not come through is made again without another request to the backend. -/

namespace FirewallOperator

open Operation

/-! ## Calls and what becomes of them -/

namespace Call

/-- Whether a call changes a subtree of the backend's objects. -/
def isRequest : Call → Bool
  | .patchInfra .. => true
  | _ => false

/-- Whether a call changes a resource of the cluster. -/
def changesResource : Call → Bool
  | .addFinalizer .. | .removeFinalizer .. | .patchStatus .. => true
  | _ => false

/-- Whether a call tells the cluster what became of a resource's objects. -/
def concludes : Call → Bool
  | .removeFinalizer .. | .patchStatus .. => true
  | _ => false

end Call

namespace World

/-- What becomes of a call: a fault, or acceptance. -/
def outcome (w : World) : Call → Option Fault
  | .patchInfra .. | .patchGroup .. => w.answer
  | .addFinalizer .. => w.addFinalizer
  | .removeFinalizer .. => w.removeFinalizer
  | .patchStatus .. => w.patchStatus
  | .listLive => none

/-- The world after a call. -/
def made (w : World) (c : Call) : World := if c.isBackend then w.written c else w.called c

/-- Calls that are made one after the other, each with what becomes of it. -/
def outcomes : World → List Call → List (Call × Option Fault)
  | _, [] => []
  | w, c :: rest => (c, w.outcome c) :: (w.made c).outcomes rest

/-- The end of a look: at most one call to the cluster, with whose fault the look fails. -/
def conclude (w : World) (last : Option Call) (next : Next) : Except Fault Next × World :=
  match last with
  | none => (.ok next, w)
  | some c =>
    match w.outcome c with
    | none => (.ok next, w.called c)
    | some fault => (.error fault, w.called c)

variable (w : World) (c : Call) (next : Next)

/-- A look without a last call returns what comes next. -/
@[simp] theorem conclude_none : w.conclude none next = (.ok next, w) := rfl

/-- A look ends with its last call, and fails if that fails. -/
theorem conclude_some : w.conclude (some c) next =
    ((w.outcome c).elim (.ok next) .error, w.called c) := by
  rw [conclude]
  cases w.outcome c <;> rfl

/-- What the cluster answers does not depend on what the backend has been asked. -/
theorem outcome_written (p : Call) (hc : c.changesResource = true) :
    (w.written p).outcome c = w.outcome c := by
  cases c <;> first | rfl | cases hc

/-- Another inventory changes no outcome of a call to the cluster. -/
@[simp] theorem outcome_stocked (m : Inventory) : (w.stocked m).outcome c = w.outcome c := by
  cases c <;> rfl

/-- A call to the cluster fails with a fault from outside. -/
theorem ForeignFaults.outcome {w : World} (hw : w.ForeignFaults) {c : Call} {fault : Fault}
    (h : w.outcome c = some fault) : fault.isBuild = false := by
  cases c with
  | patchInfra | patchGroup => exact hw.answer fault h
  | addFinalizer => exact hw.addFinalizer fault h
  | removeFinalizer => exact hw.removeFinalizer fault h
  | patchStatus => exact hw.patchStatus fault h
  | listLive => cases h

end World

namespace Builder

variable {b : Builder} {a : Arrivals} {now : Timestamp} {r : Resource} {w u v : World}

/-! ## The operation on the backend -/

/-- A resource that has a defect cannot be built. -/
theorem isBuild_of_build {fault : Fault} (h : b.build r = .error fault) : fault.isBuild = true := by
  rw [build] at h
  cases ho : b.objects r with
  | ok built =>
    rw [ho] at h
    cases h
  | error d =>
    rw [ho] at h
    cases h
    rfl

/-- The operation on the backend that a look attempts; none for a resource that is not held. -/
def attempt (b : Builder) (r : Resource) : Operation Unit :=
  if r.isHeld then (if r.isDeleting then b.clear r else b.update r) else return

/-- The call to the cluster that a look ends with, given the outcome of its attempt. -/
def lastCall (now : Timestamp) (r : Resource) (attempted : Except Fault Unit) : Option Call :=
  if r.isDeleting then
    if r.isHeld then some (.removeFinalizer r.address r.addressNamespace) else none
  else if r.isHeld then
    ((Status.ofOutcome r.metadata.generation now attempted).filter (Status.isNews r.status)).map
      (.patchStatus r.address r.addressNamespace)
  else some (.addFinalizer r.address r.addressNamespace)

/-- When to look again after a look that succeeds. -/
def nextLook (r : Resource) : Next := if r.isDeleting || r.isHeld then .onChange else .after 1

/-- What an attempt comes to: nothing is asked of the backend, and only a defect of a resource that
is not being deleted can be the reason for a fault; or there is one request, and the backend accepts
or refuses it. -/
inductive Attempted (b : Builder) (r : Resource) (w : World) : Except Fault Unit × World → Prop
  | nothing {outcome : Except Fault Unit} (hown : ∀ fault, outcome = .error fault →
      b.build r = .error fault ∧ r.isDeleting = false) : Attempted b r w (outcome, w)
  | accepted (p : Patch) (m : Inventory) (hheld : r.isHeld = true) (ha : w.answer = none) :
      Attempted b r w (.ok (), (w.written (.patchInfra false p)).stocked m)
  | refused (p : Patch) {fault : Fault} (hheld : r.isHeld = true) (ha : w.answer = some fault) :
      Attempted b r w (.error fault, w.written (.patchInfra false p))

/-- A change of a resource that is held is attempted by one request. -/
theorem submit_attempted (hheld : r.isHeld = true) (c : Change) :
    b.Attempted r w ((c.submit b.domain).exec w) := by
  rw [Change.exec_submit]
  cases ha : w.answer with
  | none => exact .accepted _ _ hheld ha
  | some fault => exact .refused _ hheld ha

/-- An update of a resource that is held and lives is attempted by one request, or by none. -/
theorem update_attempted (hheld : r.isHeld = true) (hlive : r.isDeleting = false) :
    b.Attempted r w ((b.update r).exec w) := by
  rw [exec_update]
  cases hb : b.build r with
  | error fault =>
    rw [Change.forUpdate_of_fault hb]
    refine .nothing fun f hf => ?_
    cases hf
    exact ⟨hb, hlive⟩
  | ok built =>
    rw [Change.forUpdate_of_build hb]
    cases Change.toBuilt w.inventory (r.metadata.uid.getD "") built with
    | none => exact .nothing nofun
    | some c => exact submit_attempted hheld c

/-- Only what cannot be built is removed by owner: were the backend's refusal taken for that, there
would be a second request. -/
theorem clear_attempted (hw : w.ForeignFaults) (hheld : r.isHeld = true) :
    b.Attempted r w ((b.clear r).exec w) := by
  rw [exec_clear]
  cases hb : b.build r with
  | ok built =>
    rw [exec_remove_of_build hb, Change.exec_submit]
    cases ha : w.answer with
    | none => exact .accepted _ _ hheld ha
    | some fault =>
      simp only [hw.answer fault ha, Bool.false_eq_true, if_false]
      exact .refused _ hheld ha
  | error fault =>
    rw [exec_remove_of_fault hb]
    simp only [isBuild_of_build hb, if_true]
    cases r.metadata.uid with
    | none => exact .nothing nofun
    | some uid =>
      simp only [exec_removeOwner]
      cases Change.forOwner w.inventory uid with
      | none => exact .nothing nofun
      | some c => exact submit_attempted hheld c

/-- A removal that fails with a defect has found that the resource cannot be built, and has done
nothing else. -/
theorem eq_of_remove (hw : w.ForeignFaults) {fault : Fault} (hown : fault.isBuild = true)
    (h : (b.remove r).exec w = (.error fault, v)) : b.build r = .error fault ∧ v = w := by
  cases hb : b.build r with
  | error defect =>
    rw [exec_remove_of_fault hb] at h
    cases h
    exact ⟨rfl, rfl⟩
  | ok built =>
    -- the backend has refused the change, and that is no defect
    rw [exec_remove_of_build hb, Change.exec_submit] at h
    cases ha : w.answer with
    | none =>
      rw [ha] at h
      cases h
    | some refusal =>
      rw [ha] at h
      cases h
      rw [hw.answer fault ha] at hown
      cases hown

/-- What an attempt can come to. -/
theorem attempt_attempted (hw : w.ForeignFaults) : b.Attempted r w ((b.attempt r).exec w) := by
  rw [attempt]
  cases hheld : r.isHeld with
  | false => exact .nothing nofun
  | true =>
    cases hdeleting : r.isDeleting with
    | true => exact clear_attempted hw hheld
    | false => exact update_attempted hheld hdeleting

/-- What was attempted leaves the cluster's answers as they are. -/
theorem Attempted.outcome_eq {attempted : Except Fault Unit} (h : b.Attempted r w (attempted, u))
    {c : Call} (hc : c.changesResource = true) : u.outcome c = w.outcome c := by
  cases h with
  | nothing => rfl
  | accepted => rw [World.outcome_stocked, World.outcome_written _ _ _ hc]
  | refused => exact World.outcome_written _ _ _ hc

/-! ## The whole look -/

/-- A report that is news is the last call of a look. -/
theorem exec_report_conclude (r : Resource) (s : Status) (u : World) :
    (match (report r s).exec u with
      | (.ok (), v) => ((.ok .onChange, v) : Except Fault Next × World)
      | (.error fault, v) => (.error fault, v)) =
      u.conclude (((some s).filter (Status.isNews r.status)).map
        (.patchStatus r.address r.addressNamespace)) .onChange := by
  rw [exec_report, Option.filter_some]
  cases Status.isNews r.status s with
  | false => rfl
  | true =>
    simp only [if_true, exec_patchStatus, Option.map_some, World.conclude, World.outcome]
    cases u.patchStatus <;> rfl

/-- A look is the attempt and the last call. A fault ends it early, unless it is the defect of a
resource that can be reported on. -/
theorem exec_reconcile (b : Builder) (now : Timestamp) (r : Resource) (w : World) :
    (b.reconcile now r).exec w =
      match (b.attempt r).exec w with
      | (.ok (), u) => u.conclude (lastCall now r (.ok ())) (nextLook r)
      | (.error fault, u) =>
        if fault.isBuild && !r.isDeleting then
          u.conclude (lastCall now r (.error fault)) (nextLook r)
        else (.error fault, u) := by
  cases hdeleting : r.isDeleting with
  | true =>
    cases hheld : r.isHeld with
    | false => simp [reconcile, attempt, lastCall, nextLook, hdeleting, hheld]
    | true =>
      -- no fault of the attempt is reported on what is being deleted
      rw [exec_reconcile_of_deleting b now hheld hdeleting]
      simp only [attempt, lastCall, nextLook, hdeleting, hheld, if_true, Bool.true_or,
        Bool.not_true, Bool.and_false, Bool.false_eq_true, if_false]
      rcases (b.clear r).exec w with ⟨fault | _, u⟩ <;> rfl
  | false =>
    cases hheld : r.isHeld with
    | false =>
      simp only [attempt, lastCall, nextLook, hdeleting, hheld, Bool.false_eq_true, if_false,
        exec_pure, Bool.or_self]
      rw [reconcile, hdeleting, hheld, if_neg Bool.false_ne_true, if_neg Bool.false_ne_true]
      simp only [exec_bind, exec_addFinalizer, World.conclude, World.outcome]
      cases w.addFinalizer <;> rfl
    | true =>
      rw [exec_reconcile_of_held b now hheld hdeleting, exec_realize, after]
      simp only [attempt, lastCall, nextLook, hdeleting, hheld, Bool.false_eq_true, if_false,
        if_true, Bool.or_true, Bool.not_false, Bool.and_true]
      rcases (b.update r).exec w with ⟨fault | _, u⟩
      · simp only [Status.ofOutcome]
        cases fault.isBuild with
        | false => rfl
        | true => exact exec_report_conclude _ _ _
      · exact exec_report_conclude _ _ _

/-- The last call of a look changes the resource. -/
theorem changesResource_of_lastCall {attempted : Except Fault Unit} {c : Call}
    (h : lastCall now r attempted = some c) : c.changesResource = true := by
  rw [lastCall] at h
  split at h
  · split at h
    · cases h
      rfl
    · cases h
  · split at h
    · obtain ⟨s, -, rfl⟩ := Option.map_eq_some_iff.1 h
      rfl
    · cases h
      rfl

/-! ## Discipline -/

/-- The operation on the backend that a look has finished without a fault of the backend's, by the
calls that it made, when the look tells the cluster what became of the resource's objects. -/
inductive Finished (b : Builder) (r : Resource) (w : World) : List Call → Call → Prop
  /-- The objects of a resource that is being deleted have been removed. -/
  | removed (deleting : r.isDeleting = true) (done : ((b.remove r).exec w).1 = .ok ()) :
      Finished b r w ((b.remove r).sent w) (.removeFinalizer r.address r.addressNamespace)
  /-- They have been removed by owner, as the resource cannot be built. -/
  | removedOwner (uid : String) {fault : Fault} (deleting : r.isDeleting = true)
      (owner : r.metadata.uid = some uid) (unbuilt : b.build r = .error fault)
      (failed : ((b.remove r).exec w).1 = .error fault)
      (done : ((b.removeOwner uid).exec ((b.remove r).after w)).1 = .ok ()) :
      Finished b r w ((b.remove r).sent w ++ (b.removeOwner uid).sent ((b.remove r).after w))
        (.removeFinalizer r.address r.addressNamespace)
  /-- The resource cannot be built and owns nothing, as it has no uid. -/
  | unowned {fault : Fault} (deleting : r.isDeleting = true) (nobody : r.metadata.uid = none)
      (unbuilt : b.build r = .error fault) (failed : ((b.remove r).exec w).1 = .error fault) :
      Finished b r w ((b.remove r).sent w) (.removeFinalizer r.address r.addressNamespace)
  /-- The backend has been brought in line with a resource that is not being deleted. -/
  | updated {s : Status} (live : r.isDeleting = false) (done : ((b.update r).exec w).1 = .ok ()) :
      Finished b r w ((b.update r).sent w) (.patchStatus r.address r.addressNamespace s)
  /-- The update has found that the resource cannot be built. -/
  | invalid {fault : Fault} {s : Status} (live : r.isDeleting = false)
      (unbuilt : b.build r = .error fault) (failed : ((b.update r).exec w).1 = .error fault) :
      Finished b r w ((b.update r).sent w) (.patchStatus r.address r.addressNamespace s)

/-- The calls of a look, each with what became of it, follow the rules. -/
structure Disciplined (b : Builder) (r : Resource) (w : World)
    (calls : List (Call × Option Fault)) (result : Except Fault Next × World) : Prop where
  /-- They are all that was called. -/
  complete : result.2.calls = w.calls ++ calls.map Prod.fst
  /-- There is at most one request to the backend, and only for a resource that is held. -/
  requests : calls.countP (·.1.isRequest) ≤ 1
  held : ∀ c ∈ calls, c.1.isRequest = true → r.isHeld = true
  /-- There is at most one change to the resource. -/
  changes : calls.countP (·.1.changesResource) ≤ 1
  /-- A call that tells of the objects is the last one, and those before it are the calls of an
  operation on the backend that has finished. -/
  concluded : ∀ c ∈ calls, c.1.concludes = true →
    ∃ operated, b.Finished r w operated c.1 ∧ calls.map Prod.fst = operated ++ [c.1]
  /-- Nothing is called after a call that failed. -/
  accepted : ∀ c ∈ calls.dropLast, c.2 = none
  /-- The look fails with what a call failed with, and with nothing else. -/
  fails : ∀ fault, result.1 = .error fault ↔ ∃ c ∈ calls, c.2 = some fault
  /-- A resource that cannot be built is not what it fails with. -/
  reported : ∀ fault, result.1 = .error fault → fault.isBuild = false
  /-- What is stored changes only when the backend has accepted a request. -/
  stored : result.2.inventory ≠ w.inventory → ∃ c ∈ calls, c.1.isRequest = true ∧ c.2 = none

/-- An attempt that the backend does not refuse, with what it asks of the backend: nothing, or one
request that is accepted. -/
structure Unrefused (b : Builder) (r : Resource) (w : World) (attempted : Except Fault Unit)
    (u : World) (asked : List (Call × Option Fault)) : Prop where
  exec : (b.attempt r).exec w = (attempted, u)
  calls : u.calls = w.calls ++ asked.map Prod.fst
  asked : (asked = [] ∧ u.inventory = w.inventory) ∨
    ∃ p, asked = [(.patchInfra false p, none)] ∧ w.answer = none ∧ r.isHeld = true ∧
      attempted = .ok ()
  answers : ∀ c : Call, c.changesResource = true → u.outcome c = w.outcome c
  own : ∀ fault, attempted = .error fault → b.build r = .error fault ∧ r.isDeleting = false

/-- The calls of a look whose attempt is not refused. -/
def callsOf (now : Timestamp) (r : Resource) (w : World) (attempted : Except Fault Unit)
    (asked : List (Call × Option Fault)) : List (Call × Option Fault) :=
  asked ++ (lastCall now r attempted).toList.map fun c => (c, w.outcome c)

section Unrefused

variable {attempted : Except Fault Unit} {asked : List (Call × Option Fault)}
  (h : b.Unrefused r w attempted u asked)
include h

/-- The outcomes of the calls behind an attempt that was not refused are those of the last call. -/
theorem Unrefused.outcomes (now : Timestamp) (next : Next) :
    w.outcomes ((u.conclude (lastCall now r attempted) next).2.calls.drop w.calls.length) =
      callsOf now r w attempted asked := by
  have hconclude : (u.conclude (lastCall now r attempted) next).2.calls =
      u.calls ++ (lastCall now r attempted).toList := by
    cases lastCall now r attempted with
    | none => simp
    | some c => simp [World.conclude_some]
  rw [hconclude, h.calls, List.append_assoc, List.drop_left, callsOf]
  cases hlast : lastCall now r attempted with
  | none =>
    rcases h.asked with ⟨rfl, -⟩ | ⟨p, rfl, ha, -⟩
    · rfl
    · simp [World.outcomes, World.outcome, ha]
  | some c =>
    have hchanges := changesResource_of_lastCall hlast
    rcases h.asked with ⟨rfl, -⟩ | ⟨p, rfl, ha, -⟩
    · rfl
    · simp only [List.map_cons, List.map_nil, Option.toList_some, List.cons_append, List.nil_append,
        World.outcomes, World.made, Call.isBackend, if_true, World.outcome_written _ _ _ hchanges]
      simp only [World.outcome, ha]

/-- What was asked of the backend is what the attempt made of calls. -/
theorem Unrefused.sent_eq {op : Operation Unit} {outcome : Except Fault Unit}
    (hop : op.exec w = (outcome, u)) : op.sent w = asked.map Prod.fst := by
  rw [sent, after, hop]
  simp only [h.calls, List.drop_left]

/-- The removal of a resource that is not refused has removed its objects, either what is built of
it or what is stored of its owner. -/
theorem Unrefused.finished_clear (hw : w.ForeignFaults) (hheld : r.isHeld = true)
    (hdeleting : r.isDeleting = true) :
    b.Finished r w (asked.map Prod.fst) (.removeFinalizer r.address r.addressNamespace) := by
  have hdone : attempted = .ok () := by
    cases attempted with
    | ok => rfl
    | error fault =>
      rw [(h.own fault rfl).2] at hdeleting
      cases hdeleting
  have hclear : (b.clear r).exec w = (.ok (), u) := by
    rw [← hdone, ← h.exec, attempt, hheld, hdeleting, if_pos rfl, if_pos rfl]
  rw [exec_clear] at hclear
  rcases hremove : (b.remove r).exec w with ⟨fault | _, v⟩ <;> rw [hremove] at hclear
  · cases hown : fault.isBuild with
    | false =>
      -- the backend's own fault would have ended the attempt
      simp only [hown, Bool.false_eq_true, if_false] at hclear
      cases hclear
    | true =>
      simp only [hown, if_true] at hclear
      -- the resource cannot be built, so the removal by owner starts where the removal did
      obtain ⟨hb, hsame⟩ := eq_of_remove hw hown hremove
      rw [hsame] at hremove hclear
      have hfailed : ((b.remove r).exec w).1 = .error fault := congrArg Prod.fst hremove
      have hafter : (b.remove r).after w = w := congrArg Prod.snd hremove
      have hnothing : (b.remove r).sent w = [] := by rw [sent, hafter, List.drop_length]
      cases huid : r.metadata.uid with
      | none =>
        rw [huid] at hclear
        cases hclear
        rw [← h.sent_eq hremove]
        exact .unowned hdeleting huid hb hfailed
      | some uid =>
        have howner : (b.removeOwner uid).exec w = (.ok (), u) := by
          rw [huid] at hclear
          exact hclear
        have hfinished := Finished.removedOwner uid hdeleting huid hb hfailed
          (by rw [hafter, howner])
        rwa [hnothing, hafter, List.nil_append, h.sent_eq howner] at hfinished
  · cases hclear
    rw [← h.sent_eq hremove]
    exact .removed hdeleting (congrArg Prod.fst hremove)

/-- An update that is not refused has brought the backend in line with the resource, or has found
that it cannot be built. -/
theorem Unrefused.finished_update (hheld : r.isHeld = true) (hlive : r.isDeleting = false)
    (s : Status) :
    b.Finished r w (asked.map Prod.fst) (.patchStatus r.address r.addressNamespace s) := by
  have hupdate : (b.update r).exec w = (attempted, u) := by
    rw [← h.exec, attempt, hheld, hlive, if_pos rfl, if_neg Bool.false_ne_true]
  have hoperated : ((b.update r).exec w).1 = attempted := congrArg Prod.fst hupdate
  rw [← h.sent_eq hupdate]
  cases attempted with
  | ok => exact .updated hlive hoperated
  | error fault => exact .invalid hlive (h.own fault rfl).1 hoperated

/-- What a look tells the cluster comes last, behind an operation that has finished. -/
theorem Unrefused.concluded (hw : w.ForeignFaults) (now : Timestamp) :
    ∀ c ∈ callsOf now r w attempted asked, c.1.concludes = true →
      ∃ operated, b.Finished r w operated c.1 ∧
        (callsOf now r w attempted asked).map Prod.fst = operated ++ [c.1] := by
  intro c hc hconcludes
  rw [callsOf, List.mem_append] at hc
  rcases hc with hasked | hlast
  · -- a request to the backend tells the cluster nothing
    rcases h.asked with ⟨rfl, -⟩ | ⟨p, rfl, -⟩
    · cases hasked
    · rw [List.mem_singleton.1 hasked] at hconcludes
      cases hconcludes
  · obtain ⟨last, hmem, rfl⟩ := List.mem_map.1 hlast
    rw [Option.mem_toList] at hmem
    refine ⟨asked.map Prod.fst, ?_, by simp [callsOf, hmem]⟩
    have hcases := hmem
    rw [lastCall] at hcases
    split at hcases
    case isTrue hdeleting =>
      split at hcases
      case isTrue hheld =>
        cases hcases
        exact h.finished_clear hw hheld hdeleting
      case isFalse => cases hcases
    case isFalse hlive =>
      split at hcases
      case isTrue hheld =>
        obtain ⟨s, -, rfl⟩ := Option.map_eq_some_iff.1 hcases
        exact h.finished_update hheld (Bool.eq_false_iff.2 hlive) s
      case isFalse =>
        cases hcases
        cases hconcludes

/-- A look whose attempt is not refused calls by the rules. -/
theorem Unrefused.disciplined (hw : w.ForeignFaults) (now : Timestamp) (next : Next) :
    b.Disciplined r w (callsOf now r w attempted asked)
      (u.conclude (lastCall now r attempted) next) := by
  have hconcluded := h.concluded hw now
  obtain ⟨-, hcalls, hasked, hanswers, hown⟩ := h
  -- four rows of calls: with and without a request, with and without a last call
  rw [callsOf] at hconcluded ⊢
  rcases hasked with ⟨rfl, hinventory⟩ | ⟨p, rfl, -, hheld, rfl⟩ <;>
    cases hlast : lastCall now r _ with
    | none =>
      rw [hlast] at hconcluded
      constructor
      all_goals
        first
        | exact hconcluded
        | clear hconcluded
          simp_all [Call.isRequest, Call.changesResource]
    | some c =>
      have hchanges := changesResource_of_lastCall hlast
      have hrequest : c.isRequest = false := by cases c <;> first | rfl | cases hchanges
      have hforeign : ∀ fault, w.outcome c = some fault → fault.isBuild = false :=
        fun _ => hw.outcome
      rw [hlast] at hconcluded
      rw [World.conclude_some, hanswers c hchanges]
      cases hc : w.outcome c <;> constructor
      all_goals
        first
        | exact hconcluded
        | clear hconcluded
          simp_all [Call.isRequest, Call.changesResource]

end Unrefused

/-- A look that the backend ends calls by the rules. -/
theorem disciplined_refused {p : Patch} {fault : Fault} (hw : w.ForeignFaults)
    (hheld : r.isHeld = true) (ha : w.answer = some fault) :
    b.Disciplined r w [(.patchInfra false p, some fault)]
      (.error fault, w.written (.patchInfra false p)) := by
  have hforeign := hw.answer fault ha
  constructor <;> simp_all [Call.isRequest, Call.changesResource, Call.concludes]

/-- A look either goes on to its last call, or is ended by the backend that refuses its request. -/
theorem look_cases (hw : w.ForeignFaults) (now : Timestamp) (r : Resource) :
    (∃ attempted u asked, b.Unrefused r w attempted u asked ∧
        (b.reconcile now r).exec w = u.conclude (lastCall now r attempted) (nextLook r)) ∨
      ∃ p fault, r.isHeld = true ∧ w.answer = some fault ∧
        (b.reconcile now r).exec w = (.error fault, w.written (.patchInfra false p)) := by
  have hattempted := attempt_attempted (b := b) (r := r) hw
  have hreconcile := b.exec_reconcile now r w
  rcases he : (b.attempt r).exec w with ⟨attempted, u⟩
  rw [he] at hattempted hreconcile
  have hanswers := fun c hc => hattempted.outcome_eq (c := c) hc
  cases hattempted with
  | nothing hown =>
    refine .inl ⟨attempted, _, [], ⟨he, by simp, .inl ⟨rfl, rfl⟩, hanswers, hown⟩,
      ?_⟩
    rw [hreconcile]
    cases attempted with
    | ok => rfl
    | error fault =>
      obtain ⟨hb, hlive⟩ := hown fault rfl
      simp [isBuild_of_build hb, hlive]
  | accepted p m hheld ha =>
    exact .inl ⟨_, _, [(.patchInfra false p, none)], ⟨he, rfl, .inr ⟨p, rfl, ha, hheld, rfl⟩,
      hanswers, nofun⟩, hreconcile⟩
  | @refused p fault hheld ha =>
    refine .inr ⟨p, fault, hheld, ha, ?_⟩
    rw [hreconcile]
    simp [hw.answer fault ha]

/-- A report is the last call of a look at a resource that is held and not being deleted. -/
theorem lastCall_eq_patchStatus {name ownNamespace : String} {s : Status}
    {attempted : Except Fault Unit}
    (h : lastCall now r attempted = some (.patchStatus name ownNamespace s)) :
    r.isDeleting = false ∧ r.isHeld = true ∧ name = r.address ∧
      ownNamespace = r.addressNamespace ∧
      Status.ofOutcome r.metadata.generation now attempted = some s ∧
      Status.isNews r.status s = true := by
  rw [lastCall] at h
  split at h
  · split at h <;> cases h
  case isFalse hlive =>
    split at h
    case isTrue hheld =>
      obtain ⟨t, ht, hcall⟩ := Option.map_eq_some_iff.1 h
      cases hcall
      obtain ⟨hsome, hnews⟩ := Option.filter_eq_some_iff.1 ht
      exact ⟨by simpa using hlive, hheld, rfl, rfl, hsome, hnews⟩
    · cases h

/-- After an update that succeeded, the next look asks nothing of the backend and reports the same
again. -/
theorem sent_again (hm : b.Reaches a w.inventory) (h : (b.attempt r).exec w = (.ok (), u))
    {name ownNamespace : String} {s : Status}
    (hlast : lastCall now r (.ok ()) = some (.patchStatus name ownNamespace s))
    (hv : v.inventory = u.inventory) (later : Timestamp) :
    ∃ t, (b.reconcile later r).sent v = [.patchStatus name ownNamespace t] ∧ t.phase = s.phase ∧
      t.message = s.message ∧ t.observedGeneration = s.observedGeneration := by
  obtain ⟨hlive, hheld, rfl, rfl, hs, hnews⟩ := lastCall_eq_patchStatus hlast
  have hattempt : b.attempt r = b.update r := by simp [attempt, hheld, hlive]
  rw [hattempt] at h
  obtain ⟨built, hb, hrealizes⟩ := realizes_of_update hm.coherent h
  have hagain : (b.attempt r).exec v = (.ok (), v) := by
    rw [hattempt]
    exact exec_update_of_realizes (hv ▸ (hm.updated h).coherent) hb (hv ▸ hrealizes)
  -- the report differs from the one before in its time only, which is not looked at
  cases hs
  have hnews' : Status.isNews r.status (.ready r.metadata.generation later) = true := by
    cases hold : r.status with
    | none => rfl
    | some old =>
      rw [hold] at hnews
      exact hnews
  refine ⟨.ready r.metadata.generation later, ?_, rfl, rfl, rfl⟩
  have hcall : lastCall later r (.ok ()) =
      some (.patchStatus r.address r.addressNamespace (.ready r.metadata.generation later)) := by
    simp [lastCall, hlive, hheld, Status.ofOutcome, hnews']
  rw [sent, after, exec_reconcile, hagain]
  simp only [hcall, World.conclude_some, World.calls_called, List.drop_left]

/-- **Discipline.** A look calls by the rules, from any inventory that is reached and whatever fails
outside. When the backend has accepted its request and its report does not come through, the next
look makes no request and reports the same. -/
theorem reconcile_disciplined (hm : b.Reaches a w.inventory) (hw : w.ForeignFaults) :
    let calls := w.outcomes ((b.reconcile now r).sent w)
    b.Disciplined r w calls ((b.reconcile now r).exec w) ∧
      ∀ enforceRevision p name ownNamespace s fault,
        (.patchInfra enforceRevision p, none) ∈ calls →
        (.patchStatus name ownNamespace s, some fault) ∈ calls →
        ∀ later v, v.inventory = ((b.reconcile now r).after w).inventory →
          ∃ t, (b.reconcile later r).sent v = [.patchStatus name ownNamespace t] ∧
            t.phase = s.phase ∧ t.message = s.message ∧
            t.observedGeneration = s.observedGeneration := by
  rcases look_cases (b := b) hw now r with ⟨attempted, u, asked, h, hlook⟩ |
    ⟨p, fault, hheld, ha, hlook⟩
  · simp only [sent, after, hlook, h.outcomes]
    refine ⟨h.disciplined hw now _, ?_⟩
    -- an accepted request together with a failed report means that the update has succeeded
    intro enforceRevision p name ownNamespace s fault hp hs later v hv
    rcases h.asked with ⟨rfl, -⟩ | ⟨q, rfl, -, -, rfl⟩
    · -- without a request there is only the last call, which changes the resource
      have hlast : lastCall now r attempted = some (.patchInfra enforceRevision p) := by
        simp only [callsOf, List.nil_append, List.mem_map, Option.mem_toList, Prod.mk.injEq] at hp
        obtain ⟨c, hc, rfl, -⟩ := hp
        exact hc
      cases changesResource_of_lastCall hlast
    · have hlast : lastCall now r (.ok ()) = some (.patchStatus name ownNamespace s) := by
        simp only [callsOf, List.mem_append, List.mem_singleton, Prod.mk.injEq, reduceCtorEq,
          false_and, false_or, List.mem_map, Option.mem_toList] at hs
        obtain ⟨c, hc, rfl, -⟩ := hs
        exact hc
      rw [hlast, World.conclude_some] at hv
      exact sent_again hm h.exec hlast hv later
  · simp only [sent, after, hlook, World.calls_written, List.drop_left, World.outcomes,
      World.outcome, ha]
    refine ⟨disciplined_refused hw hheld ha, fun _ _ _ _ _ _ hp => ?_⟩
    simp at hp

/-- The cluster drops the connection while a look reports: the request to the backend has been
accepted, and the next look reports without another one. Later the resource is being deleted and
cannot be built any more: what is stored of its owner is removed before it is let go of. -/
theorem reconcile_disciplined_unreported :
    let b : Builder := ⟨"k", "default"⟩
    let r : Resource := {
      metadata := {
        name := some "web", ownNamespace := some "shop", uid := some "u", generation := some 1
        finalizers := [Resource.finalizer] }
      spec := { appliedTo := [{ pods := some .empty }], rules := [{}] } }
    let now : Timestamp := ⟨⟨2024, 2, 29⟩, 12, 30, 0, 0⟩
    let dropped : Fault := .cluster "the connection was closed"
    let w : World := { patchStatus := some dropped }
    let s := Status.ready (some 1) now
    let calls := w.outcomes ((b.reconcile now r).sent w)
    let broken : Resource := {
      metadata := { r.metadata with deletion := some now }
      spec := { rules := [{}] } }
    let v : World := { inventory := ((b.update r).after w).inventory }
    let removal := v.outcomes ((b.reconcile now broken).sent v)
    b.Reaches {} w.inventory ∧ w.ForeignFaults ∧
      b.Disciplined r w calls ((b.reconcile now r).exec w) ∧
      (∃ p, calls = [(.patchInfra false p, none), (.patchStatus "web" "shop" s, some dropped)]) ∧
      (∀ later v, v.inventory = ((b.reconcile now r).after w).inventory →
        ∃ t, (b.reconcile later r).sent v = [.patchStatus "web" "shop" t] ∧ t.phase = s.phase ∧
          t.message = s.message ∧ t.observedGeneration = s.observedGeneration) ∧
      b.Reaches {} v.inventory ∧ v.ForeignFaults ∧
      b.Disciplined broken v removal ((b.reconcile now broken).exec v) ∧
      ∃ p, (b.remove broken).sent v = [] ∧ (b.removeOwner "u").sent v = [.patchInfra false p] ∧
        removal = [(.patchInfra false p, none), (.removeFinalizer "web" "shop", none)] := by
  intro b r now dropped w s calls broken v removal
  have hm : b.Reaches {} w.inventory := .filled rfl
  have hreport : Uri.pathTarget? ("/apis/netfence.dev/v1alpha1/namespaces/shop/securitypolicies/" ++
      "web" ++ "/status" ++ Cluster.changeSuffix) = some
        ("/apis/netfence.dev/v1alpha1/namespaces/shop/securitypolicies/web/status" ++
          Cluster.changeSuffix) := by
    cbv
  have hw : w.ForeignFaults := by
    -- the fault is what a report ends with that gets no answer
    refine @World.foreignFaults_of_requests w "web" "shop" s ?_ ?_ ?_ ?_ <;> rintro fault ⟨⟩
    exact ⟨{ script := [.dropped] }, Cluster.runFrom_patchStatus_of_dropped rfl hreport s rfl⟩
  obtain ⟨hdisciplined, hagain⟩ := @reconcile_disciplined b {} now r w hm hw
  obtain ⟨p, hcalls⟩ :
      ∃ p, calls = [(.patchInfra false p, none), (.patchStatus "web" "shop" s, some dropped)] :=
    ⟨_, rfl⟩
  have hasked : (.patchInfra false p, none) ∈ calls := by simp [hcalls]
  have hreported : (.patchStatus "web" "shop" s, some dropped) ∈ calls := by simp [hcalls]
  have hstored : b.Reaches {} v.inventory := .served (.update r) hm
  have hv : v.ForeignFaults := by constructor <;> rintro fault ⟨⟩
  obtain ⟨hremoved, -⟩ := @reconcile_disciplined b {} now broken v hstored hv
  exact ⟨hm, hw, hdisciplined, ⟨p, hcalls⟩, hagain false p "web" "shop" s dropped hasked hreported,
    hstored, hv, hremoved, _, rfl, rfl, rfl⟩

end Builder

end FirewallOperator
