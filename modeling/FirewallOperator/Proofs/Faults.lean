import FirewallOperator.Backend
import FirewallOperator.Proofs.Exchanges
import FirewallOperator.Proofs.Execution

/-! # Faults from outside

That a resource cannot be built is found here, and nothing outside says so: requests to the backend
and calls to the cluster end with faults of other kinds only (`Backend.failsForeign_patchInfra` and
its like for the cluster). A world that answers as they do has `World.ForeignFaults`. -/

namespace FirewallOperator

/-- No answer from outside is the fault of a resource that cannot be built. -/
structure World.ForeignFaults (w : World) : Prop where
  answer : ∀ fault, w.answer = some fault → fault.isBuild = false
  addFinalizer : ∀ fault, w.addFinalizer = some fault → fault.isBuild = false
  removeFinalizer : ∀ fault, w.removeFinalizer = some fault → fault.isBuild = false
  patchStatus : ∀ fault, w.patchStatus = some fault → fault.isBuild = false

namespace Exchange

variable {α β : Type}

/-- An exchange that fails only with faults from outside. -/
def FailsForeign (x : Exchange α) : Prop :=
  ∀ s fault, (runFrom x s).1 = .error fault → fault.isBuild = false

/-- A value is no fault. -/
theorem FailsForeign.pure (a : α) : FailsForeign (pure a : Exchange α) := nofun

/-- A fault from outside is one. -/
theorem FailsForeign.throw {fault : Fault} (h : fault.isBuild = false) :
    FailsForeign (throw fault : Exchange α) := by
  intro s _ hs
  cases hs
  exact h

/-- An outcome fails with a fault from outside if all its faults are. -/
theorem FailsForeign.lift {outcome : Except Fault α}
    (h : ∀ fault, outcome = .error fault → fault.isBuild = false) :
    FailsForeign (liftM outcome : Exchange α) := by
  intro s fault hs
  rw [runFrom_lift] at hs
  exact h fault hs

/-- Two exchanges one after the other fail with faults from outside if each does. -/
theorem FailsForeign.bind {x : Exchange α} {next : α → Exchange β} (hx : FailsForeign x)
    (hnext : ∀ a, FailsForeign (next a)) : FailsForeign (x >>= next) := by
  intro s fault hs
  rw [runFrom_bind] at hs
  rcases hr : runFrom x s with ⟨f | a, t⟩ <;> rw [hr] at hs
  · cases hs
    exact hx s fault (by rw [hr])
  · exact hnext a t fault hs

/-- A function of what an exchange returns has no fault of its own. -/
theorem FailsForeign.map {x : Exchange α} (f : α → β) (hx : FailsForeign x) :
    FailsForeign (f <$> x) := by
  rw [map_eq_pure_bind]
  exact hx.bind fun a => .pure (f a)

/-- An exchange that handles faults from outside fails with such a fault if the handler does. -/
theorem FailsForeign.tryCatch {x : Exchange α} {handler : Fault → Exchange α}
    (hhandler : ∀ fault, fault.isBuild = false → FailsForeign (handler fault))
    (hx : FailsForeign x) : FailsForeign (tryCatch x handler) := by
  intro s fault hs
  rw [runFrom_tryCatch] at hs
  rcases hr : runFrom x s with ⟨f | a, t⟩ <;> rw [hr] at hs
  · exact hhandler f (hx s f (by rw [hr])) t fault hs
  · cases hs

/-- A request is sent without a fault. -/
theorem FailsForeign.send (r : Request) : FailsForeign (send r) := nofun

end Exchange

open Exchange (FailsForeign)

namespace Backend

/-- A request to the backend fails with a fault from outside. -/
theorem failsForeign_send (b : Backend) (operation method path : String)
    (pairs : List (String × String)) (body : Option Json) :
    FailsForeign (b.send operation method path pairs body) := by
  rw [send]
  split
  · exact .throw rfl
  · refine .bind (.send _) fun reply => ?_
    cases reply with
    | dropped => exact .throw rfl
    | answered status text =>
      simp only
      split
      · exact .pure _
      · exact .throw rfl

/-- A request to the backend fails with faults from outside only. -/
theorem failsForeign_patchInfra (b : Backend) (p : Patch) (enforceRevision : Bool) :
    FailsForeign (b.patchInfra p enforceRevision) :=
  (b.failsForeign_send _ _ _ _ _).bind fun _ => .pure _

end Backend

namespace Cluster

/-- A request to the cluster fails with a fault from outside. -/
theorem failsForeign_send {α : Type} (method path : String) (body : Option Json)
    (decode : Json → Option α) : FailsForeign (send method path body decode) := by
  rw [send]
  split
  · refine .bind (.send _) fun reply => ?_
    cases reply with
    | dropped => exact .throw rfl
    | answered status text =>
      simp only
      split
      · exact .throw rfl
      · split
        · exact .pure _
        · exact .throw rfl
  · exact .throw rfl

/-- A resource without a path is a fault from outside. -/
theorem failsForeign_resourcePath (name ownNamespace : String) :
    FailsForeign (liftM (resourcePath name ownNamespace) : Exchange String) := by
  refine .lift fun fault h => ?_
  rw [resourcePath] at h
  split at h
  · cases h
    rfl
  · cases h

/-- A look at a resource fails with a fault from outside. -/
theorem failsForeign_get (name ownNamespace : String) : FailsForeign (get name ownNamespace) :=
  (failsForeign_resourcePath _ _).bind fun _ => failsForeign_send _ _ _ _

/-- A change of a resource fails with a fault from outside. -/
theorem failsForeign_merge (name ownNamespace part : String) (change : Json) :
    FailsForeign (merge name ownNamespace part change) :=
  (failsForeign_resourcePath _ _).bind fun _ => (failsForeign_send _ _ _ _).bind fun _ => .pure _

/-- The calls to the cluster fail with faults from outside only. -/
theorem failsForeign_addFinalizer (name ownNamespace : String) :
    FailsForeign (addFinalizer name ownNamespace) := by
  refine (failsForeign_get _ _).bind fun r => ?_
  split
  · exact .pure _
  · exact failsForeign_merge _ _ _ _

/-- The removal of a finalizer fails with a fault from outside. -/
theorem failsForeign_removeFinalizer (name ownNamespace : String) :
    FailsForeign (removeFinalizer name ownNamespace) := by
  refine .bind (.tryCatch (fun fault hfault => ?_) (.map _ (failsForeign_get _ _))) fun found => ?_
  · split
    · split
      · exact .pure _
      · exact .throw hfault
    · exact .throw hfault
  · cases found with
    | none => exact .pure _
    | some r => exact failsForeign_merge _ _ _ _

/-- A report fails with a fault from outside. -/
theorem failsForeign_patchStatus (name ownNamespace : String) (s : Status) :
    FailsForeign (patchStatus name ownNamespace s) := failsForeign_merge _ _ _ _

/-- A report that gets no answer fails with the fault of a connection that was closed. -/
theorem runFrom_patchStatus_of_dropped {name ownNamespace path target : String} {t : Server}
    (hpath : resourcePath name ownNamespace = .ok path)
    (htarget : Uri.pathTarget? (path ++ "/status" ++ changeSuffix) = some target) (s : Status)
    (hreply : t.reply = .dropped) :
    (runFrom (patchStatus name ownNamespace s) t).1 =
      .error (.cluster "the connection was closed") := by
  rw [patchStatus, merge, hpath, runFrom_bind, runFrom_lift]
  simp only [runFrom_bind, runFrom_send htarget, hreply, outcomeOf]

end Cluster

/-! ## Worlds -/

/-- A world whose faults are those that requests end with has faults from outside only. -/
theorem World.foreignFaults_of_requests {w : World} {name ownNamespace : String} {status : Status}
    (hanswer : ∀ fault, w.answer = some fault → ∃ (b : Backend) (p : Patch) (s : Server),
      (runFrom (b.patchInfra p false) s).1 = .error fault)
    (hadd : ∀ fault, w.addFinalizer = some fault → ∃ s : Server,
      (runFrom (Cluster.addFinalizer name ownNamespace) s).1 = .error fault)
    (hremove : ∀ fault, w.removeFinalizer = some fault → ∃ s : Server,
      (runFrom (Cluster.removeFinalizer name ownNamespace) s).1 = .error fault)
    (hreport : ∀ fault, w.patchStatus = some fault → ∃ s : Server,
      (runFrom (Cluster.patchStatus name ownNamespace status) s).1 = .error fault) :
    w.ForeignFaults where
  answer fault h := by
    obtain ⟨b, p, s, hs⟩ := hanswer fault h
    exact b.failsForeign_patchInfra p false s fault hs
  addFinalizer fault h := by
    obtain ⟨s, hs⟩ := hadd fault h
    exact Cluster.failsForeign_addFinalizer _ _ s fault hs
  removeFinalizer fault h := by
    obtain ⟨s, hs⟩ := hremove fault h
    exact Cluster.failsForeign_removeFinalizer _ _ s fault hs
  patchStatus fault h := by
    obtain ⟨s, hs⟩ := hreport fault h
    exact Cluster.failsForeign_patchStatus _ _ _ s fault hs

end FirewallOperator
