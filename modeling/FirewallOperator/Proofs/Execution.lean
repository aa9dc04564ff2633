import FirewallOperator.Collect
import FirewallOperator.Proofs.Effects
import FirewallOperator.Reconcile

/-! # Executing operations

An `Operation` is a computation on the world. `Operation.exec` gives its outcome and the world after
it, and each way of building an operation has its equation here, so that the monad is opened in this
file only. `Operation.sent` are the calls that an operation makes. -/

namespace FirewallOperator

namespace World

/-- What becomes of the next write to the backend: a fault, or acceptance. -/
def answer (w : World) : Option Fault := w.writes.head?.join

/-- The world after a write to the backend has been made and answered. -/
def written (w : World) (call : Call) : World :=
  { w with calls := w.calls ++ [call], writes := w.writes.tail }

/-- The world with one more call, to the cluster. -/
def called (w : World) (call : Call) : World := { w with calls := w.calls ++ [call] }

/-- The world with another inventory. -/
def stocked (w : World) (m : Inventory) : World := { w with inventory := m }

variable (w : World) (call : Call) (m : Inventory)

/-- A write leaves the inventory as it is. -/
@[simp] theorem inventory_written : (w.written call).inventory = w.inventory := rfl

/-- A write is recorded as the last call. -/
@[simp] theorem calls_written : (w.written call).calls = w.calls ++ [call] := rfl

/-- A write takes the first of the answers that are still to come. -/
@[simp] theorem writes_written : (w.written call).writes = w.writes.tail := rfl

/-- A call to the cluster leaves the inventory as it is. -/
@[simp] theorem inventory_called : (w.called call).inventory = w.inventory := rfl

/-- A call to the cluster is recorded as the last one. -/
@[simp] theorem calls_called : (w.called call).calls = w.calls ++ [call] := rfl

/-- A call to the cluster takes no answer of the backend. -/
@[simp] theorem writes_called : (w.called call).writes = w.writes := rfl

/-- Another inventory is the one that was put in place. -/
@[simp] theorem inventory_stocked : (w.stocked m).inventory = m := rfl

/-- Another inventory is no call. -/
@[simp] theorem calls_stocked : (w.stocked m).calls = w.calls := rfl

/-- Another inventory takes no answer. -/
@[simp] theorem writes_stocked : (w.stocked m).writes = w.writes := rfl

end World

namespace Operation

variable {α β : Type}

/-- The outcome of an operation on a world, and the world after it. -/
def exec (op : Operation α) (w : World) : Except Fault α × World := (ExceptT.run op).run w

/-- The world after an operation. -/
def after (op : Operation α) (w : World) : World := (op.exec w).2

/-- The calls that an operation makes, oldest first. -/
def sent (op : Operation α) (w : World) : List Call := (op.after w).calls.drop w.calls.length

/-! ## Ways of building operations -/

/-- An operation that only returns a value changes nothing. -/
@[simp] theorem exec_pure (a : α) (w : World) : (pure a : Operation α).exec w = (.ok a, w) := rfl

/-- An operation that only fails changes nothing. -/
@[simp] theorem exec_throw (fault : Fault) (w : World) :
    (throw fault : Operation α).exec w = (.error fault, w) := rfl

/-- The second operation runs in the world that the first one leaves, unless that one fails. -/
theorem exec_bind (op : Operation α) (next : α → Operation β) (w : World) :
    (op >>= next).exec w =
      match op.exec w with
      | (.ok a, v) => (next a).exec v
      | (.error fault, v) => (.error fault, v) := by
  rw [exec, exec, ← runFrom, ← runFrom, runFrom_bind]
  rcases runFrom op w with ⟨_ | _, _⟩ <;> rfl

/-- A handler runs in the world that the failed operation leaves: what was sent stays sent. -/
theorem exec_tryCatch (op : Operation α) (handler : Fault → Operation α) (w : World) :
    (tryCatch op handler).exec w =
      match op.exec w with
      | (.ok a, v) => (.ok a, v)
      | (.error fault, v) => (handler fault).exec v := by
  rw [exec, exec, ← runFrom, ← runFrom, runFrom_tryCatch]
  rcases runFrom op w with ⟨_ | _, _⟩ <;> rfl

/-- A computation that may fail leaves the world alone. -/
@[simp] theorem exec_lift (outcome : Except Fault α) (w : World) :
    (liftM outcome : Operation α).exec w = (outcome, w) :=
  runFrom_lift outcome w

/-- A look at the inventory changes nothing. -/
@[simp] theorem exec_inventory (w : World) : inventory.exec w = (.ok w.inventory, w) := rfl

/-- An inventory that is set is the one in the world. -/
@[simp] theorem exec_setInventory (m : Inventory) (w : World) :
    (setInventory m).exec w = (.ok (), w.stocked m) := rfl

/-- An answer is either success or a fault, and changes nothing. -/
theorem exec_settle (answer : Option Fault) (w : World) :
    (settle answer).exec w =
      match answer with
      | none => (.ok (), w)
      | some fault => (.error fault, w) := by
  cases answer <;> rfl

/-- A write to the backend is recorded, whatever becomes of it. -/
theorem exec_write (call : Call) (w : World) :
    (write call).exec w =
      match w.answer with
      | none => (.ok (), w.written call)
      | some fault => (.error fault, w.written call) :=
  exec_settle w.answer (w.written call)

/-- A status that is written is recorded, whether or not it is accepted. -/
theorem exec_patchStatus (name ownNamespace : String) (s : Status) (w : World) :
    (patchStatus name ownNamespace s).exec w =
      match w.patchStatus with
      | none => (.ok (), w.called (.patchStatus name ownNamespace s))
      | some fault => (.error fault, w.called (.patchStatus name ownNamespace s)) :=
  exec_settle w.patchStatus (w.called (.patchStatus name ownNamespace s))

/-- A finalizer that is added is recorded, whether or not it is accepted. -/
theorem exec_addFinalizer (name ownNamespace : String) (w : World) :
    (addFinalizer name ownNamespace).exec w =
      match w.addFinalizer with
      | none => (.ok (), w.called (.addFinalizer name ownNamespace))
      | some fault => (.error fault, w.called (.addFinalizer name ownNamespace)) :=
  exec_settle w.addFinalizer (w.called (.addFinalizer name ownNamespace))

/-- A finalizer that is removed is recorded, whether or not it is accepted. -/
theorem exec_removeFinalizer (name ownNamespace : String) (w : World) :
    (removeFinalizer name ownNamespace).exec w =
      match w.removeFinalizer with
      | none => (.ok (), w.called (.removeFinalizer name ownNamespace))
      | some fault => (.error fault, w.called (.removeFinalizer name ownNamespace)) :=
  exec_settle w.removeFinalizer (w.called (.removeFinalizer name ownNamespace))

end Operation

open Operation

/-! ## Realizing and removing -/

/-- An accepted change takes effect on the inventory, a refused one does not. -/
theorem Change.exec_submit (c : Change) (domain : String) (w : World) :
    (c.submit domain).exec w =
      match w.answer with
      | none => (.ok (), (w.written (.patchInfra false (c.patch domain))).stocked c.after)
      | some fault => (.error fault, w.written (.patchInfra false (c.patch domain))) := by
  rw [Change.submit, exec_bind, exec_write]
  cases w.answer <;> rfl

namespace Change

variable {b : Builder} {m : Inventory} {r : Resource} {built : Built} {fault : Fault}

/-- For a resource that is built, an update is planned on what was built. -/
theorem forUpdate_of_build (hb : b.build r = .ok built) :
    forUpdate b m r = .ok (toBuilt m (r.metadata.uid.getD "") built) := by
  rw [forUpdate, hb]
  rfl

/-- A resource that cannot be built has no change. -/
theorem forUpdate_of_fault (hb : b.build r = .error fault) : forUpdate b m r = .error fault := by
  rw [forUpdate, hb]
  rfl

/-- A resource that can be built is removed by what it is built into. -/
theorem forRemoval_of_build (hb : b.build r = .ok built) :
    forRemoval b m r = .ok (ofBuilt m (r.metadata.uid.getD "") built) := by
  rw [forRemoval, hb]
  rfl

/-- A resource that cannot be built is not removed by its build. -/
theorem forRemoval_of_fault (hb : b.build r = .error fault) :
    forRemoval b m r = .error fault := by
  rw [forRemoval, hb]
  rfl

end Change

namespace Builder

/-- An update fails with the build, or does nothing, or sends the one change and then applies it. -/
theorem exec_update (b : Builder) (r : Resource) (w : World) :
    (b.update r).exec w =
      match Change.forUpdate b w.inventory r with
      | .error fault => (.error fault, w)
      | .ok none => (.ok (), w)
      | .ok (some c) => (c.submit b.domain).exec w := by
  simp only [update, exec_bind, exec_inventory, exec_lift]
  rcases Change.forUpdate b w.inventory r with _ | _ | _ <;> rfl

/-- An update makes the planned request and no other call, whatever becomes of it. -/
theorem calls_update (b : Builder) (r : Resource) (w : World) :
    ((b.update r).after w).calls = w.calls ++
      match Change.forUpdate b w.inventory r with
      | .ok (some c) => [.patchInfra false (c.patch b.domain)]
      | _ => [] := by
  rw [after, exec_update]
  rcases Change.forUpdate b w.inventory r with fault | _ | c
  · exact (List.append_nil _).symm
  · exact (List.append_nil _).symm
  · simp only [Change.exec_submit]
    cases w.answer <;> rfl

/-- An update sends one patch, if there is something to change. -/
theorem sent_update (b : Builder) (r : Resource) (w : World) :
    (b.update r).sent w =
      match Change.forUpdate b w.inventory r with
      | .ok (some c) => [.patchInfra false (c.patch b.domain)]
      | _ => [] := by
  rw [sent, calls_update, List.drop_left]

/-- A removal fails with the build, or sends the one change and then applies it. -/
theorem exec_remove (b : Builder) (r : Resource) (w : World) :
    (b.remove r).exec w =
      match Change.forRemoval b w.inventory r with
      | .error fault => (.error fault, w)
      | .ok c => (c.submit b.domain).exec w := by
  simp only [remove, exec_bind, exec_inventory, exec_lift]
  rcases Change.forRemoval b w.inventory r with _ | _ <;> rfl

/-- The removal of a resource that cannot be built fails with its defect, and does nothing. -/
theorem exec_remove_of_fault {b : Builder} {r : Resource} {fault : Fault}
    (hb : b.build r = .error fault) (w : World) : (b.remove r).exec w = (.error fault, w) := by
  rw [exec_remove, Change.forRemoval_of_fault hb]

/-- The removal of a resource that can be built submits what it is built into. -/
theorem exec_remove_of_build {b : Builder} {r : Resource} {built : Built}
    (hb : b.build r = .ok built) (w : World) :
    (b.remove r).exec w =
      ((Change.ofBuilt w.inventory (r.metadata.uid.getD "") built).submit b.domain).exec w := by
  rw [exec_remove, Change.forRemoval_of_build hb]

/-- A removal by owner does nothing if no policy of the owner is stored, and else sends the one
change and then applies it. -/
theorem exec_removeOwner (b : Builder) (uid : String) (w : World) :
    (b.removeOwner uid).exec w =
      match Change.forOwner w.inventory uid with
      | none => (.ok (), w)
      | some c => (c.submit b.domain).exec w := by
  simp only [removeOwner, exec_bind, exec_inventory]
  rcases Change.forOwner w.inventory uid with _ | _ <;> rfl

/-- No groups make no calls. -/
@[simp] theorem exec_updateGroups_nil (b : Builder) (w : World) :
    (b.updateGroups []).exec w = (.ok (), w) := rfl

/-- Groups are written one by one, each stored once it is accepted, up to the first fault. -/
theorem exec_updateGroups_cons (b : Builder) (g : Group) (rest : List Group) (w : World) :
    (b.updateGroups (g :: rest)).exec w =
      match w.answer with
      | none => (b.updateGroups rest).exec ((w.written (.patchGroup b.domain g)).stocked
          { w.inventory with groups := w.inventory.groups.put g })
      | some fault => (.error fault, w.written (.patchGroup b.domain g)) := by
  rw [updateGroups, exec_bind, exec_write]
  cases w.answer <;> rfl

/-! ## Collecting -/

/-- No owners are swept without a call. -/
@[simp] theorem exec_sweep_nil (b : Builder) (w : World) : (b.sweep []).exec w = (.ok 0, w) := rfl

/-- One owner's removal, with whether it counts: what the backend refuses does not, nor does an
owner without a policy. -/
def sweepOne (b : Builder) (owner : String) (w : World) : Nat × World :=
  if (w.inventory.policies.ownedBy owner).isEmpty then (0, w)
  else
    match (b.removeOwner owner).exec w with
    | (.ok (), v) => (1, v)
    | (.error _, v) => (0, v)

/-- Owners are swept one after the other, whatever becomes of each. -/
theorem exec_sweep_cons (b : Builder) (owner : String) (rest : List String) (w : World) :
    (b.sweep (owner :: rest)).exec w =
      match (b.sweep rest).exec (b.sweepOne owner w).2 with
      | (.ok n, v) => (.ok ((b.sweepOne owner w).1 + n), v)
      | (.error fault, v) => (.error fault, v) := by
  simp only [sweep, exec_bind, exec_inventory, sweepOne]
  split
  -- an owner without a policy is passed over
  · simp only [exec_bind, exec_pure]
    rcases (b.sweep rest).exec w with ⟨_ | _, _⟩ <;> rfl
  -- the world after a refused removal is the one the sweep goes on in
  · simp only [exec_bind, exec_tryCatch]
    rcases (b.removeOwner owner).exec w with ⟨_ | _, v⟩ <;> simp only [exec_pure] <;>
      rcases (b.sweep rest).exec v with ⟨_ | _, _⟩ <;> rfl

/-- Owners are looked up before the listing, and removed after it. -/
theorem exec_collect (b : Builder) (answer : LiveAnswer) (w : World) :
    (b.collect answer).exec w =
      let v := (w.called .listLive).stocked (w.inventory.putAll answer.arrived)
      match answer.uids with
      | .error fault => (.error fault, v)
      | .ok live => (b.sweep (w.inventory.owners.difference live)).exec v := by
  have hlist : (listLive answer).exec w =
      (answer.uids, (w.called .listLive).stocked (w.inventory.putAll answer.arrived)) := by
    simp only [listLive, exec_bind]
    cases answer.uids <;> rfl
  rw [collect, exec_bind, exec_inventory]
  simp only [exec_bind, hlist]
  cases answer.uids <;> rfl

end Builder

end FirewallOperator
