import FirewallOperator.Change
import FirewallOperator.World

/-! # Realizing resources

The operations that project resources onto the backend. Each plans a change on the inventory,
submits it in one request, and brings the inventory up to date once the request has been accepted.
Whether an object's revision still stands is never checked: the last writer wins. -/

namespace FirewallOperator

/-- Submits a change, and brings the inventory up to date when it is accepted. -/
def Change.submit (c : Change) (domain : String) : Operation Unit := do
  Operation.write (.patchInfra false (c.patch domain))
  Operation.setInventory c.after

namespace Builder

/-- Brings the backend in line with a resource; nothing is sent when it already is. -/
def update (b : Builder) (r : Resource) : Operation Unit := do
  match ← Change.forUpdate b (← Operation.inventory) r with
  | none => return
  | some c => c.submit b.domain

/-- Removes a resource's objects from the backend. -/
def remove (b : Builder) (r : Resource) : Operation Unit := do
  (← Change.forRemoval b (← Operation.inventory) r).submit b.domain

/-- Removes an owner's objects from the backend; nothing is sent without a policy to carry the
request. -/
def removeOwner (b : Builder) (uid : String) : Operation Unit := do
  match Change.forOwner (← Operation.inventory) uid with
  | none => return
  | some c => c.submit b.domain

/-- Creates or replaces groups one at a time. The first failure ends the row; groups written before
it stay stored. -/
def updateGroups (b : Builder) : List Group → Operation Unit
  | [] => return
  | g :: rest => do
    Operation.write (.patchGroup b.domain g)
    let m ← Operation.inventory
    Operation.setInventory { m with groups := m.groups.put g }
    b.updateGroups rest

end Builder

end FirewallOperator
