import FirewallOperator.Fault
import FirewallOperator.Inventory
import FirewallOperator.Object.Patch
import FirewallOperator.Resource.Basic

/-! # The world outside

What an operation does to the backend and to the cluster is a row of `Call`s. A `World` holds the
inventory, the answers that are still to come, and the calls so far; an `Operation` is a computation
on it that may end with a fault. Calls that fail are recorded too. -/

namespace FirewallOperator

/-- A request to the backend or to the cluster. -/
inductive Call where
  /-- Changes a subtree of the backend's objects. -/
  | patchInfra (enforceRevision : Bool) (patch : Patch)
  /-- Creates or replaces one group. -/
  | patchGroup (domain : String) (group : Group)
  /-- Keeps a resource from being removed. -/
  | addFinalizer (name ownNamespace : String)
  /-- Lets go of a resource. -/
  | removeFinalizer (name ownNamespace : String)
  /-- Reports on a resource. -/
  | patchStatus (name ownNamespace : String) (status : Status)
  /-- Lists the uids of all resources. -/
  | listLive
  deriving DecidableEq

/-- Whether a call goes to the backend. -/
def Call.isBackend : Call → Bool
  | .patchInfra .. | .patchGroup .. => true
  | _ => false

/-- The inventory, and how the outside behaves. -/
structure World where
  inventory : Inventory := .empty
  /-- What becomes of the writes to the backend, in order: a fault, or acceptance. Writes after the
  last are accepted. -/
  writes : List (Option Fault) := []
  /-- What becomes of adding a finalizer. -/
  addFinalizer : Option Fault := none
  /-- What becomes of removing a finalizer. -/
  removeFinalizer : Option Fault := none
  /-- What becomes of reporting a status. -/
  patchStatus : Option Fault := none
  /-- The calls so far, oldest first. -/
  calls : List Call := []

/-- A computation on the world that may fail. -/
abbrev Operation (α : Type) := ExceptT Fault (StateM World) α

namespace Operation

/-- The inventory as it is. -/
def inventory : Operation Inventory := return (← get).inventory

/-- Changes the inventory. -/
def setInventory (m : Inventory) : Operation Unit := modify fun w => { w with inventory := m }

/-- Goes on after success, and fails with the fault otherwise. -/
def settle : Option Fault → Operation Unit
  | none => return
  | some fault => throw fault

/-- Records a call. -/
def record (call : Call) : Operation Unit := modify fun w => { w with calls := w.calls ++ [call] }

/-- Makes a write to the backend. -/
def write (call : Call) : Operation Unit := do
  record call
  let outcome := (← get).writes.head?.join
  modify fun w => { w with writes := w.writes.tail }
  settle outcome

/-- Asks the cluster to keep a resource. -/
def addFinalizer (name ownNamespace : String) : Operation Unit := do
  record (.addFinalizer name ownNamespace)
  settle (← get).addFinalizer

/-- Asks the cluster to let go of a resource. -/
def removeFinalizer (name ownNamespace : String) : Operation Unit := do
  record (.removeFinalizer name ownNamespace)
  settle (← get).removeFinalizer

/-- Reports on a resource. -/
def patchStatus (name ownNamespace : String) (status : Status) : Operation Unit := do
  record (.patchStatus name ownNamespace status)
  settle (← get).patchStatus

end Operation

end FirewallOperator
