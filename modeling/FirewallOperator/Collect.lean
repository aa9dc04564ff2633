import FirewallOperator.Service

/-! # Collecting what nobody owns

Objects whose resource vanished unseen are removed from time to time. The owners in the inventory
are looked up before the resources are listed, so that objects of a resource which appears in
between are not taken for left over. A failure for one owner does not keep the others from being
removed. -/

namespace FirewallOperator

/-- The answer to listing all resources. -/
structure LiveAnswer where
  /-- Objects that came into the inventory while the answer was under way. -/
  arrived : Listing := {}
  /-- The uids of the resources, or why they could not be listed. -/
  uids : Except Fault TextSet

namespace Operation

/-- The uids of all resources. -/
def listLive (answer : LiveAnswer) : Operation TextSet := do
  record .listLive
  modify fun w => { w with inventory := w.inventory.putAll answer.arrived }
  match answer.uids with
  | .ok uids => return uids
  | .error fault => throw fault

end Operation

namespace Builder

/-- Removes the objects of owners that have a policy, one owner after the other; the number of those
removed. -/
def sweep (b : Builder) : List String → Operation Nat
  | [] => return 0
  | owner :: rest => do
    let removed ←
      if ((← Operation.inventory).policies.ownedBy owner).isEmpty then pure 0
      else tryCatch (do b.removeOwner owner; return 1) fun _ => return 0
    return removed + (← b.sweep rest)

/-- Removes the objects of owners that are not alive; the number of owners removed. -/
def collect (b : Builder) (answer : LiveAnswer) : Operation Nat := do
  -- before the listing, or what appears during it would look left over
  let owned := (← Operation.inventory).owners
  let live ← Operation.listLive answer
  b.sweep (owned.difference live)

/-- Collects once for each answer. A pass that fails is followed by the next. -/
def collectAll (b : Builder) : List LiveAnswer → Operation Unit
  | [] => return
  | answer :: rest => do
    let _ ← tryCatch (b.collect answer) fun _ => return 0
    b.collectAll rest

end Builder

end FirewallOperator
