import FirewallOperator.Service

/-! # Reconciling a resource

`Builder.reconcile` does what one look at a resource calls for. A resource is held by a finalizer
before anything is realized for it, and let go when its objects are gone. A resource that cannot be
built is reported as failed and left alone until it changes. A report is sent only when it says
something new, since each one makes the resource change. -/

namespace FirewallOperator

/-- When to look at a resource again. -/
inductive Next where
  /-- When it changes. -/
  | onChange
  /-- After a number of seconds. -/
  | after (seconds : Nat)
  deriving DecidableEq, Repr

/-- When to look again at a resource whose reconciliation failed. -/
def Next.afterFault (_ : Fault) : Next := .after 30

/-! ## Reports -/

namespace Status

/-- The report that the backend has the resource as it was observed. -/
def ready (generation : Option Int64) (now : Timestamp) : Status where
  phase := .ready
  observedGeneration := generation
  conditions := [{
    type := "Ready"
    holds := .yes
    reason := "Realized"
    message := "security policy applied to the backend"
    observedGeneration := generation
    time := now }]

/-- The report that the resource cannot be built. -/
def failed (generation : Option Int64) (message : String) (now : Timestamp) : Status where
  phase := .failed
  message := some message
  observedGeneration := generation
  conditions := [{
    type := "Ready"
    holds := .no
    reason := "InvalidSpec"
    message
    observedGeneration := generation
    time := now }]

/-- Whether a report says something that the one before did not. -/
def isNews (previous : Option Status) (next : Status) : Bool :=
  match previous with
  | none => true
  | some s =>
    s.phase != next.phase || s.message != next.message
      || s.observedGeneration != next.observedGeneration

end Status

/-! ## The operation -/

namespace Builder

/-- Sends a report when it is news. -/
def report (r : Resource) (s : Status) : Operation Unit :=
  if Status.isNews r.status s then Operation.patchStatus r.address r.addressNamespace s
  else return

/-- Realizes a resource that is held and not being deleted, and reports on it. -/
def realize (b : Builder) (now : Timestamp) (r : Resource) : Operation Unit := do
  let outcome ← tryCatch (do b.update r; return none) (fun fault => return some fault)
  match outcome with
  | none => report r (.ready r.metadata.generation now)
  | some fault =>
    -- trying again cannot help until the resource changes
    if fault.isBuild then report r (.failed r.metadata.generation fault.message now)
    else throw fault

/-- Removes the objects of a resource that is being deleted. What cannot be built any more is
removed by owner. -/
def clear (b : Builder) (r : Resource) : Operation Unit :=
  tryCatch (b.remove r) fun fault =>
    if fault.isBuild then
      match r.metadata.uid with
      | none => return
      | some uid => b.removeOwner uid
    else throw fault

/-- Does what a resource calls for. -/
def reconcile (b : Builder) (now : Timestamp) (r : Resource) : Operation Next := do
  if r.isDeleting then
    if r.isHeld then
      b.clear r
      Operation.removeFinalizer r.address r.addressNamespace
    return .onChange
  else if r.isHeld then
    b.realize now r
    return .onChange
  else
    Operation.addFinalizer r.address r.addressNamespace
    return .after 1

end Builder

end FirewallOperator
