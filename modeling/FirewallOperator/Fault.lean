import FirewallOperator.Text.Quoted

/-! # Faults

What can go wrong while resources are realized: a resource that cannot be built, a request that
the backend or the cluster refused, data that cannot be read. A fault knows whether trying again can
help (`Fault.isRetryable`) and how to describe itself (`Fault.message`). -/

namespace FirewallOperator

/-- The answer of the cluster's interface to a refused request. -/
structure Refusal where
  status : String
  message : String
  reason : String
  /-- The status code that the answer gives. -/
  code : UInt16
  deriving DecidableEq, Repr

/-- The wording of a refusal. -/
def Refusal.text (r : Refusal) : String :=
  "ApiError: " ++ r.message ++ ": " ++ r.reason ++ " (ErrorResponse \x7b status: "
    ++ quoted r.status ++ ", message: " ++ quoted r.message ++ ", reason: " ++ quoted r.reason
    ++ ", code: " ++ toString r.code.toNat ++ " \x7d)"

/-- What went wrong. -/
inductive Fault where
  /-- The cluster's interface refused a request. -/
  | refused (refusal : Refusal)
  /-- The cluster's interface could not be used: no request could be made, or its answer could not
  be read. -/
  | cluster (description : String)
  /-- A resource cannot be built, because of the named field. -/
  | build (policy message : String) (field : Option String)
  /-- The backend refused a request, or gave no answer at all. -/
  | backend (operation : String) (status : Option UInt16) (message : String)
  /-- The initial listing of a kind failed. -/
  | sync (kind : String) (source : Fault)
  /-- Data of a kind could not be read. -/
  | data (message : String) (kind : Option String)
  /-- The program is in a state it should not be in. -/
  | internal (context message : String)
  deriving DecidableEq, Repr

namespace Fault

/-- Whether a status code blames the request. -/
def blamesRequest (code : UInt16) : Bool := 400 ≤ code && code < 500

/-- Whether trying again can help: not when the resource or the data have to change first, nor when
the request was refused as wrong. -/
def isRetryable : Fault → Bool
  | .refused r => !blamesRequest r.code
  | .cluster _ => true
  | .build .. => false
  | .backend _ status _ => !status.any blamesRequest
  | .sync _ source => source.isRetryable
  | .data .. => false
  | .internal .. => true

/-- The name of the resource that the fault is tied to. -/
def policy? : Fault → Option String
  | .build policy _ _ => some policy
  | _ => none

/-- The status code with which the backend answered. -/
def status? : Fault → Option UInt16
  | .backend _ status _ => status
  | .sync _ source => source.status?
  | _ => none

/-- The wording of a fault. -/
def message : Fault → String
  | .refused r => "kubernetes error: " ++ r.text
  | .cluster description => "kubernetes error: " ++ description
  | .build policy message _ => "build error for " ++ policy ++ ": " ++ message
  | .backend operation _ message => "backend error [" ++ operation ++ "]: " ++ message
  | .sync kind source => "initial sync of " ++ kind ++ " failed: " ++ source.message
  | .data message _ => "serialization error: " ++ message
  | .internal context message => "internal error [" ++ context ++ "]: " ++ message

/-- Whether the fault is that a resource cannot be built. -/
def isBuild : Fault → Bool
  | .build .. => true
  | _ => false

/-- Whether trying again can help is up to the fault that kept a kind from being listed. -/
@[simp] theorem isRetryable_sync (kind : String) (source : Fault) :
    (sync kind source).isRetryable = source.isRetryable := rfl

/-- The status of a failed listing is that of the fault behind it. -/
@[simp] theorem status?_sync (kind : String) (source : Fault) :
    (sync kind source).status? = source.status? := rfl

end Fault

end FirewallOperator
