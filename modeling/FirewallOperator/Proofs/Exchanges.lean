import FirewallOperator.Cluster
import FirewallOperator.Proofs.Effects

/-! # Exchanges with the cluster

What the cluster's interface is asked, and what follows from its replies: `Exchange.sent` are the
requests that an exchange sends, and `Cluster.runFrom_get` and `Cluster.runFrom_merge` are the two
ways of asking. -/

namespace FirewallOperator

namespace Server

/-- The next reply of a server. -/
def reply (s : Server) : Reply := s.script.head?.getD spent

/-- A server after one more request. -/
def asked (s : Server) (r : Request) : Server :=
  { script := s.script.tail, requests := s.requests ++ [r] }

/-- A request is recorded as the last one. -/
@[simp] theorem requests_asked (s : Server) (r : Request) :
    (s.asked r).requests = s.requests ++ [r] := rfl

end Server

namespace Exchange

variable {α : Type}

/-- The requests that an exchange sends, oldest first. -/
def sent (x : Exchange α) (s : Server) : List Request :=
  (runFrom x s).2.requests.drop s.requests.length

/-- A request gets the next reply of the server. -/
theorem runFrom_send (r : Request) (s : Server) :
    runFrom (Exchange.send r) s = (.ok s.reply, s.asked r) := rfl

end Exchange

namespace Cluster

variable {α : Type}

/-- What a reply to a request comes to. -/
def outcomeOf (decode : Json → Option α) : Reply → Except Fault α
  | .dropped => .error (.cluster "the connection was closed")
  | .answered status text =>
    if isRefusal status then .error (.refused (refusalOf status text))
    else
      match (Json.parseLoose text).bind decode with
      | some x => .ok x
      | none => .error (.cluster "the answer cannot be read")

/-- The request for a target, with a change if there is one. -/
def requestFor (method target : String) (body : Option Json) : Request where
  method := method
  url := target
  contentType := body.map fun _ => "application/merge-patch+json"
  body := body

/-- The target of a look at a resource and that of a change to it, if there can be both. -/
def targets? (name ownNamespace : String) : Option (String × String) := do
  let path ← (resourcePath name ownNamespace).toOption
  return (← Uri.pathTarget? path, ← Uri.pathTarget? (path ++ changeSuffix))

/-- The two targets of a resource are made of its path. -/
theorem targets?_eq_some {name ownNamespace look change : String}
    (h : targets? name ownNamespace = some (look, change)) :
    ∃ path, resourcePath name ownNamespace = .ok path ∧ Uri.pathTarget? path = some look ∧
      Uri.pathTarget? (path ++ changeSuffix) = some change := by
  simp only [targets?, Option.bind_eq_bind, Option.bind_eq_some_iff, Option.pure_def,
    Option.some.injEq, Prod.mk.injEq] at h
  obtain ⟨path, hpath, _, hlook, _, hchange, rfl, rfl⟩ := h
  refine ⟨path, ?_, hlook, hchange⟩
  cases hp : resourcePath name ownNamespace with
  | error fault =>
    rw [hp] at hpath
    cases hpath
  | ok p =>
    rw [hp] at hpath
    cases hpath
    rfl

/-- A path that is valid is asked for, and the reply decides. -/
theorem runFrom_send {path target : String} (h : Uri.pathTarget? path = some target)
    (method : String) (body : Option Json) (decode : Json → Option α) (s : Server) :
    runFrom (send method path body decode) s =
      (outcomeOf decode s.reply, s.asked (requestFor method target body)) := by
  rw [send, h]
  simp only [runFrom_bind, Exchange.runFrom_send]
  show runFrom (match s.reply with
    | .dropped => _
    | .answered status text => _) _ = _
  rw [requestFor]
  rcases s.reply with _ | ⟨status, text⟩
  · rfl
  · simp only [outcomeOf]
    split
    · rfl
    · cases (Json.parseLoose text).bind decode <;> rfl

section Resources

variable {name ownNamespace look change : String}
  (h : targets? name ownNamespace = some (look, change))
include h

/-- A look at a resource sends one request, and reads its reply. -/
theorem runFrom_get (s : Server) :
    runFrom (get name ownNamespace) s =
      (outcomeOf Resource.ofJson? s.reply, s.asked (requestFor "GET" look none)) := by
  obtain ⟨path, hpath, hlook, -⟩ := targets?_eq_some h
  rw [get, hpath, runFrom_bind, runFrom_lift]
  exact runFrom_send hlook _ _ _ _

/-- The change of a resource is sent, whatever becomes of it. -/
theorem requests_merge (j : Json) (s : Server) :
    (runFrom (merge name ownNamespace "" j) s).2.requests =
      s.requests ++ [requestFor "PATCH" change (some j)] := by
  obtain ⟨path, hpath, -, hchange⟩ := targets?_eq_some h
  rw [merge, hpath, runFrom_bind, runFrom_lift]
  simp only [runFrom_bind, String.append_empty, runFrom_send hchange]
  cases outcomeOf Resource.ofJson? s.reply <;> rfl

end Resources

end Cluster

end FirewallOperator
