import FirewallOperator.Fault
import FirewallOperator.Json.Value

/-! # Exchanges with a server

An `Exchange` is a computation that sends requests to a server and may end with a fault. The server
is a script of replies; when the script has run out, it answers that it cannot. Requests are kept in
the order in which they were sent.

Replies are answered as they come: they have no headers, so that none of them leads to another
place, and an answer that has begun is given to its end. -/

namespace FirewallOperator

/-- A request that was sent. -/
structure Request where
  method : String
  /-- The URL, or what the server sees of it. -/
  url : String
  authorization : Option String := none
  contentType : Option String := none
  body : Option Json := none
  deriving BEq, Repr

/-- What a server does with a request. -/
inductive Reply where
  /-- It closes the connection without an answer. -/
  | dropped
  /-- It answers with a status and a whole body, and with no header: a status that would redirect has
  no place to redirect to, and is an answer like any other. -/
  | answered (status : UInt16) (body : String)
  deriving DecidableEq, Repr

/-- A server with the replies it is still to give and the requests it has seen. -/
structure Server where
  script : List Reply
  requests : List Request := []

/-- The reply of a server whose script has run out. -/
def Server.spent : Reply := .answered 500 "script exhausted"

/-- A computation that exchanges requests and replies, and may fail. -/
abbrev Exchange (α : Type) := ExceptT Fault (StateM Server) α

/-- Whether a status says that a request succeeded. -/
def isSuccess (status : UInt16) : Bool := 200 ≤ status && status < 300

/-- Sends a request. -/
def Exchange.send (r : Request) : Exchange Reply := do
  let s ← get
  set ({ script := s.script.tail, requests := s.requests ++ [r] } : Server)
  return s.script.head?.getD Server.spent

end FirewallOperator
