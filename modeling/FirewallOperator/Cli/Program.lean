import FirewallOperator.Cli.Help
import FirewallOperator.Http.Uri
import FirewallOperator.Resource.Definition
import FirewallOperator.Sync
import FirewallOperator.Yaml

/-! # A run of the program

`run` takes a command line and an environment to the `Outcome` of a run, up to the point where the
inventory has been filled and the operator waits for resources. Whatever stops it comes in a fixed
order: the command line, the request for the definition, tracing, the settings, the listings. -/

namespace FirewallOperator

namespace Cli

/-- Why a run fails. -/
inductive Failure where
  /-- Traces cannot be sent to what the environment names. -/
  | tracing
  /-- A setting that cannot be done without. -/
  | settings (problem : String)
  /-- The backend's objects cannot be listed. -/
  | listing (fault : Fault)
  deriving DecidableEq, Repr

namespace Failure

/-- What has failed, as the start of a description. -/
def heading : Failure → String
  | tracing => "failed to initialize tracer: "
  | settings _ => ""
  | listing _ => "initial backend sync failed: "

/-- Why it has failed. -/
def detail : Failure → String
  | tracing => "invalid URI"
  | settings problem => problem
  | listing fault => fault.message

/-- The line that reports the failure. -/
def report (f : Failure) : String := "Error: " ++ f.heading ++ f.detail ++ "\n"

end Failure

/-- What a run comes to. -/
inductive Outcome where
  /-- It prints a text and ends. -/
  | shown (text : String)
  /-- Its command line makes no sense. -/
  | misused (misuse : Misuse)
  | failed (failure : Failure)
  /-- It waits for resources, with an inventory of what the backend has. -/
  | started (inventory : Inventory)

/-- The code with which a run ends. -/
def Outcome.exitCode : Outcome → UInt32
  | shown _ => 0
  | misused _ => 2
  | failed _ => 1
  | started _ => 0

/-- The outcome of a run that its command line ends. -/
def Outcome.ofStop (env : Environment) : Stop → Outcome
  | .help => shown (help env)
  | .version => shown version
  | .misused misuse => misused misuse

/-! ## Settings -/

/-- The variable that names where traces are sent. -/
def tracingVariable : String := "OTEL_EXPORTER_OTLP_ENDPOINT"

/-- What keeps the operator from running: an endpoint for traces that is no URI, or a setting. -/
def obstacle? (o : Options) (env : Environment) : Option Failure :=
  if (env.get? tracingVariable).any (!Uri.isUri ·) then some .tracing
  else o.problem?.map .settings

/-- What is printed on request: the definition of resources. -/
def definitionText : String := Resource.definition.yaml ++ "\n"

/-! ## Listings -/

/-- What listing a kind of objects yields. -/
def arrival (α : Type) [Managed α] (b : Backend) : StateM Server (Arrival α) := do
  match ← (b.list α).run with
  | .ok objects => return { objects }
  | .error fault => return { fault := some fault }

/-- Fills an inventory with what the backend has. -/
def fill (b : Backend) : StateM Server (Inventory × Option Fault) := do
  let policies ← arrival Policy b
  let rules ← arrival Rule b
  let groups ← arrival Group b
  return ({ policies, rules, groups } : Arrivals).sync .empty

/-- A server that drops one request of each listing. -/
def unreachable : Server := ⟨[.dropped, .dropped, .dropped], []⟩

/-- A run with a command line, in an environment. -/
def run (args : List String) (env : Environment) : StateM Server Outcome := do
  match Options.read args env with
  | .error stop => return .ofStop env stop
  | .ok o =>
    if o.showDefinition then return .shown definitionText
    match obstacle? o env with
    | some failure => return .failed failure
    | none =>
      match ← fill o.backend with
      | (_, some fault) => return .failed (.listing fault)
      | (inventory, none) => return .started inventory

end Cli

end FirewallOperator
