import FirewallOperator.Cli.Program

/-! # The program

The command line and the variables of the environment decide what is printed and how the program
ends. It reaches no network: every request that it would send is dropped. -/

namespace FirewallOperator

namespace Cli

/-- The variables that a run looks at. -/
def variableNames : List String := tracingVariable :: Flag.all.filterMap Flag.variableName?

/-- The variables that are set. -/
def environment : IO Environment := do
  let mut env : Environment := .empty
  for name in variableNames do
    if let some value ← IO.getEnv name then env := env.insert name value
  return env

end Cli

end FirewallOperator

open FirewallOperator.Cli in
/-- Runs the program. -/
def main (args : List String) : IO UInt32 := do
  let outcome := ((run args (← environment)).run unreachable).1
  match outcome with
  | .shown text => (← IO.getStdout).putStr text
  | .misused _ => (← IO.getStderr).putStr "error: the arguments are not valid; try --help\n"
  | .failed failure => (← IO.getStderr).putStr failure.report
  | .started _ => pure ()
  return outcome.exitCode
