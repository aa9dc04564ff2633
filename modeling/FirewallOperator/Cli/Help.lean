import FirewallOperator.Cli.Arguments
import FirewallOperator.Text.Plain
import FirewallOperator.Text.Quoted

/-! # Explaining the options

`help` is the text that explains every flag, with what its variable of the environment currently
holds and the value it has unless given. It is laid out for a terminal, with control sequences that
make words stand out, and then left without them: a sequence that a variable holds goes with them,
and one that it leaves open reaches as far as the next. -/

namespace FirewallOperator

namespace Cli

/-- The name of the program. -/
def programName : String := "netfence-operator"

/-- The name and the version of the program. -/
def version : String := programName ++ " 0.1.0\n"

/-- Where an explanation starts: on a line of its own, ten blanks in. -/
def explanationStart : String := "\n          "

/-- A text whose lines all start where explanations do. -/
def aligned (s : String) : String := explanationStart.intercalate (s.splitOn "\n")

/-- A default as it is shown: quoted if it is empty. -/
def shownDefault (s : String) : String := if s.isEmpty then quoted s else s

/-- The remark on the variable of a flag. -/
def variableNote (env : Environment) (f : Flag) : String :=
  match f.variableName? with
  | none => ""
  | some name =>
    let value := if f.isSecret then "" else "=" ++ (env.get? name).getD ""
    " [env: " ++ name ++ value ++ "]"

/-- The remark on the default of a flag. -/
def defaultNote (f : Flag) : String :=
  match ({} : Options).value? f with
  | none => ""
  | some s => " [default: " ++ shownDefault s ++ "]"

/-- A word that is typed as it stands, in bold. -/
def bold (s : String) : String := "\x1b[1m" ++ s ++ "\x1b[0m"

/-- A heading, in bold and underlined. -/
def heading (s : String) : String := "\x1b[1m\x1b[4m" ++ s ++ "\x1b[0m"

/-- The entry of a flag. -/
def entry (env : Environment) (f : Flag) : String :=
  "      " ++ bold ("--" ++ f.name) ++ (if f.isSwitch then "" else " <" ++ f.capitals ++ ">")
    ++ explanationStart ++ aligned (f.description ++ variableNote env f ++ defaultNote f) ++ "\n"

/-- The entry of a flag that asks for a text about the program. -/
def askingEntry (short long description : String) : String :=
  "  " ++ bold short ++ ", " ++ bold long ++ explanationStart ++ description ++ "\n"

/-- The text that explains every flag, as it is laid out for a terminal. -/
def terminalHelp (env : Environment) : String :=
  "Kubernetes operator projecting SecurityPolicy resources onto a software-defined networking "
    ++ "backend\n\n" ++ heading "Usage:" ++ " " ++ bold programName ++ " [OPTIONS]\n\n"
    ++ heading "Options:" ++ "\n" ++ String.join (Flag.all.map (entry env))
    ++ askingEntry "-h" "--help" "Print help" ++ askingEntry "-V" "--version" "Print version"

/-- The text that explains every flag. -/
def help (env : Environment) : String := shownText (terminalHelp env)

end Cli

end FirewallOperator
