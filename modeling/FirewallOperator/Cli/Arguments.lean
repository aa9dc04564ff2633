import FirewallOperator.Cli.Options

/-! # Reading a command line

`Options.read` reads arguments from left to right, then the environment for flags that no argument
gave, and leaves the defaults for the rest. A value stands behind an equals sign or is the next
argument, unless that starts with a dash. A flag takes effect only when the next one is met or the
arguments end: until then its fault, if it has one, is not noticed. -/

namespace FirewallOperator

namespace Cli

/-- The variables of the environment. -/
abbrev Environment := SortedMap String

/-- What an argument looks like. -/
inductive Argument where
  /-- Two dashes alone: no flag follows. -/
  | divider
  /-- Two dashes, a name, and perhaps an equals sign and a value. -/
  | long (name : String) (value : Option String)
  /-- One dash and letters, the first of which is given. -/
  | short (letter : Char)
  /-- Anything else. -/
  | bare (text : String)
  deriving DecidableEq, Repr

/-- What a text looks like as an argument. -/
def Argument.ofText (s : String) : Argument :=
  match s.toList with
  | ['-', '-'] => divider
  | '-' :: '-' :: rest =>
    let (name, value) := rest.span (· != '=')
    long (String.ofList name) (value.tail?.map String.ofList)
  | '-' :: c :: _ => short c
  | _ => bare s

/-- Why reading ends early. -/
inductive Stop where
  | help
  | version
  | misused (misuse : Misuse)
  deriving DecidableEq, Repr

/-- What has been read so far. -/
structure Reading where
  options : Options := {}
  /-- The flags that have taken effect. -/
  given : List Flag := []
  /-- The last flag, if it takes a value and has not taken effect, and its value if it is known. -/
  pending : Option (Flag × Option String) := none

namespace Reading

/-- The reading after a flag has taken effect. -/
def give (r : Reading) (f : Flag) (value : String) : Except Stop Reading :=
  if f ∈ r.given then .error (.misused .repeated)
  else
    match r.options.set f value with
    | .error misuse => .error (.misused misuse)
    | .ok options => .ok { r with options, given := f :: r.given }

/-- The reading after the pending flag has taken effect. -/
def settle (r : Reading) : Except Stop Reading :=
  match r.pending with
  | none => .ok r
  | some (_, none) => .error (.misused .missingValue)
  | some (f, some value) => give { r with pending := none } f value

/-- Ends a reading, unless the pending flag does so before. -/
def finish {α : Type} (r : Reading) (stop : Stop) : Except Stop α := do
  let _ ← r.settle
  throw stop

/-- The reading after a flag with the value behind its equals sign. -/
def flag (r : Reading) (f : Flag) (attached : Option String) : Except Stop Reading := do
  match f.isSwitch, attached with
  | true, some _ => throw (.misused .unexpectedValue)
  | true, none => (← r.settle).give f "true"
  | false, some value => (← r.settle).give f value
  | false, none => return { ← r.settle with pending := some (f, none) }

/-- The reading after one more argument. -/
def step (r : Reading) : Argument → Except Stop Reading
  | .divider => throw (.misused .unknown)
  | .long name attached =>
    match Flag.all.find? (·.name == name) with
    | some f => r.flag f attached
    | none =>
      if name = "help" ∨ name = "version" then
        if attached.isSome then throw (.misused .unexpectedValue)
        else r.finish (if name = "help" then .help else .version)
      else throw (.misused .unknown)
  | .short letter =>
    -- both letters end the reading, so what is written behind them does not matter
    if letter = 'h' then r.finish .help
    else if letter = 'V' then r.finish .version
    else throw (.misused .unknown)
  | .bare text =>
    match r.pending with
    | some (f, none) => return { r with pending := some (f, some text) }
    | _ => throw (.misused .unknown)

/-- The reading after all arguments. Nothing may follow a divider. -/
def arguments (r : Reading) : List String → Except Stop Reading
  | [] => r.settle
  | s :: rest =>
    match Argument.ofText s, rest with
    -- the divider alone asks for nothing
    | .divider, [] => r.settle
    | a, rest => do (← r.step a).arguments rest

/-- The reading after the variables that stand in for flags which no argument gave. -/
def readVariables (env : Environment) (r : Reading) : List Flag → Except Stop Reading
  | [] => .ok r
  | f :: rest =>
    match f.variableName?.bind env.get? with
    | none => r.readVariables env rest
    | some value =>
      if f ∈ r.given then r.readVariables env rest
      else do (← r.give f value).readVariables env rest

end Reading

/-- The options that a command line and the environment give. -/
def Options.read (args : List String) (env : Environment) : Except Stop Options := do
  let r ← ({} : Reading).arguments args
  return (← r.readVariables env Flag.all).options

end Cli

end FirewallOperator
