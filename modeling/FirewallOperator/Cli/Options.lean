import FirewallOperator.Backend

/-! # Options of the program

`Options` is what a run is told to do, and `Flag` names what can be told: each flag is given on the
command line or, but for the first, by a variable of the environment. `Options.set` is what a value
means for a flag; `Options.problem?` says what keeps the operator from running. -/

namespace FirewallOperator

namespace Cli

/-- What a run is told to do. -/
structure Options where
  /-- Whether only the definition of resources is printed. -/
  showDefinition : Bool := false
  /-- The name that tags every object on the backend. -/
  cluster : String := ""
  /-- The domain of the backend in which objects are created. -/
  domain : String := "default"
  backendUrl : String := ""
  backendUser : String := ""
  backendPassword : String := ""
  /-- Whether any certificate of the backend is trusted. -/
  trustAny : Bool := false
  /-- The seconds after which a request is given up. -/
  requestTimeout : UInt64 := 30
  /-- The seconds between two collections of what has no owner any more. -/
  collectInterval : UInt64 := 300
  deriving DecidableEq, Repr

/-- What can be told to a run. -/
inductive Flag where
  | showDefinition
  | cluster
  | domain
  | backendUrl
  | backendUser
  | backendPassword
  | trustAny
  | requestTimeout
  | collectInterval
  deriving DecidableEq, Repr

namespace Flag

/-- The flags in the order in which they are explained. -/
def all : List Flag :=
  [showDefinition, cluster, domain, backendUrl, backendUser, backendPassword, trustAny,
    requestTimeout, collectInterval]

/-- Every flag is listed. -/
theorem mem_all (f : Flag) : f ∈ all := by cases f <;> decide

/-- What stands behind two dashes. -/
def name : Flag → String
  | showDefinition => "crd"
  | cluster => "cluster"
  | domain => "domain"
  | backendUrl => "backend-url"
  | backendUser => "backend-user"
  | backendPassword => "backend-password"
  | trustAny => "insecure-skip-tls-verify"
  | requestTimeout => "request-timeout-secs"
  | collectInterval => "gc-interval-secs"

/-- The name in capitals, with underscores. -/
def capitals (f : Flag) : String := (f.name.map fun c => if c = '-' then '_' else c).toUpper

/-- The variable of the environment that stands in for the flag. -/
def variableName? : Flag → Option String
  | showDefinition => none
  | f => some ("NETFENCE_" ++ f.capitals)

/-- Whether the flag is given without a value. -/
def isSwitch : Flag → Bool
  | showDefinition | trustAny => true
  | _ => false

/-- Whether the value must not be shown. -/
def isSecret (f : Flag) : Bool := f == backendPassword

/-- What the flag is for. -/
def description : Flag → String
  | showDefinition => "Print the SecurityPolicy CRD manifest and exit"
  | cluster => "Cluster name tagged onto every backend object"
  | domain => "Backend policy domain"
  | backendUrl => "Backend manager URL"
  | backendUser => "Backend user"
  | backendPassword => "Backend password"
  | trustAny => "Skip verification of the backend's TLS certificate"
  | requestTimeout => "Backend request timeout in seconds"
  | collectInterval => "Seconds between garbage collection passes"

end Flag

/-! ## Values -/

/-- What is wrong with a command line. -/
inductive Misuse where
  /-- An argument that is no flag and no value. -/
  | unknown
  /-- A flag that needs a value has none. -/
  | missingValue
  /-- A flag that takes no value has one. -/
  | unexpectedValue
  /-- A flag is given twice. -/
  | repeated
  /-- A text that should be a truth value is none. -/
  | noTruthValue
  /-- A text that should be a number is none. -/
  | noNumber
  deriving DecidableEq, Repr

/-- The number that a text of decimal digits stands for; a plus sign may precede them. -/
def number? (s : String) : Option UInt64 :=
  let digits := match s.toList with
    | '+' :: rest => rest
    | cs => cs
  let value := digits.foldl (fun n c => n * 10 + (c.toNat - '0'.toNat)) 0
  if !digits.isEmpty && digits.all Char.isDigit && value < 0x10000000000000000 then
    some (UInt64.ofNat value)
  else none

/-- The truth value that a text names. -/
def truth? (s : String) : Option Bool :=
  if s = "true" then some true else if s = "false" then some false else none

namespace Options

/-- The options after a flag has been given a value. -/
def set (o : Options) (f : Flag) (value : String) : Except Misuse Options :=
  let truth := (truth? value).elim (Except.error Misuse.noTruthValue) .ok
  let number := (number? value).elim (Except.error Misuse.noNumber) .ok
  match f with
  | .showDefinition => return { o with showDefinition := ← truth }
  | .cluster => return { o with cluster := value }
  | .domain => return { o with domain := value }
  | .backendUrl => return { o with backendUrl := value }
  | .backendUser => return { o with backendUser := value }
  | .backendPassword => return { o with backendPassword := value }
  | .trustAny => return { o with trustAny := ← truth }
  | .requestTimeout => return { o with requestTimeout := ← number }
  | .collectInterval => return { o with collectInterval := ← number }

/-- The value that a flag has; switches have none. -/
def value? (o : Options) : Flag → Option String
  | .showDefinition | .trustAny => none
  | .cluster => some o.cluster
  | .domain => some o.domain
  | .backendUrl => some o.backendUrl
  | .backendUser => some o.backendUser
  | .backendPassword => some o.backendPassword
  | .requestTimeout => some (toString o.requestTimeout.toNat)
  | .collectInterval => some (toString o.collectInterval.toNat)

/-! ## Use -/

/-- What keeps the operator from running: the first of the settings that it cannot do without. -/
def problem? (o : Options) : Option String :=
  if o.cluster.isEmpty then some "--cluster (NETFENCE_CLUSTER) is required"
  else if o.backendUrl.isEmpty then some "--backend-url (NETFENCE_BACKEND_URL) is required"
  else if o.collectInterval = 0 then some "--gc-interval-secs must be positive"
  else none

/-- The backend that the operator uses. -/
def backend (o : Options) : Backend where
  baseUrl := o.backendUrl
  user := o.backendUser
  password := o.backendPassword
  cluster := o.cluster

end Options

end Cli

end FirewallOperator
