/-
  File:      JobKeeper/Command/Flags.lean
  Subject:   The flags of the command line.

  Every flag takes the argument after it as its value, whatever that looks like. An argument that is
  no flag is passed over. Of a flag that comes twice the later value counts.
-/
import JobKeeper.Config

namespace JobKeeper

/-! ## 1. Flags -/

inductive Flag where
  | config
  | logLevel
  | apiHost
  | apiPort
  | groupId
  deriving DecidableEq, Repr

namespace Flag

/-- The flag that an argument is, if it is one. -/
def ofArgument? (argument : String) : Option Flag :=
  if argument = "--config" || argument = "-c" then some .config
  else if argument = "--log-level" then some .logLevel
  else if argument = "--api-host" then some .apiHost
  else if argument = "--api-port" then some .apiPort
  else if argument = "--kafka-group-id" then some .groupId
  else none

/-- What is said of a flag at the end of the arguments. -/
def needsValue : Flag → String
  | .config => "--config needs a path"
  | .logLevel => "--log-level needs a level"
  | .apiHost => "--api-host needs a host"
  | .apiPort => "--api-port needs a port"
  | .groupId => "--kafka-group-id needs a value"

end Flag

/-- The values of the flags that were given. -/
structure FlagValues where
  configPath : Option String := none
  logLevel : Option String := none
  apiHost : Option String := none
  apiPort : Option Nat := none
  groupId : Option String := none
  deriving DecidableEq, Repr

/-- Why arguments cannot be read. -/
inductive FlagError where
  /-- A flag has no argument after it. -/
  | missingValue (flag : Flag)
  /-- A port is no number that a port may be. -/
  | invalidPort (value : String) (cause : Text.Unsigned.Error)
  deriving DecidableEq, Repr

namespace FlagError

/-- The wording of an error. -/
def message : FlagError → String
  | .missingValue flag => flag.needsValue
  | .invalidPort value _ => "invalid --api-port `" ++ value ++ "`"

/-- The causes behind an error. -/
def causes : FlagError → List String
  | .missingValue _ => []
  | .invalidPort _ cause => [cause.message]

end FlagError

/-! ## 2. Reading -/

namespace FlagValues

/-- The values with that of one flag set. -/
def set (v : FlagValues) (flag : Flag) (value : String) : Except FlagError FlagValues :=
  match flag with
  | .config => .ok { v with configPath := some value }
  | .logLevel => .ok { v with logLevel := some value }
  | .apiHost => .ok { v with apiHost := some value }
  | .apiPort =>
    match Text.Unsigned.read Config.limit16 value with
    | .ok port => .ok { v with apiPort := some port }
    | .error cause => .error (.invalidPort value cause)
  | .groupId => .ok { v with groupId := some value }

/-- Reads on from the values so far. -/
def readOn (v : FlagValues) : List String → Except FlagError FlagValues
  | [] => .ok v
  | argument :: rest =>
    match Flag.ofArgument? argument with
    | none => readOn v rest
    | some flag =>
      match rest with
      | [] => .error (.missingValue flag)
      | value :: rest =>
        match v.set flag value with
        | .ok v => readOn v rest
        | .error error => .error error

/-- The flags among the arguments from a position on. -/
def read (arguments : List String) (start : Nat) : Except FlagError FlagValues :=
  readOn {} (arguments.drop start)

/-! ## 3. Use -/

/-- Where the jobs API listens: a flag goes before the configuration. -/
def apiAddress (v : FlagValues) (c : Config) : ApiAddress :=
  ⟨v.apiHost.getD c.api.host, v.apiPort.getD c.api.port⟩

end FlagValues

/-- Where the configuration is if nobody says so. -/
def defaultConfigPath : String := "./config.yml"

/-- Where the configuration is: the flag goes before the environment, and a blank text there says
    nothing. -/
def configPath (flag environment : Option String) : String :=
  match flag with
  | some path => path
  | none =>
    match environment.filter (!Text.isBlank ·) with
    | some path => path
    | none => defaultConfigPath

end JobKeeper
