/-
  File:      JobKeeper/Command/Basic.lean
  Subject:   What the command line works with: what is around it, its errors, and what a run leaves.
-/
import JobKeeper.Command.Directory
import JobKeeper.Command.Flags
import JobKeeper.Command.Terminal

namespace JobKeeper

/-! ## 1. Surroundings -/

/-- What is around a run of the program; `σ` is the state of its network. -/
structure Surroundings (σ : Type) where
  /-- The text of the file at a path. -/
  file : String → Except FileError String
  /-- What the environment says of the configuration's path. -/
  configPath : Option String := none
  terminal : Terminal := {}
  now : σ → Instant
  readScheme : Config.AddressReader
  transport : Transport σ
  /-- Opens a port for the jobs API. -/
  listen : String → σ → Except String Unit × σ

/-! ## 2. Errors -/

/-- Why a command failed: what went wrong, and the causes behind it, the nearest first. -/
structure Failure where
  message : String
  causes : List String := []
  deriving DecidableEq, Repr

namespace Failure

/-- The failure with something said in front of it. -/
def under (context : String) (f : Failure) : Failure := ⟨context, f.message :: f.causes⟩

/-- The failure and all its causes in one line. -/
def text (f : Failure) : String := Text.join ": " (f.message :: f.causes)

end Failure

def FlagError.failure (e : FlagError) : Failure := ⟨e.message, e.causes⟩

def ConfigError.failure (e : ConfigError) : Failure := ⟨e.message, e.causes⟩

def GatewayError.failure (e : GatewayError) : Failure := ⟨e.message, e.causes⟩

/-! ## 3. Runs -/

/-- What a run leaves: what it printed, what it logged, and the failure that ended it. -/
structure CommandRun (σ : Type) where
  output : String := ""
  errorOutput : String := ""
  logs : List Log.Line := []
  failure : Option Failure := none
  /-- The requests sent, in order. -/
  requests : List Request := []
  state : σ

namespace CommandRun

/-- A run that failed before it did anything. -/
def failed {σ : Type} (failure : Failure) (state : σ) : CommandRun σ :=
  { failure := some failure, state }

/-- Zero if all went well. -/
def exitCode {σ : Type} (r : CommandRun σ) : Nat := if r.failure.isSome then 1 else 0

end CommandRun

/-! ## 4. Files -/

/-- The flags among the arguments from a position on. -/
def readFlags (arguments : List String) (start : Nat) : Except Failure FlagValues :=
  (FlagValues.read arguments start).mapError FlagError.failure

namespace Surroundings

variable {σ : Type}

/-- The text of a file that must be there. -/
def requireFile (s : Surroundings σ) (path : String) : Except Failure String :=
  match s.file path with
  | .ok text => .ok text
  | .error error => .error (Failure.under ("reading " ++ path) ⟨error.message, []⟩)

/-- The configuration that the flags ask for, and where it came from. -/
def loadConfig (s : Surroundings σ) (flags : FlagValues) : Except Failure (String × Config) := do
  let path := JobKeeper.configPath flags.configPath s.configPath
  if let .error error := s.file path then
    if !error.isFound then throw ⟨"configuration file not found: " ++ path, []⟩
  let text ← s.requireFile path
  match Config.ofText s.readScheme text with
  | .ok config => return (path, config)
  | .error error => throw (Failure.under ("in " ++ path) error.failure)

end Surroundings

end JobKeeper
