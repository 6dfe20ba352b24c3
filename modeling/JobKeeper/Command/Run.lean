/-
  File:      JobKeeper/Command/Run.lean
  Subject:   The command line: which command the arguments name, and what it prints.
-/
import JobKeeper.Command.Service

namespace JobKeeper

variable {σ : Type}

/-! ## 1. Commands -/

/-- What the program can be asked to do. -/
inductive Command where
  | run
  | render
  | checkConfig
  | help
  | unknown (name : String)
  deriving DecidableEq, Repr

/-- The command of the arguments, and how many of them it takes. Flags alone, or nothing at all,
    ask for the service. -/
def Command.ofArguments (arguments : List String) : Command × Nat :=
  match arguments with
  | [] => (.run, 1)
  | name :: _ =>
    if name = "run" then (.run, 1)
    else if name = "render" then (.render, 1)
    else if name = "check-config" then (.checkConfig, 1)
    else if name = "help" || name = "--help" || name = "-h" then (.help, 1)
    else if name.toList.head? = some '-' then (.run, 0)
    else (.unknown name, 1)

/-- The only file that the arguments ask for, if they ask for one: the job to render, or the
    configuration. -/
def wantedFile? (arguments : List String) (environment : Option String) : Option String :=
  let (command, start) := Command.ofArguments arguments
  match command with
  | .render => (arguments.drop start)[1]?
  | .run | .checkConfig =>
    match FlagValues.read arguments start with
    | .ok flags => some (configPath flags.configPath environment)
    | .error _ => none
  | .help | .unknown _ => none

/-! ## 2. Running them -/

/-- A run that prints a text, or fails. -/
def CommandRun.ofOutput (output : Except Failure String) (state : σ) : CommandRun σ :=
  match output with
  | .ok output => { output, state }
  | .error failure => .failed failure state

/-- Runs the command of the arguments. -/
def Surroundings.runCommand (s : Surroundings σ) (arguments : List String) (state : σ) :
    CommandRun σ :=
  let (command, start) := Command.ofArguments arguments
  match command with
  | .run => runService s arguments start state
  | .render => .ofOutput (renderListing s arguments start state) state
  | .checkConfig => .ofOutput (checkConfig s arguments start) state
  | .help => { output := s.terminal.help, state }
  | .unknown name =>
    { output := s.terminal.help
      errorOutput := s.terminal.error ("Unknown command: " ++ name)
      failure := some ⟨"unknown command `" ++ name ++ "`", []⟩
      state }

/-- Runs the command of the arguments; a failure is the last thing printed. -/
def Surroundings.run (s : Surroundings σ) (arguments : List String) (state : σ) : CommandRun σ :=
  let r := s.runCommand arguments state
  match r.failure with
  | none => r
  | some failure => { r with errorOutput := r.errorOutput ++ s.terminal.error failure.text }

end JobKeeper
