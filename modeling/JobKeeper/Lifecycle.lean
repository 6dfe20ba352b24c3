/-
  File:      JobKeeper/Lifecycle.lean
  Subject:   Starting and stopping the parts of the service.

  Each component has three hooks. They are called in the order in which the components were
  attached to start them, and in the reverse order to stop them. If one refuses to start, those
  before it are stopped again. A component that refuses to stop holds up none of the others.
-/
import JobKeeper.Log

namespace JobKeeper

/-! ## 1. Components -/

/-- The occasions on which a component is called. -/
inductive Hook where
  | init
  | start
  | shutdown
  deriving DecidableEq, Repr

/-- What comes of calling a component: why it refused, if it did. -/
structure HookAnswer (σ : Type) where
  failure : Option String := none
  logs : List Log.Line := []
  state : σ

/-- A part of the service; `σ` is the state that the components share. -/
structure Component (σ : Type) where
  call : Hook → σ → HookAnswer σ

namespace Component

/-- A component that does nothing. -/
def silent {σ : Type} : Component σ := ⟨fun _ state => { state }⟩

end Component

/-! ## 2. Calls in order -/

/-- A call of a component, named by its place in the order of attachment. -/
structure HookCall where
  hook : Hook
  position : Nat
  deriving DecidableEq, Repr

/-- What came of calling components: the error that ended it, the calls made, and the lines
    logged. -/
structure HookRun (σ : Type) where
  failure : Option String := none
  calls : List HookCall := []
  logs : List Log.Line := []
  state : σ

namespace HookRun

variable {σ : Type}

/-- A run with lines logged before it. -/
def after (lines : List Log.Line) (r : HookRun σ) : HookRun σ := { r with logs := lines ++ r.logs }

/-- A run with one more call in front. -/
def afterCall (c : HookCall) (a : HookAnswer σ) (r : HookRun σ) : HookRun σ :=
  { r with calls := c :: r.calls, logs := a.logs ++ r.logs }

end HookRun

/-- A component and its place in the order of attachment. -/
abbrev Attached (σ : Type) := Component σ × Nat

variable {σ : Type}

/-- What is logged when a component refuses to stop. -/
def shutdownErrorLine (failure : String) : Log.Line :=
  .warn ("Component shutdown error: " ++ failure)

/-- What is logged when a component refuses to start, after so many that did. -/
def startFailedLine (started : Nat) : Log.Line :=
  .warn ("Component failed to start, stopping " ++ toString started ++ " started before it")

/-- Prepares the components in order, up to the first that refuses. -/
def initEach : List (Attached σ) → σ → HookRun σ
  | [], state => { state }
  | (c, position) :: rest, state =>
    let a := c.call .init state
    let after : HookRun σ := match a.failure with
      | some failure => { failure := some failure, state := a.state }
      | none => initEach rest a.state
    after.afterCall ⟨.init, position⟩ a

/-- Stops all the components in the order given, whichever of them refuse. -/
def stopEach : List (Attached σ) → σ → HookRun σ
  | [], state => { state }
  | (c, position) :: rest, state =>
    let a := c.call .shutdown state
    let after := (stopEach rest a.state).after (a.failure.map shutdownErrorLine).toList
    after.afterCall ⟨.shutdown, position⟩ a

/-- Starts the components in order. At the first that refuses, those started before it are stopped,
    the latest first, and its error is the one that counts; `started` holds them in that order. -/
def startEach (started : List (Attached σ)) : List (Attached σ) → σ → HookRun σ
  | [], state => { state }
  | (c, position) :: rest, state =>
    let a := c.call .start state
    let after : HookRun σ := match a.failure with
      | some failure =>
        let stopped := (stopEach started a.state).after [startFailedLine started.length]
        { stopped with failure := some failure }
      | none => startEach ((c, position) :: started) rest a.state
    after.afterCall ⟨.start, position⟩ a

/-! ## 3. Phases -/

/-- How far the service has come. -/
inductive Phase where
  | init
  | starting
  | ready
  | shutdown
  deriving DecidableEq, Repr

def Phase.name : Phase → String
  | .init => "Init"
  | .starting => "Starting"
  | .ready => "Ready"
  | .shutdown => "Shutdown"

/-- What is logged when a phase begins. -/
def Phase.line (p : Phase) : Log.Line := .info ("Lifecycle phase: " ++ p.name)

/-- The components of a service in the order of their attachment, and its phase. -/
structure Lifecycle (σ : Type) where
  components : List (Component σ) := []
  phase : Phase := .init

namespace Lifecycle

/-- The lifecycle with one more component at the end. -/
def attach (l : Lifecycle σ) (c : Component σ) : Lifecycle σ :=
  { l with components := l.components ++ [c] }

/-- The components with their places. -/
def attached (l : Lifecycle σ) : List (Attached σ) := l.components.zipIdx

/-- Prepares all components, then starts them. -/
def start (l : Lifecycle σ) (state : σ) : Lifecycle σ × HookRun σ :=
  let prepared := (initEach l.attached state).after [Phase.init.line]
  match prepared.failure with
  | some _ => ({ l with phase := .init }, prepared)
  | none =>
    let started := (startEach [] l.attached prepared.state).after [Phase.starting.line]
    let run :=
      { started with
        calls := prepared.calls ++ started.calls
        logs := prepared.logs ++ started.logs }
    match started.failure with
    | some _ => ({ l with phase := .starting }, run)
    | none => ({ l with phase := .ready }, { run with logs := run.logs ++ [Phase.ready.line] })

/-- Stops all components, the last attached first. This succeeds whatever they answer. -/
def shutdown (l : Lifecycle σ) (state : σ) : Lifecycle σ × HookRun σ :=
  ({ l with phase := .shutdown }, (stopEach l.attached.reverse state).after [Phase.shutdown.line])

end Lifecycle

end JobKeeper
