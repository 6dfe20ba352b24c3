/-
  File:      JobKeeper/Command/Service.lean
  Subject:   Running the service: open a session on the gateway, start the jobs API and the manager,
             keep going until the interrupt, and stop them again.
-/
import JobKeeper.Command.Render
import JobKeeper.Log
import JobKeeper.Manager.Component
import JobKeeper.Manager.Ticks
import JobKeeper.Web.Server

namespace JobKeeper

variable {σ : Type}

/-! ## 1. Before the session -/

/-- What a service needs to know before it talks to anyone. -/
structure ServiceOptions where
  configPath : String
  config : Config
  level : Log.Level
  address : ApiAddress

/-- The options that the flags and the configuration give. -/
def serviceOptions (s : Surroundings σ) (arguments : List String) (start : Nat) :
    Except Failure ServiceOptions := do
  let flags ← readFlags arguments start
  let (configPath, config) ← s.loadConfig flags
  let levelName := flags.logLevel.getD config.logLevel
  match Log.Level.ofText? levelName with
  | none => throw ⟨Log.Level.unknownMessage levelName, []⟩
  | some level => return ⟨configPath, config, level, flags.apiAddress config⟩

/-- What is logged before the service talks to anyone. -/
def ServiceOptions.openingLines (o : ServiceOptions) : List Log.Line :=
  [.info ("Loaded configuration from " ++ o.configPath), .info "Starting flink-job-manager..."]

/-- What is printed once the service runs. -/
def ServiceOptions.banner (o : ServiceOptions) (t : Terminal) (session : Session) : String :=
  t.sectionText "Job Manager Running"
    [Terminal.statusLine "Jobs API" o.address.jobsUrl,
      Terminal.statusLine "SQL Gateway" o.config.gateway.url,
      Terminal.statusLine "Gateway session" session.id,
      Terminal.statusLine "Reconcile every" (secondsText o.config.reconcileIntervalSecs),
      "",
      Terminal.statusLine "Press Ctrl+C to stop the manager." "Ctrl+C"]

/-! ## 2. The running service -/

/-- The state of a running service: its network, the requests sent with the latest first, and
    whether a pass is due. -/
structure ServiceState (σ : Type) where
  network : σ × List Request
  passDue : Bool := false

namespace ServiceState

/-- The jobs API and the manager, in the order of their start. -/
def lifecycle (s : Surroundings σ) (o : ServiceOptions) (session : Session) :
    Lifecycle (ServiceState σ) :=
  let listen := fun (address : String) (state : ServiceState σ) =>
    let (answer, network) := s.listen address state.network.1
    (answer, { state with network := (network, state.network.2) })
  let host : ManagerHost (ServiceState σ) :=
    { schedule := fun state => { state with passDue := true }
      release := fun state => (.ok (), [session.releasedLine], state) }
  { components :=
      [Web.server (o.address.host ++ ":" ++ toString o.address.port) listen, host.component] }

/-- Runs the pass that is due. -/
def runDuePass (s : Surroundings σ) (o : ServiceOptions) (session : Session)
    (state : ServiceState σ) : List Log.Line × ServiceState σ :=
  if state.passDue then
    let world := World.live o.config.hub session s.transport.recorded fun n => s.now n.1
    let (_, report) := Manager.reconcile world o.config.managerSettings {} state.network
    (report.logs, { network := report.state, passDue := false })
  else ([], state)

end ServiceState

/-- Starts the service in a session, runs its first pass, and stops it at the interrupt. -/
def serve (s : Surroundings σ) (o : ServiceOptions) (session : Session)
    (network : σ × List Request) : CommandRun (ServiceState σ) :=
  let lifecycle := ServiceState.lifecycle s o session
  let scheduled := scheduledLine o.config.reconcileIntervalSecs
  let (lifecycle, started) := lifecycle.start { network }
  match started.failure with
  | some failure =>
    { logs := scheduled :: started.logs, failure := some ⟨failure, []⟩, state := started.state }
  | none =>
    let (passLogs, state) := ServiceState.runDuePass s o session started.state
    let (_, stopped) := lifecycle.shutdown state
    { output := o.banner s.terminal session ++ s.terminal.goodbye
      logs := scheduled :: started.logs ++ passLogs ++ stopped.logs
      state := stopped.state }

/-! ## 3. The command -/

/-- Opens a session and runs the service in it. -/
def runService (s : Surroundings σ) (arguments : List String) (start : Nat) (state : σ) :
    CommandRun σ :=
  match serviceOptions s arguments start with
  | .error failure => .failed failure state
  | .ok o =>
    let gateway := Gateway.ofUrl o.config.gateway.url o.config.pollPolicy
    let opened := gateway.openSession s.transport.recorded (state, [])
    match opened.result with
    | .error error =>
      let context := "cannot open a session on the SQL gateway at " ++ o.config.gateway.url
      { logs := Log.Line.above o.level o.openingLines
        failure := some (error.failure.under context)
        requests := opened.state.2.reverse
        state := opened.state.1 }
    | .ok session =>
      let run := serve s o session opened.state
      { output := run.output
        errorOutput := run.errorOutput
        logs := Log.Line.above o.level
          (o.openingLines ++ Gateway.openedLine session.id :: run.logs)
        failure := run.failure
        requests := run.state.network.2.reverse
        state := run.state.network.1 }

end JobKeeper
