/-
  File:      JobKeeper/Command/Render.lean
  Subject:   Printing the statements of a job without submitting them, and printing the
             configuration.
-/
import JobKeeper.Command.Basic

namespace JobKeeper

/-! ## 1. Statements of a job -/

/-- The plan of the job in a text, of a kind given by its name. -/
def renderJob (kindName text : String) (ctx : PlanContext) : Except Failure Plan :=
  match JobKind.ofName? kindName with
  | none =>
    .error ⟨"unknown job kind `" ++ kindName ++ "` (expected behavior or rule)", []⟩
  | some kind =>
    match Job.ofText? kind text with
    | none => .error ⟨"invalid " ++ kind.name ++ " job definition", []⟩
    | some job => (job.plan ctx).mapError fun error => ⟨error.message, []⟩

/-- A step as it is printed. -/
def Step.listing (s : Step) : String :=
  "-- " ++ s.label ++ " (" ++ s.object ++ ")\n" ++ s.sql ++ ";\n\n"

/-- The steps of a plan as they are printed. -/
def Plan.listing (p : Plan) : String := String.join (p.steps.map Step.listing)

variable {σ : Type}

/-- The listing of the job that the arguments from a position on name. -/
def renderListing (s : Surroundings σ) (arguments : List String) (start : Nat) (state : σ) :
    Except Failure String :=
  match arguments.drop start with
  | kindName :: path :: _ => do
    let flags ← readFlags arguments (start + 2)
    let text ← s.requireFile path
    let plan ← renderJob kindName text ⟨flags.groupId.getD "", (s.now state).toDateTime⟩
    return plan.listing
  | _ => .error ⟨"usage: flink-job-manager render <behavior|rule> <job.json>", []⟩

/-! ## 2. The configuration -/

/-- Where the list of jobs can be read. -/
def ApiAddress.jobsUrl (a : ApiAddress) : String :=
  "http://" ++ a.host ++ ":" ++ toString a.port ++ "/api/v1/jobs"

/-- How a number of seconds is printed. -/
def secondsText (n : Nat) : String := toString n ++ "s"

/-- The configuration as it is printed. -/
def Config.listing (c : Config) (t : Terminal) (path : String) (address : ApiAddress) : String :=
  t.sectionText "Configuration"
    [Terminal.statusLine "File" path,
      Terminal.statusLine "Jobs API" address.jobsUrl,
      Terminal.statusLine "SQL Gateway" c.gateway.url,
      Terminal.statusLine "Result polling"
        (toString c.pollPolicy.attempts ++ " attempts, " ++ toString c.gateway.pollIntervalMs
          ++ " ms apart"),
      Terminal.statusLine "Behavior jobs" c.hub.behaviorEndpoint,
      Terminal.statusLine "Rule jobs" c.hub.ruleEndpoint,
      Terminal.statusLine "Kafka group" c.groupId,
      Terminal.statusLine "Reconcile every" (secondsText c.reconcileIntervalSecs),
      Terminal.statusLine "Log level" c.logLevel]

/-- What checking the configuration prints. -/
def checkConfig (s : Surroundings σ) (arguments : List String) (start : Nat) :
    Except Failure String := do
  let flags ← readFlags arguments start
  let (path, config) ← s.loadConfig flags
  return config.listing s.terminal path (flags.apiAddress config)
    ++ s.terminal.success "Configuration is valid."

end JobKeeper
