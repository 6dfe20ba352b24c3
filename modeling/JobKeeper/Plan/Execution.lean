/-
  File:      JobKeeper/Plan/Execution.lean
  Subject:   Running a plan: one statement after the other, up to the first that fails.

  The executor is anything that answers statements and has a state of its own, so its answers may
  depend on all that happened before. What was submitted and logged is returned as data.
-/
import JobKeeper.Log
import JobKeeper.Plan.Behavior
import JobKeeper.Plan.Rule
import JobKeeper.Remote.Error

namespace JobKeeper

/-! ## 1. Executors -/

/-- The result of a statement that is ready. A statement that started a job has its id. -/
structure OperationResult where
  resultType : String
  results : Json
  jobId : Option String

/-- Something that runs statements; its state is of type `σ`. -/
structure Executor (σ : Type) where
  execute : String → σ → Except GatewayError OperationResult × σ

/-! ## 2. Outcomes -/

/-- A job that runs on the cluster. -/
structure StartedJob where
  pipelineName : String
  clusterJobId : Option String
  deriving DecidableEq, Repr

/-- Why a job was not started. -/
inductive CompileError where
  /-- It has no plan. -/
  | definition (error : Sql.Error)
  /-- A step of its plan failed. -/
  | step (label object : String) (source : GatewayError)
  deriving DecidableEq, Repr

/-- The wording of an error. -/
def CompileError.message : CompileError → String
  | .definition error => "invalid job definition: " ++ error.message
  | .step label object source =>
    "step `" ++ label ++ "` (" ++ object ++ ") failed: " ++ source.message

/-- What came of running a plan: its outcome, the statements submitted, the lines logged, and the
    executor's state afterwards. -/
structure Execution (σ : Type) where
  outcome : Except CompileError StartedJob
  submitted : List String := []
  logs : List Log.Line := []
  state : σ

/-! ## 3. Running -/

/-- What is logged when a step is done. -/
def Step.doneLine (s : Step) : Log.Line :=
  .info ("Step `" ++ s.label ++ "` done (" ++ s.object ++ ")")

/-- What is logged when a step fails after objects were created; nothing if there are none. -/
def stoppedLines (pipelineName : String) (failed : Step) (created : List String) :
    List Log.Line :=
  if created.isEmpty then []
  else
    [.warn ("Pipeline " ++ pipelineName ++ " stopped at `" ++ failed.label
      ++ "`; objects left on the cluster: " ++ Text.join ", " created)]

/-- Runs the steps that are left, after those that created the objects `created`. -/
def runSteps {σ : Type} (executor : Executor σ) (pipelineName : String) :
    List Step → List String → Option String → σ → Execution σ
  | [], _, jobId, state => { outcome := .ok ⟨pipelineName, jobId⟩, state }
  | step :: rest, created, jobId, state =>
    match executor.execute step.sql state with
    | (.error source, state') =>
      { outcome := .error (.step step.label step.object source)
        submitted := [step.sql]
        logs := stoppedLines pipelineName step created
        state := state' }
    | (.ok result, state') =>
      let created' := if step.createsObject then created ++ [step.object] else created
      let jobId' := if step.startsJob then result.jobId else jobId
      let after := runSteps executor pipelineName rest created' jobId' state'
      { after with
        submitted := step.sql :: after.submitted
        logs := step.doneLine :: after.logs }

/-- Runs a plan. -/
def Plan.execute {σ : Type} (plan : Plan) (executor : Executor σ) (state : σ) : Execution σ :=
  runSteps executor plan.pipelineName plan.steps [] none state

namespace Job

/-- The plan of a job of either kind. -/
def plan (job : Job) (ctx : PlanContext) : Except Sql.Error Plan :=
  match job with
  | .behavior job => job.plan ctx
  | .rule job => job.plan ctx

/-- Plans a job and runs its plan; a job without a plan submits nothing. -/
def compile {σ : Type} (job : Job) (ctx : PlanContext) (executor : Executor σ) (state : σ) :
    Execution σ :=
  match job.plan ctx with
  | .error error => { outcome := .error (.definition error), state }
  | .ok plan => plan.execute executor state

end Job

end JobKeeper
