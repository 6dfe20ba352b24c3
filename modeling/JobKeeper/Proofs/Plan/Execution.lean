/-
  File:      JobKeeper/Proofs/Plan/Execution.lean
  Subject:   Running the statements of a plan, one at a time.

  * `runSteps_of_error`, `runSteps_of_ok`: what the first statement decides;
  * `mem_logs_compile`: the two kinds of lines that a run logs;
  * `outcome_compile_eq`: two clusters that answer by the text of a statement alone, and alike,
    bring the same outcome.
-/
import JobKeeper.Plan.Execution

namespace JobKeeper

/-! ## 1. One statement -/

section Step

variable {σ : Type} {executor : Executor σ} {step : Step} {state state' : σ}

/-- A statement that fails ends the run. -/
theorem runSteps_of_error {source : GatewayError}
    (h : executor.execute step.sql state = (.error source, state')) (pipelineName : String)
    (rest : List Step) (created : List String) (jobId : Option String) :
    runSteps executor pipelineName (step :: rest) created jobId state =
      { outcome := .error (.step step.label step.object source)
        submitted := [step.sql]
        logs := stoppedLines pipelineName step created
        state := state' } := by
  simp only [runSteps, h]

/-- A statement that succeeds is followed by the others. -/
theorem runSteps_of_ok {result : OperationResult}
    (h : executor.execute step.sql state = (.ok result, state')) (pipelineName : String)
    (rest : List Step) (created : List String) (jobId : Option String) :
    runSteps executor pipelineName (step :: rest) created jobId state =
      let after := runSteps executor pipelineName rest
        (if step.createsObject then created ++ [step.object] else created)
        (if step.startsJob then result.jobId else jobId) state'
      { after with
        submitted := step.sql :: after.submitted
        logs := step.doneLine :: after.logs } := by
  simp only [runSteps, h]

end Step

/-! ## 2. What is logged -/

/-- A line that a run logs says that a step is done or that the run stopped at one. -/
theorem mem_logs_runSteps {σ : Type} {executor : Executor σ} {pipelineName : String}
    {steps : List Step} {created : List String} {jobId : Option String} {state : σ} {l : Log.Line}
    (h : l ∈ (runSteps executor pipelineName steps created jobId state).logs) :
    (∃ step : Step, l = step.doneLine) ∨
      ∃ (step : Step) (created : List String), l ∈ stoppedLines pipelineName step created := by
  induction steps generalizing created jobId state with
  | nil => exact absurd h List.not_mem_nil
  | cons step rest ih =>
    cases hx : executor.execute step.sql state with
    | mk answer state' =>
      cases answer with
      | error source =>
        rw [runSteps_of_error hx] at h
        exact Or.inr ⟨step, created, h⟩
      | ok result =>
        rw [runSteps_of_ok hx] at h
        rcases List.mem_cons.mp h with rfl | h
        · exact Or.inl ⟨step, rfl⟩
        · exact ih h

theorem mem_logs_compile {σ : Type} {executor : Executor σ} {job : Job} {ctx : PlanContext}
    {state : σ} {l : Log.Line} (h : l ∈ (job.compile ctx executor state).logs) :
    (∃ step : Step, l = step.doneLine) ∨
      ∃ pipelineName step created, l ∈ stoppedLines pipelineName step created := by
  unfold Job.compile at h
  cases hp : job.plan ctx with
  | error error =>
    rw [hp] at h
    exact absurd h List.not_mem_nil
  | ok plan =>
    rw [hp] at h
    rcases mem_logs_runSteps h with done | ⟨step, created, stopped⟩
    · exact Or.inl done
    · exact Or.inr ⟨plan.pipelineName, step, created, stopped⟩

/-! ## 3. Clusters that answer by the text alone -/

/-- The cluster answers a statement by its text, whatever went before. -/
def Executor.AnswersBy {σ : Type} (executor : Executor σ)
    (answer : String → Except GatewayError OperationResult) : Prop :=
  ∀ sql state, (executor.execute sql state).1 = answer sql

section Fixed

variable {σ τ : Type} {executor : Executor σ} {executor' : Executor τ}
  {answer : String → Except GatewayError OperationResult}

/-- The run of a plan comes to the same on two clusters that answer alike. -/
theorem outcome_runSteps_eq (h : executor.AnswersBy answer) (h' : executor'.AnswersBy answer)
    (pipelineName : String) (steps : List Step) (created : List String) (jobId : Option String)
    (state : σ) (state' : τ) :
    (runSteps executor pipelineName steps created jobId state).outcome =
      (runSteps executor' pipelineName steps created jobId state').outcome := by
  induction steps generalizing created jobId state state' with
  | nil => rfl
  | cons step rest ih =>
    have hx := (h step.sql state).trans (h' step.sql state').symm
    cases he : executor.execute step.sql state with
    | mk result next =>
      cases he' : executor'.execute step.sql state' with
      | mk result' next' =>
        rw [he, he'] at hx
        obtain rfl : result' = result := hx.symm
        cases result' with
        | error source => rw [runSteps_of_error he, runSteps_of_error he']
        | ok result =>
          rw [runSteps_of_ok he, runSteps_of_ok he']
          exact ih _ _ next next'

/-- **An attempt comes to the same on two clusters that answer alike.** -/
theorem outcome_compile_eq (h : executor.AnswersBy answer) (h' : executor'.AnswersBy answer)
    (job : Job) (ctx : PlanContext) (state : σ) (state' : τ) :
    (job.compile ctx executor state).outcome = (job.compile ctx executor' state').outcome := by
  unfold Job.compile
  cases job.plan ctx with
  | error error => rfl
  | ok plan => exact outcome_runSteps_eq h h' _ _ _ _ state state'

end Fixed

end JobKeeper
