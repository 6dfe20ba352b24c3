/-
  File:      JobKeeper/Proofs/Plan/Run.lean
  Subject:   How the run of a plan goes, told by what the cluster answers to its statements.

  A cluster may answer as it likes and remember all that went before, so a run is described by the
  answers themselves: it accepts the statements up to one that it refuses, or all of them.

  * `Executor.Accepts`, `Plan.Stops`: statements that are accepted one after the other, and a run
    that ends at a step because its statement is refused;
  * `runSteps_of_accepts`: what the accepted steps have brought about, whatever comes after them;
  * `compile_recorded`: the cluster is given the statements that a run reports, and no others;
  * `Plan.execute_submitted`: what a run submits, and what comes of it;
  * `compile_follows_plan`: the whole run of a job of either kind.
-/
import JobKeeper.Proofs.Plan.Execution
import JobKeeper.Proofs.Plan.Faults

namespace JobKeeper

/-! ## 1. Accepted statements -/

/-- The cluster accepts these statements, one after the other, with these results. -/
inductive Executor.Accepts {σ : Type} (executor : Executor σ) :
    List String → σ → List OperationResult → σ → Prop where
  | nil (state : σ) : executor.Accepts [] state [] state
  | cons {sql : String} {statements : List String} {state next after : σ}
      {result : OperationResult} {results : List OperationResult}
      (first : executor.execute sql state = (.ok result, next))
      (later : executor.Accepts statements next results after) :
      executor.Accepts (sql :: statements) state (result :: results) after

/-- **The run of a plan stops at a step**: the steps before it are done, and its statement is
    refused. -/
def Plan.Stops {σ : Type} (p : Plan) (executor : Executor σ) (state : σ) (done : List Step)
    (failed : Step) (source : GatewayError) (after : σ) : Prop :=
  ∃ (rest : List Step) (results : List OperationResult) (before : σ),
    p.steps = done ++ failed :: rest ∧
    executor.Accepts (done.map (·.sql)) state results before ∧
    executor.execute failed.sql before = (.error source, after)

namespace Executor

section Facts

variable {σ : Type} {executor : Executor σ} {state after : σ}

theorem Accepts.length_eq {statements : List String} {results : List OperationResult}
    (h : executor.Accepts statements state results after) :
    results.length = statements.length := by
  induction h with
  | nil => rfl
  | cons _ _ ih => rw [List.length_cons, List.length_cons, ih]

/-- Statements are accepted exactly if the first of them are, and then the others. -/
theorem accepts_append_iff {earlier later : List String} {results : List OperationResult} :
    executor.Accepts (earlier ++ later) state results after ↔
      ∃ first second between, results = first ++ second ∧
        executor.Accepts earlier state first between ∧
        executor.Accepts later between second after := by
  induction earlier generalizing state results with
  | nil =>
    constructor
    · exact fun h => ⟨[], results, state, rfl, .nil state, h⟩
    · rintro ⟨first, second, between, rfl, h, h'⟩
      cases h
      exact h'
  | cons sql earlier ih =>
    constructor
    · intro h
      cases h with
      | cons head tail =>
        obtain ⟨first, second, between, rfl, h, h'⟩ := ih.mp tail
        exact ⟨_ :: first, second, between, rfl, .cons head h, h'⟩
    · rintro ⟨first, second, between, rfl, h, h'⟩
      cases h with
      | cons head tail => exact .cons head (ih.mpr ⟨_, second, between, rfl, tail, h'⟩)

/-- Either each of the statements is accepted, or one is the first to be refused. -/
theorem accepts_or_refuses (executor : Executor σ) (steps : List Step) (state : σ) :
    (∃ results after, executor.Accepts (steps.map (·.sql)) state results after) ∨
      ∃ done failed rest results before source after, steps = done ++ failed :: rest ∧
        executor.Accepts (done.map (·.sql)) state results before ∧
        executor.execute failed.sql before = (.error source, after) := by
  induction steps generalizing state with
  | nil => exact Or.inl ⟨[], state, .nil state⟩
  | cons step steps ih =>
    cases hx : executor.execute step.sql state with
    | mk answer next =>
      cases answer with
      | error source => exact Or.inr ⟨[], step, steps, [], state, source, next, rfl, .nil state, hx⟩
      | ok result =>
        rcases ih next with ⟨results, after, h⟩ | ⟨done, failed, rest, results, before, source,
          after, rfl, h, hf⟩
        · exact Or.inl ⟨result :: results, after, .cons hx h⟩
        · exact Or.inr ⟨step :: done, failed, rest, result :: results, before, source, after, rfl,
            .cons hx h, hf⟩

end Facts

/-! ## 2. What a cluster is given -/

/-- The same cluster, with a record of the statements that it was given, in order. -/
def recorded {σ : Type} (executor : Executor σ) : Executor (σ × List String) where
  execute sql state :=
    let (answer, next) := executor.execute sql state.1
    (answer, (next, state.2 ++ [sql]))

end Executor

/-- The record of a run has the statements that the run reports, and nothing else differs. -/
theorem runSteps_recorded {σ : Type} (executor : Executor σ) (pipelineName : String)
    (steps : List Step) (created : List String) (jobId : Option String) (state : σ)
    (given : List String) :
    let run := runSteps executor pipelineName steps created jobId state
    runSteps executor.recorded pipelineName steps created jobId (state, given) =
      { run with state := (run.state, given ++ run.submitted) } := by
  induction steps generalizing created jobId state given with
  | nil => simp [runSteps]
  | cons step rest ih =>
    cases hx : executor.execute step.sql state with
    | mk answer next =>
      have hrecorded : executor.recorded.execute step.sql (state, given) =
          (answer, (next, given ++ [step.sql])) := by
        simp only [Executor.recorded, hx]
      cases answer with
      | error source => rw [runSteps_of_error hx, runSteps_of_error hrecorded]
      | ok result =>
        rw [runSteps_of_ok hx, runSteps_of_ok hrecorded, ih]
        simp only [List.append_assoc, List.singleton_append]

/-- The statements of a run are given to the cluster after those that it was given before. -/
theorem compile_recorded_after {σ : Type} (job : Job) (ctx : PlanContext) (executor : Executor σ)
    (state : σ) (given : List String) :
    let run := job.compile ctx executor state
    job.compile ctx executor.recorded (state, given) =
      { run with state := (run.state, given ++ run.submitted) } := by
  unfold Job.compile
  cases job.plan ctx with
  | error error => simp
  | ok p => exact runSteps_recorded executor p.pipelineName p.steps [] none state given

/-- **The cluster is given the statements that a run reports, and no others.** -/
theorem compile_recorded {σ : Type} (job : Job) (ctx : PlanContext) (executor : Executor σ)
    (state : σ) :
    let run := job.compile ctx executor state
    job.compile ctx executor.recorded (state, []) =
      { run with state := (run.state, run.submitted) } :=
  compile_recorded_after job ctx executor state []

/-! ## 3. The steps that are done -/

/-- The objects that steps have created, in order. -/
def createdBy (steps : List Step) : List String := (steps.filter Step.createsObject).map (·.object)

theorem createdBy_cons (step : Step) (steps : List Step) :
    createdBy (step :: steps) =
      (if step.createsObject then [step.object] else []) ++ createdBy steps := by
  cases h : step.createsObject <;> simp [createdBy, h]

/-- **What accepted steps have brought about**: their statements are submitted, a line is logged
    for each, and the objects that they created are known to whatever comes after them. -/
theorem runSteps_of_accepts {σ : Type} {executor : Executor σ} {done : List Step}
    {state before : σ} {results : List OperationResult}
    (h : executor.Accepts (done.map (·.sql)) state results before) (pipelineName : String)
    (rest : List Step) (created : List String) (jobId : Option String) :
    ∃ jobId', runSteps executor pipelineName (done ++ rest) created jobId state =
      let after := runSteps executor pipelineName rest (created ++ createdBy done) jobId' before
      { after with
        submitted := done.map (·.sql) ++ after.submitted
        logs := done.map Step.doneLine ++ after.logs } := by
  induction done generalizing state results created jobId with
  | nil =>
    cases h
    exact ⟨jobId, by simp [createdBy]⟩
  | cons step done ih =>
    cases h with
    | cons first later =>
      obtain ⟨jobId', hrest⟩ := ih later
        (if step.createsObject then created ++ [step.object] else created) _
      refine ⟨jobId', ?_⟩
      have hcreated : (if step.createsObject then created ++ [step.object] else created) ++
          createdBy done = created ++ createdBy (step :: done) := by
        rw [createdBy_cons]
        cases step.createsObject <;> simp
      rw [List.cons_append, runSteps_of_ok first, hrest, hcreated]
      simp only [List.map_cons, List.cons_append]

/-- A warning is logged exactly if one of the steps done has created its object. -/
theorem stoppedLines_createdBy (pipelineName : String) (failed : Step) (done : List Step) :
    stoppedLines pipelineName failed (createdBy done) =
      if ∃ s ∈ done, s.createsObject = true then
        [.warn ("Pipeline " ++ pipelineName ++ " stopped at `" ++ failed.label
          ++ "`; objects left on the cluster: "
          ++ Text.join ", " ((done.filter Step.createsObject).map (·.object)))]
      else [] := by
  have hempty : (createdBy done).isEmpty = true ↔ ¬ ∃ s ∈ done, s.createsObject = true := by
    simp [createdBy, List.filter_eq_nil_iff]
  unfold stoppedLines
  by_cases h : ∃ s ∈ done, s.createsObject = true
  · rw [if_neg (fun he => hempty.mp he h), if_pos h]
    rfl
  · rw [if_pos (hempty.mpr h), if_neg h]

/-! ## 4. Whole runs -/

section Runs

variable {σ : Type} {executor : Executor σ} {p : Plan} {state after : σ}

/-- A run that stops ends with the error of the step that it stops at. -/
theorem execute_of_stops {done : List Step} {failed : Step} {source : GatewayError}
    (h : p.Stops executor state done failed source after) :
    p.execute executor state =
      { outcome := .error (.step failed.label failed.object source)
        submitted := done.map (·.sql) ++ [failed.sql]
        logs := done.map Step.doneLine ++ stoppedLines p.pipelineName failed (createdBy done)
        state := after } := by
  obtain ⟨rest, results, before, hsteps, haccepts, hrefused⟩ := h
  obtain ⟨jobId, hrun⟩ := runSteps_of_accepts haccepts p.pipelineName (failed :: rest) [] none
  rw [Plan.execute, hsteps, hrun, runSteps_of_error hrefused, List.nil_append]

/-- A run whose statements are all accepted ends with the job id that the last one reports, if the
    last one is the step that starts the job. -/
theorem execute_of_accepts {setup : List Step} {start : Step} {earlier : List OperationResult}
    {final : OperationResult} (hsteps : p.steps = setup ++ [start])
    (hstart : start.startsJob = true) {between : σ}
    (hsetup : executor.Accepts (setup.map (·.sql)) state earlier between)
    (hlast : executor.execute start.sql between = (.ok final, after)) :
    p.execute executor state =
      { outcome := .ok ⟨p.pipelineName, final.jobId⟩
        submitted := p.statements
        logs := p.steps.map Step.doneLine
        state := after } := by
  obtain ⟨jobId, hrun⟩ := runSteps_of_accepts hsetup p.pipelineName [start] [] none
  rw [Plan.execute, Plan.statements, hsteps, hrun, runSteps_of_ok hlast, if_pos hstart]
  simp [runSteps]

/-- A plan whose statements are all accepted submits them all, and its job is started. -/
theorem execute_of_all_accepted {results : List OperationResult}
    (h : executor.Accepts p.statements state results after) :
    ∃ clusterJobId, p.execute executor state =
      { outcome := .ok ⟨p.pipelineName, clusterJobId⟩
        submitted := p.statements
        logs := p.steps.map Step.doneLine
        state := after } := by
  obtain ⟨clusterJobId, hrun⟩ := runSteps_of_accepts h p.pipelineName [] [] none
  rw [List.append_nil] at hrun
  refine ⟨clusterJobId, ?_⟩
  rw [Plan.execute, hrun]
  simp only [runSteps, List.append_nil, Plan.statements]

end Runs

/-- **A run submits the statements of its plan in order**, all of them if it succeeds, and then the
    job has the name of the plan. Its error is never that of a definition. -/
theorem Plan.execute_submitted {σ : Type} (p : Plan) (executor : Executor σ) (state : σ) :
    (p.execute executor state).submitted <+: p.statements ∧
      (∀ started, (p.execute executor state).outcome = .ok started →
        (p.execute executor state).submitted = p.statements ∧
          started.pipelineName = p.pipelineName) ∧
      ∀ error, (p.execute executor state).outcome ≠ .error (.definition error) := by
  rcases executor.accepts_or_refuses p.steps state with ⟨results, after, h⟩ |
    ⟨done, failed, rest, results, between, source, after, hsteps, haccepts, hrefused⟩
  · obtain ⟨clusterJobId, hrun⟩ := execute_of_all_accepted h
    rw [hrun]
    refine ⟨List.prefix_refl _, fun started hs => ?_, fun error he => (nomatch he)⟩
    cases hs
    exact ⟨rfl, rfl⟩
  · rw [execute_of_stops ⟨rest, results, between, hsteps, haccepts, hrefused⟩]
    refine ⟨⟨rest.map (·.sql), ?_⟩, fun started hs => (nomatch hs),
      fun error he => (nomatch he)⟩
    rw [Plan.statements, hsteps]
    simp

/-- **The run of a job follows its plan**, on any cluster. A job without a plan submits and logs
    nothing and has the error of its definition. Otherwise let the cluster accept the statements of
    some steps and refuse that of the next: then these statements were submitted, in order and once
    each, the error names the label and the object of the refused step and has the cluster's error
    as its source, each step done has its line, and one warning follows if any of them created an
    object, with these objects in order. If the cluster accepts every statement, all of them were
    submitted, nothing but the lines of the steps is logged, and the outcome has the pipeline's name
    and the job id in the answer to the last statement, the one that starts the job. One of the two
    is always the case. What a run reports as submitted is what the cluster was given. -/
theorem compile_follows_plan {σ : Type} (job : Job) (ctx : PlanContext) (executor : Executor σ)
    (state : σ) :
    let run := job.compile ctx executor state
    (∀ error, job.plan ctx = .error error →
      run = { outcome := .error (.definition error), submitted := [], logs := [], state }) ∧
    (∀ p, job.plan ctx = .ok p →
      (∀ done failed source after, p.Stops executor state done failed source after →
        run =
          { outcome := .error (.step failed.label failed.object source)
            submitted := done.map (·.sql) ++ [failed.sql]
            logs := done.map Step.doneLine ++
              if ∃ s ∈ done, s.createsObject = true then
                [.warn ("Pipeline " ++ p.pipelineName ++ " stopped at `" ++ failed.label
                  ++ "`; objects left on the cluster: "
                  ++ Text.join ", " ((done.filter Step.createsObject).map (·.object)))]
              else []
            state := after }) ∧
      (∀ results after, executor.Accepts p.statements state results after →
        ∃ setup start earlier final, p.steps = setup ++ [start] ∧ start.startsJob = true ∧
          (∀ s ∈ setup, s.startsJob = false) ∧
          results = earlier ++ [final] ∧ earlier.length = setup.length ∧
          run =
            { outcome := .ok ⟨p.pipelineName, final.jobId⟩
              submitted := p.statements
              logs := p.steps.map Step.doneLine
              state := after }) ∧
      ((∃ done failed source after, p.Stops executor state done failed source after) ∨
        ∃ results after, executor.Accepts p.statements state results after)) ∧
    job.compile ctx executor.recorded (state, []) =
      { run with state := (run.state, run.submitted) } := by
  intro run
  refine ⟨fun error he => ?_, fun p hp => ⟨fun done failed source after h => ?_,
    fun results after h => ?_, ?_⟩, compile_recorded job ctx executor state⟩
  · show job.compile ctx executor state = _
    simp only [Job.compile, he]
  · show job.compile ctx executor state = _
    simp only [Job.compile, hp]
    rw [execute_of_stops h, stoppedLines_createdBy]
  · obtain ⟨setup, start, hsteps, hstart, hsetup⟩ := Job.starts_last hp
    rw [Plan.statements, hsteps, List.map_append, Executor.accepts_append_iff] at h
    obtain ⟨earlier, last, between, rfl, haccepts, hlast⟩ := h
    cases hlast with
    | cons hfinal hnone =>
      cases hnone
      refine ⟨setup, start, earlier, _, hsteps, hstart, hsetup, rfl, ?_, ?_⟩
      · rw [haccepts.length_eq, List.length_map]
      · show job.compile ctx executor state = _
        simp only [Job.compile, hp]
        exact execute_of_accepts hsteps hstart haccepts hfinal
  · rcases executor.accepts_or_refuses p.steps state with accepted | ⟨done, failed, rest, results,
      before, source, after, hsteps, haccepts, hrefused⟩
    · exact Or.inr accepted
    · exact Or.inl ⟨done, failed, source, after, rest, results, before, hsteps, haccepts, hrefused⟩

/-- A cluster that refuses the third statement it is given. -/
def refusesThird : Executor Nat where
  execute _ n :=
    (if n = 2 then .error (.pollTimeout 5 "s" "op-3") else .ok ⟨"EOS", .null, none⟩, n + 1)

/-- The sink of a rule is refused when its source and its view are on the cluster. -/
theorem compile_follows_plan_sink_refused :
    let run := (Job.rule .rareLogin).compile .sample refusesThird 0
    run.outcome = .error (.step "create rule sink" "rule_sink_r1" (.pollTimeout 5 "s" "op-3")) ∧
      run.submitted.length = 3 ∧
      run.logs.map (·.text) =
        ["INFO Step `create predictor source` done (profiling_predictor_r1)",
         "INFO Step `create rule view` done (rule_r1)",
         "WARN Pipeline rule_r1 stopped at `create rule sink`; objects left on the cluster: "
          ++ "profiling_predictor_r1, rule_r1"] := by
  intro run
  obtain ⟨p, hp⟩ := RuleJob.rareLogin_planned
  obtain ⟨_, _, hfollows⟩ := (RuleJob.rareLogin.plan_eq_ok_iff .sample p).mp hp
  have hparts := hfollows.map_steps fun entry => (entry.1, entry.2.1, entry.2.2.creates.isSome)
  obtain ⟨s₁, rest₁, hsteps, h₁, hrest₁⟩ := List.map_eq_cons_iff.mp hparts
  obtain ⟨s₂, rest₂, rfl, h₂, hrest₂⟩ := List.map_eq_cons_iff.mp hrest₁
  obtain ⟨s₃, rest₃, rfl, h₃, _⟩ := List.map_eq_cons_iff.mp hrest₂
  simp only [Prod.mk.injEq] at h₁ h₂ h₃
  have hstops : p.Stops refusesThird 0 [s₁, s₂] s₃ (.pollTimeout 5 "s" "op-3") 3 :=
    ⟨rest₃, _, 2, hsteps, .cons rfl (.cons rfl (.nil 2)), rfl⟩
  have hrun := ((compile_follows_plan (.rule .rareLogin) .sample refusesThird 0).2.1 p hp).1
    [s₁, s₂] s₃ _ 3 hstops
  have hcreates₁ : s₁.createsObject = true := h₁.2.2
  have hcreates₂ : s₂.createsObject = true := h₂.2.2
  rw [show run = _ from hrun]
  refine ⟨by rw [h₃.1, h₃.2.1]; rfl, rfl, ?_⟩
  simp [hcreates₁, hcreates₂, Step.doneLine, h₁, h₂, h₃.1, hfollows.pipeline]
  decide +kernel

end JobKeeper
