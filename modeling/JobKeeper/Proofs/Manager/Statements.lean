/-
  File:      JobKeeper/Proofs/Manager/Statements.lean
  Subject:   Which statements a pass submits, and in what order.

  A visit decides by the registry that the visits before it have left, and the answers of the
  cluster may depend on every earlier statement. So the statements of a pass are told visit by
  visit, each in the state that it finds:

  * `Contribution`: what a job contributes when its turn comes, by its standing, its plan, and the
    answers to its statements;
  * `Turns`: the visits of a list of jobs with what each contributes;
  * `runPass_recorded`: the cluster is given the statements that a pass reports, and no others;
  * `statements_unfailing`: a fetch that fails submits what an empty list would have submitted;
  * `statements_in_turn`: the statements of a pass are the contributions of its jobs.
-/
import JobKeeper.Proofs.Manager.Pass
import JobKeeper.Proofs.Plan.Run

namespace JobKeeper

/-! ## 1. What a job contributes -/

section Contributions

variable {σ : Type} (world : World σ) (settings : ManagerSettings)

/-- What the statements of an attempt depend on if it begins in a state of the world. -/
def contextAt (state : σ) : PlanContext := ⟨settings.groupId, (world.now state).toDateTime⟩

/-- **What a job contributes** to the statements of a pass when its turn comes. -/
inductive Contribution (before : PassReport σ) (job : Job) : List String → Prop where
  /-- It is running. -/
  | running (h : before.registry.isRunning job.trackingId = true) : Contribution before job []
  /-- Its planning fails. -/
  | unplanned {error : Sql.Error} (idle : before.registry.isRunning job.trackingId = false)
      (h : job.plan (contextAt world settings before.state) = .error error) :
      Contribution before job []
  /-- One of its statements is refused; it is the last one that is submitted. -/
  | stopped {p : Plan} {done : List Step} {failed : Step} {source : GatewayError} {after : σ}
      (idle : before.registry.isRunning job.trackingId = false)
      (planned : job.plan (contextAt world settings before.state) = .ok p)
      (h : p.Stops world.toExecutor before.state done failed source after) :
      Contribution before job (done.map (·.sql) ++ [failed.sql])
  /-- All of its statements are accepted. -/
  | finished {p : Plan} {results : List OperationResult} {after : σ}
      (idle : before.registry.isRunning job.trackingId = false)
      (planned : job.plan (contextAt world settings before.state) = .ok p)
      (h : world.toExecutor.Accepts p.statements before.state results after) :
      Contribution before job p.statements

/-- **The visits of a list of jobs**, from one report to another, with what each contributes. -/
inductive Turns : PassReport σ → List Job → List (List String) → PassReport σ → Prop where
  | nil (r : PassReport σ) : Turns r [] [] r
  | cons {r after : PassReport σ} {job : Job} {jobs : List Job} {part : List String}
      {parts : List (List String)} (first : Contribution world settings r job part)
      (later : Turns (visitJob world settings r job) jobs parts after) :
      Turns r (job :: jobs) (part :: parts) after

end Contributions

/-- A job that does not run is started, once its earlier failure is forgotten. -/
theorem visitJob_eq_startJob {σ : Type} (world : World σ) (settings : ManagerSettings)
    {r : PassReport σ} {job : Job} (idle : r.registry.isRunning job.trackingId = false) :
    visitJob world settings r job =
      let (previous, registry) := r.registry.clearFailed job.trackingId
      startJob world settings job { r with
        registry, logs := r.logs ++ (previous.map (retryLine job.trackingId)).toList } := by
  unfold visitJob
  exact if_neg (by simp [idle])

section Visits

variable {σ : Type} {world : World σ} {settings : ManagerSettings} {r : PassReport σ} {job : Job}

/-- A contribution is what the visit submits. -/
theorem Contribution.eq {part : List String} (h : Contribution world settings r job part) :
    part = if r.registry.isRunning job.trackingId then []
      else (attemptOn world settings job r.state).submitted := by
  have planned : ∀ {p}, job.plan (contextAt world settings r.state) = .ok p →
      (attemptOn world settings job r.state).submitted =
        (p.execute world.toExecutor r.state).submitted := by
    intro p hp
    show (job.compile (contextAt world settings r.state) _ _).submitted = _
    simp only [Job.compile, hp]
  cases h with
  | running h => rw [if_pos h]
  | unplanned idle h =>
    rw [if_neg (by simp [idle])]
    show _ = (job.compile (contextAt world settings r.state) _ _).submitted
    simp only [Job.compile, h]
  | stopped idle hp h => rw [if_neg (by simp [idle]), planned hp, execute_of_stops h]
  | finished idle hp h =>
    obtain ⟨clusterJobId, hrun⟩ := execute_of_all_accepted h
    rw [if_neg (by simp [idle]), planned hp, hrun]

variable (world settings r job)

/-- Whatever the cluster answers, a job contributes something. -/
theorem exists_contribution : ∃ part, Contribution world settings r job part := by
  cases hr : r.registry.isRunning job.trackingId with
  | true => exact ⟨_, .running hr⟩
  | false =>
    cases hp : job.plan (contextAt world settings r.state) with
    | error error => exact ⟨_, .unplanned hr hp⟩
    | ok p =>
      rcases world.toExecutor.accepts_or_refuses p.steps r.state with ⟨results, after, h⟩ |
        ⟨done, failed, rest, results, between, source, after, hsteps, haccepts, hrefused⟩
      · exact ⟨_, .finished hr hp h⟩
      · exact ⟨_, .stopped hr hp ⟨rest, results, between, hsteps, haccepts, hrefused⟩⟩

/-- A visit appends the statements that it submits. -/
theorem statements_visitJob :
    (visitJob world settings r job).statements =
      r.statements ++ if r.registry.isRunning job.trackingId then []
        else (attemptOn world settings job r.state).submitted := by
  rw [PassReport.statements, attempts_visitJob, List.flatMap_append]
  split <;> simp [PassReport.statements]

variable {world settings r}

/-- **The visits append what the jobs contribute**, one job after the other. -/
theorem Turns.statements_eq {after : PassReport σ} {jobs : List Job} {parts : List (List String)}
    (h : Turns world settings r jobs parts after) :
    after.statements = r.statements ++ parts.flatten := by
  induction h with
  | nil r => exact (List.append_nil _).symm
  | @cons r after job jobs part parts first later ih =>
    rw [ih, statements_visitJob, ← first.eq, List.flatten_cons, List.append_assoc]

variable (world settings r)

/-- **Every job has its turn**, whatever becomes of those before it. -/
theorem exists_turns (jobs : List Job) :
    ∃ parts, Turns world settings r jobs parts (jobs.foldl (visitJob world settings) r) := by
  induction jobs generalizing r with
  | nil => exact ⟨[], .nil r⟩
  | cons job jobs ih =>
    obtain ⟨part, first⟩ := exists_contribution world settings r job
    obtain ⟨parts, later⟩ := ih (visitJob world settings r job)
    exact ⟨part :: parts, .cons first later⟩

end Visits

/-! ## 2. What the cluster is given -/

/-- The same world, with a record of the statements that its cluster was given, in order. -/
def World.recorded {σ : Type} (world : World σ) : World (σ × List String) where
  toExecutor := world.toExecutor.recorded
  fetch kind state :=
    let (answer, next) := world.fetch kind state.1
    (answer, (next, state.2))
  now state := world.now state.1

/-- The report of a pass in a world with a record. -/
def PassReport.recorded {σ : Type} (r : PassReport σ) (given : List String) :
    PassReport (σ × List String) :=
  { r with state := (r.state, given ++ r.statements) }

section Recorded

variable {σ : Type} (world : World σ) (settings : ManagerSettings) (given : List String)

theorem fetchKind_recorded (kind : JobKind) (r : PassReport σ) :
    fetchKind world.recorded kind (r.recorded given) =
      ((fetchKind world kind r).1, (fetchKind world kind r).2.recorded given) := by
  unfold fetchKind
  cases hf : world.fetch kind r.state with
  | mk answer state =>
    have hrecorded : world.recorded.fetch kind (r.recorded given).state =
        (answer, (state, given ++ r.statements)) := by
      simp only [World.recorded, PassReport.recorded, hf]
    rw [hrecorded]
    cases answer <;> rfl

theorem startJob_recorded (r : PassReport σ) (job : Job) :
    startJob world.recorded settings job (r.recorded given) =
      (startJob world settings job r).recorded given := by
  have hstatements : (startJob world settings job r).statements = r.statements ++
      (job.compile (contextAt world settings r.state) world.toExecutor r.state).submitted := by
    unfold startJob PassReport.statements
    rw [List.flatMap_append]
    exact congrArg _ (List.append_nil _)
  have hstart : startJob world.recorded settings job (r.recorded given) =
      let stamp := world.now r.state
      let run := job.compile (contextAt world settings r.state) world.toExecutor.recorded
        (r.state, given ++ r.statements)
      { summary := r.summary.count run.outcome
        registry := r.registry.record job.trackingId job.kind stamp r.summary.pass run.outcome
        attempts := r.attempts ++ [⟨job.trackingId, job.kind, stamp, run.outcome, run.submitted⟩]
        logs := r.logs ++ run.logs ++ [outcomeLine job.trackingId run.outcome]
        state := run.state } := rfl
  rw [hstart, compile_recorded_after, PassReport.recorded, hstatements, ← List.append_assoc]
  rfl

theorem visitJob_recorded (r : PassReport σ) (job : Job) :
    visitJob world.recorded settings (r.recorded given) job =
      (visitJob world settings r job).recorded given := by
  cases hr : r.registry.isRunning job.trackingId with
  | true =>
    rw [visitJob_of_running world settings hr]
    exact visitJob_of_running world.recorded settings (r := r.recorded given) hr
  | false =>
    rw [visitJob_eq_startJob world settings hr, ← startJob_recorded]
    exact visitJob_eq_startJob world.recorded settings (r := r.recorded given) hr

theorem foldl_visitJob_recorded (jobs : List Job) (r : PassReport σ) :
    jobs.foldl (visitJob world.recorded settings) (r.recorded given) =
      (jobs.foldl (visitJob world settings) r).recorded given := by
  induction jobs generalizing r with
  | nil => rfl
  | cons job jobs ih =>
    rw [List.foldl_cons, List.foldl_cons, visitJob_recorded]
    exact ih _

/-- **The cluster is given the statements that a pass reports, and no others.** -/
theorem runPass_recorded (pass : Nat) (registry : Registry) (state : σ) :
    runPass world.recorded settings pass registry (state, given) =
      (runPass world settings pass registry state).recorded given := by
  have begun : (.begin pass registry (state, given) : PassReport (σ × List String)) =
      (PassReport.begin pass registry state).recorded given := by
    unfold PassReport.recorded PassReport.begin
    simp [PassReport.statements]
  unfold runPass
  rw [begun, fetchKind_recorded]
  dsimp only
  rw [fetchKind_recorded]
  dsimp only
  rw [foldl_visitJob_recorded]
  rfl

end Recorded

/-! ## 3. Fetches that fail -/

/-- The same world, except that its source lists nothing where it could not be fetched. -/
def World.unfailing {σ : Type} (world : World σ) : World σ :=
  { world with
    fetch := fun kind state =>
      let (answer, next) := world.fetch kind state
      (.ok (answer.toOption.getD []), next) }

theorem jobs_unfailing {σ : Type} (world : World σ) (state : σ) (kind : JobKind) :
    world.unfailing.answers state kind = .ok ((world.answers state).jobs kind) := by
  cases kind <;> rfl

/-- Two reports of passes that have submitted the same so far and will do the same from here on. -/
structure PassReport.Alike {σ : Type} (r r' : PassReport σ) : Prop where
  running : ∀ id, r.registry.isRunning id = r'.registry.isRunning id
  statements : r.statements = r'.statements
  state : r.state = r'.state

section Unfailing

variable {σ : Type} (world : World σ) (settings : ManagerSettings)

/-- After a visit the jobs that ran before still run, and the one visited if its attempt went well. -/
theorem isRunning_visitJob (r : PassReport σ) (job : Job) (id : String) :
    (visitJob world settings r job).registry.isRunning id =
      (r.registry.isRunning id || (decide (job.trackingId = id) &&
        (attemptOn world settings job r.state).outcome.isOk)) := by
  rw [Registry.isRunning_eq, Registry.isRunning_eq, standing_visitJob]
  by_cases hid : job.trackingId = id
  · rw [if_pos hid, decide_eq_true hid, Bool.true_and, Standing.visited]
    cases (r.registry.standing id).running with
    | some e => rfl
    | none => cases (attemptOn world settings job r.state).outcome <;> rfl
  · rw [if_neg hid, decide_eq_false hid, Bool.false_and, Bool.or_false]

theorem state_visitJob (r : PassReport σ) (job : Job) :
    (visitJob world settings r job).state =
      if r.registry.isRunning job.trackingId then r.state
      else (job.compile (contextAt world settings r.state) world.toExecutor r.state).state := by
  cases hr : r.registry.isRunning job.trackingId with
  | true => rw [visitJob_of_running world settings hr, if_pos rfl]
  | false =>
    rw [visitJob_eq_startJob world settings hr, if_neg (by simp)]
    rfl

section Alike

variable {world settings} {r r' : PassReport σ} (h : r.Alike r')

include h

theorem PassReport.Alike.visitJob (job : Job) :
    (visitJob world settings r job).Alike (JobKeeper.visitJob world settings r' job) where
  running id := by rw [isRunning_visitJob, isRunning_visitJob, h.running, h.state]
  statements := by rw [statements_visitJob, statements_visitJob, h.running, h.statements, h.state]
  state := by rw [state_visitJob, state_visitJob, h.running, h.state]

theorem PassReport.Alike.foldl_visitJob (jobs : List Job) :
    (jobs.foldl (JobKeeper.visitJob world settings) r).Alike
      (jobs.foldl (JobKeeper.visitJob world settings) r') := by
  induction jobs generalizing r r' with
  | nil => exact h
  | cons job jobs ih => exact ih (h.visitJob job)

end Alike

variable (pass : Nat) (registry : Registry) (state : σ)

/-- The fetches do not change which jobs run, whether they fail or not. -/
theorem isRunning_fetched (id : String) :
    (fetched world pass registry state).registry.isRunning id = registry.isRunning id := by
  have each : ∀ (r : Registry) (kind : JobKind) (failed : Bool),
      (r.refetched kind pass failed).isRunning id = r.isRunning id := by
    intro r kind failed
    cases failed with
    | false => rfl
    | true =>
      show (r.touchKind kind pass).isRunning id = _
      rw [Registry.isRunning_eq, Registry.standing_touchKind]
      exact Option.isSome_map
  rw [fetched_registry, each, each]

theorem state_fetched :
    (fetched world pass registry state).state =
      (world.fetch .rule (world.fetch .behavior state).2).2 := by
  rw [fetched, fetchKind_state, fetchKind_state]
  rfl

theorem alike_fetched :
    (fetched world.unfailing pass registry state).Alike (fetched world pass registry state) where
  running id := by rw [isRunning_fetched, isRunning_fetched]
  statements := by
    unfold PassReport.statements
    rw [fetched_attempts, fetched_attempts]
  state := by
    rw [state_fetched, state_fetched]
    rfl

/-- **A fetch that fails takes nothing but the jobs of its own kind.** The other statements are
    those of a pass to which the source listed none. -/
theorem statements_unfailing :
    (runPass world.unfailing settings pass registry state).statements =
      (runPass world settings pass registry state).statements := by
  have desired : (world.unfailing.answers state).desired = (world.answers state).desired := by
    simp only [Answers.desired, Answers.jobs, jobs_unfailing]
    rfl
  have visits : ((world.answers state).desired.foldl (visitJob world settings)
      (fetched world.unfailing pass registry state)).Alike
        (visited world settings pass registry state) :=
    (alike_fetched world pass registry state).foldl_visitJob _
  have same := visits.statements
  rw [← desired] at same
  unfold PassReport.statements at same ⊢
  rw [attempts_runPass, attempts_runPass]
  exact same

end Unfailing

/-! ## 4. The statements of a pass -/

/-- **The statements of a pass are those of its jobs, one job after the other.** Whatever runs at
    the start, whatever the source answers and whatever the cluster does, each behavior job that is
    listed has its turn, in the order listed, and then each rule job. A job that is running when its
    turn comes contributes nothing, and neither does one whose planning fails; any other one
    contributes its planned statements in order, up to and including the first that is refused.
    These contributions, one after the other, are the statements of the pass, and the cluster is
    given them in this order and no others. A kind that could not be fetched contributes nothing,
    and the pass submits what it would submit if the source listed none of that kind. -/
theorem statements_in_turn {σ : Type} (world : World σ) (settings : ManagerSettings) (pass : Nat)
    (registry : Registry) (state : σ) :
    let answers := world.answers state
    let begun := fetched world pass registry state
    let report := runPass world settings pass registry state
    (∀ id, begun.registry.isRunning id = registry.isRunning id) ∧
    (∃ behaviors rules between,
      Turns world settings begun (answers.jobs .behavior) behaviors between ∧
      Turns world settings between (answers.jobs .rule) rules
        (visited world settings pass registry state) ∧
      report.statements = behaviors.flatten ++ rules.flatten ∧
      (answers.failed .behavior = true → behaviors = []) ∧
      (answers.failed .rule = true → rules = [])) ∧
    (∀ given, runPass world.recorded settings pass registry (state, given) =
      { report with state := (report.state, given ++ report.statements) }) ∧
    (runPass world.unfailing settings pass registry state).statements = report.statements := by
  intro answers begun report
  have none : ∀ {kind}, answers.failed kind = true → answers.jobs kind = [] := by
    intro kind hf
    unfold Answers.failed at hf
    unfold Answers.jobs
    cases ha : answers kind with
    | ok jobs => rw [ha] at hf; cases hf
    | error error => rfl
  obtain ⟨behaviors, hb⟩ := exists_turns world settings begun (answers.jobs .behavior)
  obtain ⟨rules, hr⟩ := exists_turns world settings
    ((answers.jobs .behavior).foldl (visitJob world settings) begun) (answers.jobs .rule)
  have reached : visited world settings pass registry state =
      (answers.jobs .rule).foldl (visitJob world settings)
        ((answers.jobs .behavior).foldl (visitJob world settings) begun) :=
    List.foldl_append
  refine ⟨isRunning_fetched world pass registry state,
    ⟨behaviors, rules, _, hb, reached ▸ hr, ?_, fun hf => ?_, fun hf => ?_⟩,
    fun given => runPass_recorded world settings given pass registry state,
    statements_unfailing world settings pass registry state⟩
  · have started : begun.statements = [] := by
      unfold PassReport.statements
      rw [fetched_attempts]
      rfl
    show (runPass world settings pass registry state).attempts.flatMap _ = _
    rw [attempts_runPass]
    show (visited world settings pass registry state).statements = _
    rw [reached, hr.statements_eq, hb.statements_eq, started, List.nil_append]
  · rw [none hf] at hb
    cases hb
    rfl
  · rw [none hf] at hr
    cases hr
    rfl

/-- A rule without a plan contributes nothing, and one that is listed twice contributes its five
    statements once. -/
example :
    (runPass (sampleWorld (rulesOnly [blankRule, sampleRule, sampleRule])) {} 1 {} 0).attempts.map
      (·.submitted.length) = [0, 5] := by
  decide +kernel

end JobKeeper
