/-
  File:      JobKeeper/Manager/Ticks.lean
  Subject:   The manager between and during its passes: ticks begin passes, and a pass in progress
             moves on by single steps, with other ticks in between.

  `reconcile` runs a pass from its tick to its end. `tick` and `advance` take the same pass apart:
  a tick may fire between any two steps, and while a pass is in progress it changes nothing.
-/
import JobKeeper.Manager.Pass

namespace JobKeeper

/-! ## 1. A pass in progress -/

/-- An attempt of which some steps are still to be submitted. -/
structure OpenAttempt where
  id : String
  kind : JobKind
  stamp : Instant
  pipelineName : String
  remaining : List Step
  created : List String := []
  clusterJobId : Option String := none
  submitted : List String := []

/-- What a pass in progress does next. -/
inductive Stage where
  /-- Fetch the jobs of a kind. -/
  | fetch (kind : JobKind)
  /-- Look at the next desired job, or end the pass if there is none. -/
  | visit
  /-- Submit the next statement of an attempt, or end the attempt if there is none. -/
  | submit (attempt : OpenAttempt)
  /-- Record what came of an attempt. -/
  | record (attempt : Attempt)

/-- A pass in progress. -/
structure PassInProgress where
  stage : Stage := .fetch .behavior
  /-- The desired jobs that were not looked at yet. -/
  waiting : List Job := []
  /-- The tracking ids of all desired jobs so far. -/
  desired : List String := []
  summary : PassSummary

/-- The manager: its registry, how many passes it has begun, and the pass in progress. -/
structure Manager where
  registry : Registry := {}
  passes : Nat := 0
  current : Option PassInProgress := none

namespace Manager

/-! ## 2. Ticks -/

/-- What is logged when a tick fires while a pass is in progress. -/
def skippedLine : Log.Line :=
  .warn "Previous reconciliation pass still running, skipping this tick"

/-- A tick: begins a pass, unless one is in progress. -/
def tick (m : Manager) : Manager × Log.Line :=
  match m.current with
  | some _ => (m, skippedLine)
  | none =>
    let pass := m.passes + 1
    ({ m with passes := pass, current := some { summary := { pass } } }, passStartedLine pass)

/-! ## 3. Steps -/

/-- What one step of a pass did. -/
structure Advance (σ : Type) where
  manager : Manager
  state : σ
  logs : List Log.Line := []
  /-- The statement that was submitted. -/
  submitted : Option String := none
  /-- The attempt that was recorded. -/
  attempt : Option Attempt := none
  /-- The numbers of the pass, if it is over. -/
  summary : Option PassSummary := none

/-- The statement that the next step submits, if it submits one. -/
def nextStatement? (m : Manager) : Option String :=
  match m.current with
  | some { stage := .submit attempt, .. } => attempt.remaining.head?.map (·.sql)
  | _ => none

/-- The manager with its pass in progress replaced. -/
def withPass (m : Manager) (p : PassInProgress) : Manager := { m with current := some p }

/-- Fetches the jobs of a kind. -/
def advanceFetch {σ : Type} (world : World σ) (m : Manager) (p : PassInProgress) (kind : JobKind)
    (state : σ) : Advance σ :=
  let (jobs, r) := fetchKind world kind
    { summary := p.summary, registry := m.registry, state }
  let stage := match kind with
    | .behavior => .fetch .rule
    | .rule => .visit
  { manager := { m with registry := r.registry }.withPass
      { p with
        stage
        waiting := p.waiting ++ jobs
        desired := p.desired ++ jobs.map Job.trackingId
        summary := r.summary }
    state := r.state
    logs := r.logs }

/-- Looks at a desired job. -/
def advanceVisit {σ : Type} (world : World σ) (settings : ManagerSettings) (m : Manager)
    (p : PassInProgress) (job : Job) (waiting : List Job) (state : σ) : Advance σ :=
  let id := job.trackingId
  if m.registry.isRunning id then
    { manager := { m with registry := m.registry.touch id p.summary.pass }.withPass
        { p with
          waiting
          summary := { p.summary with alreadyRunning := p.summary.alreadyRunning + 1 } }
      state }
  else
    let (previous, registry) := m.registry.clearFailed id
    let stamp := world.now state
    let stage := match job.plan ⟨settings.groupId, stamp.toDateTime⟩ with
      | .error error => Stage.record ⟨id, job.kind, stamp, .error (.definition error), []⟩
      | .ok plan =>
        Stage.submit
          { id, kind := job.kind, stamp, pipelineName := plan.pipelineName,
            remaining := plan.steps }
    { manager := { m with registry }.withPass { p with stage, waiting }
      state
      logs := (previous.map (retryLine id)).toList }

/-- Submits the next statement of an attempt, or ends the attempt. -/
def advanceSubmit {σ : Type} (world : World σ) (m : Manager) (p : PassInProgress)
    (a : OpenAttempt) (state : σ) : Advance σ :=
  match a.remaining with
  | [] =>
    { manager := m.withPass
        { p with
          stage := .record
            ⟨a.id, a.kind, a.stamp, .ok ⟨a.pipelineName, a.clusterJobId⟩, a.submitted⟩ }
      state }
  | step :: rest =>
    match world.execute step.sql state with
    | (.error source, state') =>
      { manager := m.withPass
          { p with
            stage := .record
              ⟨a.id, a.kind, a.stamp, .error (.step step.label step.object source),
               a.submitted ++ [step.sql]⟩ }
        state := state'
        logs := stoppedLines a.pipelineName step a.created
        submitted := some step.sql }
    | (.ok result, state') =>
      { manager := m.withPass
          { p with
            stage := .submit
              { a with
                remaining := rest
                created := if step.createsObject then a.created ++ [step.object] else a.created
                clusterJobId := if step.startsJob then result.jobId else a.clusterJobId
                submitted := a.submitted ++ [step.sql] } }
        state := state'
        logs := [step.doneLine]
        submitted := some step.sql }

/-- Records what came of an attempt. -/
def advanceRecord {σ : Type} (m : Manager) (p : PassInProgress) (a : Attempt) (state : σ) :
    Advance σ :=
  { manager :=
      { m with
        registry := m.registry.record a.id a.kind a.stamp p.summary.pass a.outcome }.withPass
      { p with stage := .visit, summary := p.summary.count a.outcome }
    state
    logs := [outcomeLine a.id a.outcome]
    attempt := some a }

/-- Ends the pass. -/
def advanceClose {σ : Type} (settings : ManagerSettings) (m : Manager) (p : PassInProgress)
    (state : σ) : Advance σ :=
  let r := closePass settings p.desired.eraseDups.length
    { summary := p.summary, registry := m.registry, state }
  { manager := { m with registry := r.registry, current := none }
    state := r.state
    logs := r.logs
    summary := some r.summary }

/-- One step of the pass in progress; without one there is nothing to do. -/
def advance {σ : Type} (world : World σ) (settings : ManagerSettings) (m : Manager) (state : σ) :
    Advance σ :=
  match m.current with
  | none => { manager := m, state }
  | some p =>
    match p.stage, p.waiting with
    | .fetch kind, _ => advanceFetch world m p kind state
    | .visit, [] => advanceClose settings m p state
    | .visit, job :: waiting => advanceVisit world settings m p job waiting state
    | .submit a, _ => advanceSubmit world m p a state
    | .record a, _ => advanceRecord m p a state

/-! ## 4. Whole passes -/

/-- A tick at a manager without a pass in progress, and the whole pass that it begins. -/
def reconcile {σ : Type} (world : World σ) (settings : ManagerSettings) (m : Manager) (state : σ) :
    Manager × PassReport σ :=
  let r := runPass world settings (m.passes + 1) m.registry state
  ({ m with registry := r.registry, passes := m.passes + 1 }, r)

/-- Passes one after the other, and the report of each. -/
def reconcileTimes {σ : Type} (world : World σ) (settings : ManagerSettings) :
    Nat → Manager → σ → Manager × σ × List (PassReport σ)
  | 0, m, state => (m, state, [])
  | n + 1, m, state =>
    let (m', r) := m.reconcile world settings state
    let (m'', state', rs) := reconcileTimes world settings n m' r.state
    (m'', state', r :: rs)

end Manager

end JobKeeper
