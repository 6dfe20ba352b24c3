/-
  File:      JobKeeper/Manager/Pass.lean
  Subject:   One reconciliation pass: fetch the desired jobs, start those that do not run yet, and
             see to those that are no longer desired.

  The world around a pass is anything that answers fetches and statements and tells the time, with
  a state of its own. A pass returns what it did as data: its summary, its attempts with the
  statements of each, and its log.
-/
import JobKeeper.Manager.Registry
import JobKeeper.Plan.Execution

namespace JobKeeper

/-! ## 1. The world around a pass -/

/-- What a pass talks to: the source of the desired jobs, the cluster, and the clock. -/
structure World (σ : Type) extends Executor σ where
  fetch : JobKind → σ → Except RemoteError (List Job) × σ
  now : σ → Instant

/-- How passes are run. -/
structure ManagerSettings where
  /-- The consumer group of every table. -/
  groupId : String := ""
  /-- For how many passes a failed job may be absent before it is dropped; zero is for ever. -/
  retentionPasses : Nat := 0
  deriving DecidableEq, Repr

/-! ## 2. What a pass returns -/

/-- The numbers of a pass. -/
structure PassSummary where
  pass : Nat
  started : Nat := 0
  failed : Nat := 0
  alreadyRunning : Nat := 0
  evicted : Nat := 0
  fetchErrors : Nat := 0
  deriving DecidableEq, Repr

/-- One attempt to start a job. -/
structure Attempt where
  id : String
  kind : JobKind
  /-- When the attempt began. -/
  stamp : Instant
  outcome : Except CompileError StartedJob
  /-- The statements submitted, in order. -/
  submitted : List String

/-- What has become of a pass so far. -/
structure PassReport (σ : Type) where
  summary : PassSummary
  registry : Registry
  attempts : List Attempt := []
  logs : List Log.Line := []
  state : σ

/-- The statements that the attempts submitted, in order. -/
def PassReport.statements {σ : Type} (r : PassReport σ) : List String :=
  r.attempts.flatMap (·.submitted)

/-! ## 3. Fetching -/

/-- What is logged when a pass begins. -/
def passStartedLine (pass : Nat) : Log.Line :=
  .info ("Reconciliation pass " ++ toString pass ++ " started")

/-- What is logged when the jobs of a kind cannot be fetched. -/
def fetchFailedLine (kind : JobKind) (error : RemoteError) : Log.Line :=
  .error ("Failed to fetch " ++ kind.name ++ " jobs: " ++ error.message)

/-- The jobs of a kind and what has become of the pass. If they cannot be fetched, nothing is known
    about that kind, so all its entries count as seen. -/
def fetchKind {σ : Type} (world : World σ) (kind : JobKind) (r : PassReport σ) :
    List Job × PassReport σ :=
  match world.fetch kind r.state with
  | (.ok jobs, state) => (jobs, { r with state })
  | (.error error, state) =>
    ([], { r with
      summary := { r.summary with fetchErrors := r.summary.fetchErrors + 1 }
      registry := r.registry.touchKind kind r.summary.pass
      logs := r.logs ++ [fetchFailedLine kind error]
      state })

/-! ## 4. Starting a job -/

/-- What is logged when a job that failed before is tried again. -/
def retryLine (id : String) (previous : JobEntry) : Log.Line :=
  .info ("Retrying job " ++ id ++ " (last attempt at " ++ previous.attemptedAt.toDateTime.text
    ++ " failed)")

/-- What is logged when an attempt is over. -/
def outcomeLine (id : String) : Except CompileError StartedJob → Log.Line
  | .ok job =>
    .info ("Job " ++ id ++ " is running as " ++ job.pipelineName ++ " (flink job "
      ++ job.clusterJobId.getD "unknown" ++ ")")
  | .error error => .error ("Job " ++ id ++ " failed to start: " ++ error.message)

/-- The registry after an attempt. -/
def Registry.record (r : Registry) (id : String) (kind : JobKind) (stamp : Instant) (pass : Nat) :
    Except CompileError StartedJob → Registry
  | .ok job => r.recordRunning (.running id kind job.clusterJobId stamp pass)
  | .error error => r.recordFailed (.failed id kind error.message stamp pass)

/-- The numbers after an attempt. -/
def PassSummary.count (s : PassSummary) : Except CompileError StartedJob → PassSummary
  | .ok _ => { s with started := s.started + 1 }
  | .error _ => { s with failed := s.failed + 1 }

/-- Starts a job. The attempt is stamped when its turn comes, before its first statement, and the
    stamp is both its time in the registry and the time its statements are written with. One reading
    of the clock stands for both, and local time is taken to be UTC. -/
def startJob {σ : Type} (world : World σ) (settings : ManagerSettings) (job : Job)
    (r : PassReport σ) : PassReport σ :=
  let stamp := world.now r.state
  let run := job.compile ⟨settings.groupId, stamp.toDateTime⟩ world.toExecutor r.state
  { summary := r.summary.count run.outcome
    registry := r.registry.record job.trackingId job.kind stamp r.summary.pass run.outcome
    attempts := r.attempts ++ [⟨job.trackingId, job.kind, stamp, run.outcome, run.submitted⟩]
    logs := r.logs ++ run.logs ++ [outcomeLine job.trackingId run.outcome]
    state := run.state }

/-- A running job is only marked as seen; any other one is started, after its earlier failure, if
    there was one, is forgotten. -/
def visitJob {σ : Type} (world : World σ) (settings : ManagerSettings) (r : PassReport σ)
    (job : Job) : PassReport σ :=
  let id := job.trackingId
  if r.registry.isRunning id then
    { r with
      registry := r.registry.touch id r.summary.pass
      summary := { r.summary with alreadyRunning := r.summary.alreadyRunning + 1 } }
  else
    let (previous, registry) := r.registry.clearFailed id
    startJob world settings job
      { r with registry, logs := r.logs ++ (previous.map (retryLine id)).toList }

/-! ## 5. The end of a pass -/

/-- How many different jobs a list holds. -/
def distinctCount (jobs : List Job) : Nat := (jobs.map Job.trackingId).eraseDups.length

/-- What is logged of a running job that is no longer desired. -/
def unlistedLine (id : String) : Log.Line :=
  .warn ("Job " ++ id ++ " is still running but no longer listed by the job source")

/-- What is logged of a failed job that is dropped. -/
def droppedLine (id : String) : Log.Line :=
  .info ("Dropped failed job " ++ id ++ " after it left the desired state")

/-- What is logged when a pass is done. -/
def passDoneLine (s : PassSummary) (desired : Nat) : Log.Line :=
  .info ("Reconciliation pass " ++ toString s.pass ++ " done: " ++ toString desired ++ " desired, "
    ++ toString s.started ++ " started, " ++ toString s.failed ++ " failed, "
    ++ toString s.alreadyRunning ++ " already running, " ++ toString s.evicted ++ " evicted, "
    ++ toString s.fetchErrors ++ " fetch error(s)")

/-- Ends a pass that wanted so many different jobs: names the running jobs that were not seen, and
    drops the failed ones that have been away for too long. -/
def closePass {σ : Type} (settings : ManagerSettings) (desired : Nat) (r : PassReport σ) :
    PassReport σ :=
  let unlisted := r.registry.unseenRunning r.summary.pass
  let (dropped, registry) := r.registry.evictFailed r.summary.pass settings.retentionPasses
  let summary := { r.summary with evicted := dropped.length }
  { r with
    summary
    registry
    logs := r.logs ++ unlisted.map unlistedLine ++ dropped.map droppedLine
      ++ [passDoneLine summary desired] }

/-! ## 6. The whole pass -/

/-- A pass that has just begun. -/
def PassReport.begin {σ : Type} (pass : Nat) (registry : Registry) (state : σ) : PassReport σ :=
  { summary := { pass }, registry, logs := [passStartedLine pass], state }

/-- One pass: the behavior jobs in the order listed, then the rule jobs in the order listed. -/
def runPass {σ : Type} (world : World σ) (settings : ManagerSettings) (pass : Nat)
    (registry : Registry) (state : σ) : PassReport σ :=
  let (behaviors, r₁) := fetchKind world .behavior (.begin pass registry state)
  let (rules, r₂) := fetchKind world .rule r₁
  let desired := behaviors ++ rules
  closePass settings (distinctCount desired) (desired.foldl (visitJob world settings) r₂)

end JobKeeper
