/-
  File:      JobKeeper/Proofs/Manager/Uninterrupted.lean
  Subject:   A pass that no tick comes into, step by step, is the whole pass.

  `reconcile` runs a pass in one piece; `tick` and `advance` take it apart. Here the two are tied
  together: the moves of a tick and of the steps of one world, one after the other, lead to the
  manager that `reconcile` gives, by way of the same attempts (`leads_reconcile`). So what is shown
  of all lists of moves holds of passes run one after the other.
-/
import JobKeeper.Proofs.Manager.Moves
import JobKeeper.Proofs.Manager.Pass
import JobKeeper.Proofs.Plan.Execution

namespace JobKeeper.Manager

variable {σ : Type} (world : World σ) (settings : ManagerSettings)

/-! ## 1. Where moves lead -/

theorem moves_append (m : Manager) (vs ws : List (Move σ)) :
    m.moves settings (vs ++ ws) =
      (((m.moves settings vs).1.moves settings ws).1,
       (m.moves settings vs).2 ++ ((m.moves settings vs).1.moves settings ws).2) := by
  induction vs generalizing m with
  | nil => rfl
  | cons v vs ih =>
    rw [List.cons_append, moves, ih, moves]
    simp only [List.append_assoc]

/-- Some moves lead from one manager to another, by way of these attempts. -/
def Leads (σ : Type) (settings : ManagerSettings) (m : Manager) (attempts : List Attempt)
    (m' : Manager) : Prop :=
  ∃ vs : List (Move σ), m.moves settings vs = (m', attempts)

theorem Leads.refl (m : Manager) : Leads σ settings m [] m := ⟨[], rfl⟩

theorem Leads.step (m : Manager) (state : σ) :
    Leads σ settings m (m.advance world settings state).attempt.toList
      (m.advance world settings state).manager :=
  ⟨[.step world state], by simp [moves, move]⟩

theorem Leads.trans {settings : ManagerSettings} {m₁ m₂ m₃ : Manager} {as bs : List Attempt}
    (h : Leads σ settings m₁ as m₂) (h' : Leads σ settings m₂ bs m₃) :
    Leads σ settings m₁ (as ++ bs) m₃ := by
  obtain ⟨vs, hv⟩ := h
  obtain ⟨ws, hw⟩ := h'
  exact ⟨vs ++ ws, by rw [moves_append, hv, hw]⟩

/-! ## 2. One attempt -/

/-- The steps of an attempt lead to the outcome of running its statements. -/
theorem leads_submit (registry : Registry) (passes : Nat) (p : PassInProgress) (a : OpenAttempt)
    (state : σ) :
    let run := runSteps world.toExecutor a.pipelineName a.remaining a.created a.clusterJobId state
    Leads σ settings ⟨registry, passes, some { p with stage := .submit a }⟩ []
      ⟨registry, passes, some
        { p with
          stage := .record
            ⟨a.id, a.kind, a.stamp, run.outcome, a.submitted ++ run.submitted⟩ }⟩ := by
  obtain ⟨id, kind, stamp, pipelineName, remaining, created, clusterJobId, submitted⟩ := a
  induction remaining generalizing created clusterJobId submitted state with
  | nil =>
    refine ⟨[.step world state], ?_⟩
    simp [moves, move, advance, advanceSubmit, withPass, runSteps]
  | cons step rest ih =>
    have first := Leads.step world settings
      ⟨registry, passes, some { p with
        stage := .submit
          ⟨id, kind, stamp, pipelineName, step :: rest, created, clusterJobId, submitted⟩ }⟩ state
    cases hx : world.execute step.sql state with
    | mk answer state' =>
      cases answer with
      | error source =>
        simp only [advance, advanceSubmit, withPass, hx] at first
        rw [runSteps_of_error hx]
        exact first
      | ok result =>
        have more := ih state' (if step.createsObject then created ++ [step.object] else created)
          (if step.startsJob then result.jobId else clusterJobId) (submitted ++ [step.sql])
        simp only [advance, advanceSubmit, withPass, hx] at first
        rw [runSteps_of_ok hx]
        simp only [List.append_assoc, List.singleton_append] at more
        exact first.trans more

/-! ## 3. One visit -/

/-- The manager while the jobs `waiting` are still to be visited in pass `r`. -/
def visiting (passes : Nat) (desired : List String) (waiting : List Job) (r : PassReport σ) :
    Manager :=
  { registry := r.registry
    passes
    current := some { stage := .visit, waiting, desired, summary := r.summary } }

theorem leads_visit (passes : Nat) (desired : List String) (job : Job) (waiting : List Job)
    (r : PassReport σ) :
    ∃ attempts, (visitJob world settings r job).attempts = r.attempts ++ attempts ∧
      Leads σ settings (visiting passes desired (job :: waiting) r) attempts
        (visiting passes desired waiting (visitJob world settings r job)) := by
  have first := Leads.step world settings (visiting passes desired (job :: waiting) r) r.state
  cases hr : r.registry.isRunning job.trackingId with
  | true =>
    refine ⟨[], ?_, ?_⟩
    · rw [visitJob_of_running world settings hr, List.append_nil]
    · simp only [visiting, advance, advanceVisit, withPass, hr, if_true] at first
      rw [visitJob_of_running world settings hr]
      exact first
  | false =>
    obtain ⟨hreg, hsum, hatt⟩ := visitJob_of_idle world settings hr
    refine ⟨_, hatt, ?_⟩
    have looked : Leads σ settings (visiting passes desired (job :: waiting) r) []
        ⟨(r.registry.clearFailed job.trackingId).2, passes, some
          { stage := .record (attemptOn world settings job r.state), waiting, desired,
            summary := r.summary }⟩ := by
      simp only [visiting, advance, advanceVisit, withPass, hr, Bool.false_eq_true, if_false]
        at first
      cases hplan : job.plan ⟨settings.groupId, (world.now r.state).toDateTime⟩ with
      | error error =>
        simp only [hplan] at first
        simp only [attemptOn, Job.compile, hplan]
        exact first
      | ok plan =>
        simp only [hplan] at first
        have ran := leads_submit world settings (r.registry.clearFailed job.trackingId).2 passes
          { stage := .visit, waiting, desired, summary := r.summary }
          { id := job.trackingId, kind := job.kind, stamp := world.now r.state,
            pipelineName := plan.pipelineName, remaining := plan.steps } r.state
        simp only [attemptOn, Job.compile, hplan, Plan.execute]
        exact first.trans ran
    have recorded := Leads.step world settings
      ⟨(r.registry.clearFailed job.trackingId).2, passes, some
        { stage := .record (attemptOn world settings job r.state), waiting, desired,
          summary := r.summary }⟩ r.state
    have both := looked.trans recorded
    simp only [visiting, hreg, hsum]
    exact both

theorem leads_visits (passes : Nat) (desired : List String) (jobs : List Job) (r : PassReport σ) :
    ∃ attempts, (jobs.foldl (visitJob world settings) r).attempts = r.attempts ++ attempts ∧
      Leads σ settings (visiting passes desired jobs r) attempts
        (visiting passes desired [] (jobs.foldl (visitJob world settings) r)) := by
  induction jobs generalizing r with
  | nil => exact ⟨[], (List.append_nil _).symm, .refl settings _⟩
  | cons job jobs ih =>
    obtain ⟨as, has, first⟩ := leads_visit world settings passes desired job jobs r
    obtain ⟨bs, hbs, more⟩ := ih (visitJob world settings r job)
    refine ⟨as ++ bs, ?_, first.trans more⟩
    rw [List.foldl_cons, hbs, has, List.append_assoc]

/-! ## 4. The whole pass -/

theorem leads_fetch (kind : JobKind) (registry : Registry) (passes : Nat) (p : PassInProgress)
    (state : σ) :
    let f := fetchKind world kind { summary := p.summary, registry, state }
    Leads σ settings ⟨registry, passes, some { p with stage := .fetch kind }⟩ []
      ⟨f.2.registry, passes, some
        { stage := match kind with
            | .behavior => .fetch .rule
            | .rule => .visit
          waiting := p.waiting ++ f.1
          desired := p.desired ++ f.1.map Job.trackingId
          summary := f.2.summary }⟩ :=
  Leads.step world settings ⟨registry, passes, some { p with stage := .fetch kind }⟩ state

/-- The two fetches lead to the first visit. -/
theorem leads_fetches (registry : Registry) (pass : Nat) (state : σ) :
    Leads σ settings ⟨registry, pass, some { summary := { pass } }⟩ []
      (visiting pass ((world.answers state).desired.map Job.trackingId)
        (world.answers state).desired (fetched world pass registry state)) := by
  have first := leads_fetch world settings .behavior registry pass { summary := { pass } } state
  have second := leads_fetch world settings .rule
    (fetchKind world .behavior { summary := { pass }, registry, state }).2.registry pass
    { waiting := (world.answers state).jobs .behavior
      desired := ((world.answers state).jobs .behavior).map Job.trackingId
      summary := (fetchKind world .behavior { summary := { pass }, registry, state }).2.summary }
    (world.fetch .behavior state).2
  simp only [fetchKind_registry, fetchKind_summary, fetchKind_jobs] at first second
  simp only [visiting, fetched, fetchKind_registry, fetchKind_summary, fetchKind_state,
    PassReport.begin, Answers.desired, List.map_append]
  exact first.trans second

/-- **A tick at an idle manager and the steps of one world lead to what `reconcile` gives**, by way
    of the same attempts. -/
theorem leads_reconcile {m : Manager} (h : m.current = none) (state : σ) :
    Leads σ settings m (m.reconcile world settings state).2.attempts
      (m.reconcile world settings state).1 := by
  obtain ⟨registry, passes, current⟩ := m
  simp only at h
  subst h
  have ticked : Leads σ settings ⟨registry, passes, none⟩ []
      ⟨registry, passes + 1, some { summary := { pass := passes + 1 } }⟩ := ⟨[.tick], rfl⟩
  have looked := leads_fetches world settings registry (passes + 1) state
  obtain ⟨attempts, hatt, went⟩ := leads_visits world settings (passes + 1)
    ((world.answers state).desired.map Job.trackingId) (world.answers state).desired
    (fetched world (passes + 1) registry state)
  have closed := Leads.step world settings
    (visiting (passes + 1) ((world.answers state).desired.map Job.trackingId) []
      ((world.answers state).desired.foldl (visitJob world settings)
        (fetched world (passes + 1) registry state))) state
  have all := ((ticked.trans looked).trans went).trans closed
  rw [fetched_attempts, List.nil_append] at hatt
  have hrec : (reconcile world settings ⟨registry, passes, none⟩ state).2.attempts = attempts := by
    rw [← hatt]
    exact attempts_runPass world settings (passes + 1) registry state
  rw [hrec]
  simp only [visiting, advance, advanceClose, List.nil_append, Option.toList_none,
    List.append_nil] at all
  simp only [reconcile, runPass_eq]
  exact all

end JobKeeper.Manager
