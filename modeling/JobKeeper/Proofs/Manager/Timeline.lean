/-
  File:      JobKeeper/Proofs/Manager/Timeline.lean
  Subject:   The state of the world and its clock at each point of a course.

  Nothing but the source and the cluster changes the state of the world while a pass is under way,
  and the state tells the time. So where the clock stands at any point follows from the calls made
  by then: two fetches, and the statements of the attempts made so far.

  * `state_compile`: an attempt leaves the state to which its statements lead;
  * `Course.state_visiting`: so do the visits of any jobs, and their attempts;
  * `Course.exists_begins`: the moment at which an attempt of a pass begins;
  * `World.NeverBack`, `Course.Timely`: a clock that does not go back, within a pass and from each
    pass to the next.
-/
import JobKeeper.Proofs.Manager.Course
import JobKeeper.Proofs.Manager.Statements
import Mathlib.Order.Defs.PartialOrder

namespace JobKeeper

/-! ## 1. Instants in order -/

/-- Instants are in the order of their seconds, and within a second in that of the nanoseconds. -/
instance : Preorder Instant where
  le t t' := t.seconds < t'.seconds ∨ (t.seconds = t'.seconds ∧ t.nanoseconds ≤ t'.nanoseconds)
  le_refl t := Or.inr ⟨rfl, Nat.le_refl _⟩
  le_trans t t' t'' h h' := by
    rcases h with h | ⟨h, hn⟩ <;> rcases h' with h' | ⟨h', hn'⟩
    · exact Or.inl (by omega)
    · exact Or.inl (by omega)
    · exact Or.inl (by omega)
    · exact Or.inr ⟨by omega, by omega⟩

/-! ## 2. The state after some statements -/

section Statements

variable {σ : Type}

/-- The state that a cluster is in after some statements, whatever it answered. -/
def Executor.after (executor : Executor σ) (statements : List String) (state : σ) : σ :=
  statements.foldl (fun state sql => (executor.execute sql state).2) state

theorem Executor.after_append (executor : Executor σ) (earlier later : List String) (state : σ) :
    executor.after (earlier ++ later) state = executor.after later (executor.after earlier state) :=
  List.foldl_append

/-- The steps that are run leave the state to which their statements lead. -/
theorem state_runSteps (executor : Executor σ) (pipelineName : String) (steps : List Step)
    (created : List String) (jobId : Option String) (state : σ) :
    let run := runSteps executor pipelineName steps created jobId state
    run.state = executor.after run.submitted state := by
  induction steps generalizing created jobId state with
  | nil => rfl
  | cons step rest ih =>
    cases hx : executor.execute step.sql state with
    | mk answer next =>
      have hnext : (executor.execute step.sql state).2 = next := by rw [hx]
      cases answer with
      | error source =>
        rw [runSteps_of_error hx]
        exact hnext.symm
      | ok result =>
        rw [runSteps_of_ok hx]
        refine (ih _ _ next).trans ?_
        rw [← hnext]
        rfl

/-- **An attempt leaves the state to which its statements lead**, whatever comes of it. -/
theorem state_compile (job : Job) (ctx : PlanContext) (executor : Executor σ) (state : σ) :
    let run := job.compile ctx executor state
    run.state = executor.after run.submitted state := by
  unfold Job.compile
  cases job.plan ctx with
  | error error => rfl
  | ok plan => exact state_runSteps executor plan.pipelineName plan.steps [] none state

end Statements

/-! ## 3. Points of a pass -/

section Points

variable {σ : Type}

/-- The state of a pass in which both kinds were fetched and these attempts were made. -/
def Turn.stateAfter (t : Turn σ) (attempts : List Attempt) : σ :=
  t.world.toExecutor.after (attempts.flatMap (·.submitted))
    (t.world.fetch .rule (t.world.fetch .behavior t.state).2).2

/-- The clock of a pass in which both kinds were fetched and these attempts were made. -/
def Turn.clockAfter (t : Turn σ) (attempts : List Attempt) : Instant :=
  t.world.now (t.stateAfter attempts)

theorem Turn.stateAfter_concat (t : Turn σ) (attempts : List Attempt) (a : Attempt) :
    t.stateAfter (attempts ++ [a]) =
      t.world.toExecutor.after a.submitted (t.stateAfter attempts) := by
  rw [stateAfter, List.flatMap_append, Executor.after_append]
  simp [stateAfter]

namespace Course

variable (settings : ManagerSettings) (c : Course) (t : Turn σ)

/-- One more pass up to the point at which these jobs were visited. -/
def visiting (done : List Job) : PassReport σ :=
  done.foldl (visitJob t.world settings)
    (fetched t.world (c.manager.passes + 1) c.manager.registry t.state)

theorem visits_eq : c.visits settings t = c.visiting settings t t.answers.desired := rfl

theorem visiting_append (done waiting : List Job) :
    c.visiting settings t (done ++ waiting) =
      waiting.foldl (visitJob t.world settings) (c.visiting settings t done) :=
  List.foldl_append

theorem visiting_concat (done : List Job) (job : Job) :
    c.visiting settings t (done ++ [job]) =
      visitJob t.world settings (c.visiting settings t done) job :=
  List.foldl_append

theorem visiting_pass (done : List Job) :
    (c.visiting settings t done).summary.pass = c.manager.passes + 1 := by
  rw [visiting, foldl_visitJob_pass, fetched_summary]

/-- **The state of a pass at any point** is the one to which its fetches and the statements of its
    attempts lead. -/
theorem state_visiting (done : List Job) :
    (c.visiting settings t done).state =
      t.stateAfter (c.visiting settings t done).attempts := by
  induction done using List.reverseRecOn with
  | nil =>
    show (fetched t.world _ _ t.state).state = t.stateAfter (fetched t.world _ _ t.state).attempts
    rw [state_fetched, fetched_attempts]
    rfl
  | append_singleton done job ih =>
    rw [visiting_concat, state_visitJob, attempts_visitJob]
    split
    · rw [List.append_nil]
      exact ih
    · rw [Turn.stateAfter_concat, ← ih]
      exact state_compile job _ t.world.toExecutor _

/-- **The moment at which an attempt begins.** The jobs before it were visited, by way of the
    attempts before it, and its job does not run. -/
structure Begins (earlier : List Attempt) (a : Attempt) (done : List Job) (job : Job) : Prop where
  desired : ∃ waiting, t.answers.desired = done ++ job :: waiting
  past : (c.visiting settings t done).attempts = earlier
  idle : (c.visiting settings t done).registry.isRunning job.trackingId = false
  attempt : a = attemptOn t.world settings job (t.stateAfter earlier)

variable {settings c t}

/-- **Every attempt of a pass begins at some moment.** -/
theorem exists_begins {earlier later : List Attempt} {a : Attempt}
    (h : (c.report settings t).attempts = earlier ++ a :: later) :
    ∃ done job, c.Begins settings t earlier a done job := by
  rw [attempts_report] at h
  obtain ⟨done, job, waiting, hdesired, hearlier, hidle, ha⟩ :=
    exists_visit_of_attempt t.world settings (fetched_attempts t.world _ _ t.state) h
  refine ⟨done, job, ⟨waiting, hdesired⟩, hearlier, hidle, ?_⟩
  have hstate := c.state_visiting settings t done
  rw [show (c.visiting settings t done).attempts = earlier from hearlier] at hstate
  rw [← hstate]
  exact ha

namespace Begins

variable {earlier : List Attempt} {a : Attempt} {done : List Job} {job : Job}
  (h : c.Begins settings t earlier a done job)

include h

theorem state : (c.visiting settings t done).state = t.stateAfter earlier := by
  rw [state_visiting, h.past]

/-- **The stamp is the clock at this moment.** -/
theorem stamp_eq : a.stamp = t.clockAfter earlier := by
  rw [h.attempt]
  rfl

theorem id_eq : a.id = job.trackingId := by
  rw [h.attempt]
  rfl

/-- The visit makes the attempt. -/
theorem attempts : (c.visiting settings t (done ++ [job])).attempts = earlier ++ [a] := by
  rw [visiting_concat, attempts_visitJob, h.idle, h.state, h.past, h.attempt]
  rfl

/-- The visit records its outcome. -/
theorem standing :
    (c.visiting settings t (done ++ [job])).registry.standing a.id =
      .recorded a.id a.kind a.stamp (c.manager.passes + 1) a.outcome := by
  have hidle := h.idle
  rw [Registry.isRunning_eq, Option.isSome_eq_false_iff, Option.isNone_iff_eq_none] at hidle
  rw [visiting_concat, standing_visitJob, h.state, visiting_pass, ← h.attempt, h.id_eq, if_pos rfl]
  simp only [Standing.visited, hidle, h.id_eq]

end Begins

end Course

end Points

/-! ## 4. Clocks that do not go back -/

/-- The clock never goes back while the source or the cluster is asked. -/
structure World.NeverBack {σ : Type} (world : World σ) : Prop where
  execute : ∀ sql state, world.now state ≤ world.now (world.execute sql state).2
  fetch : ∀ kind state, world.now state ≤ world.now (world.fetch kind state).2

section Clock

variable {σ : Type}

theorem World.NeverBack.after {world : World σ} (h : world.NeverBack) (statements : List String)
    (state : σ) : world.now state ≤ world.now (world.toExecutor.after statements state) := by
  induction statements generalizing state with
  | nil => exact le_refl _
  | cons sql statements ih =>
    exact le_trans (h.execute sql state) (ih (world.execute sql state).2)

section Pass

variable {t : Turn σ} (h : t.world.NeverBack)

include h

theorem Turn.now_le_clockAfter (attempts : List Attempt) :
    t.world.now t.state ≤ t.clockAfter attempts := by
  have hbehaviors := h.fetch .behavior t.state
  have hrules := h.fetch .rule (t.world.fetch .behavior t.state).2
  exact le_trans hbehaviors (le_trans hrules (h.after _ _))

/-- More attempts take no less time. -/
theorem Turn.clockAfter_mono {attempts attempts' : List Attempt} (hle : attempts <+: attempts') :
    t.clockAfter attempts ≤ t.clockAfter attempts' := by
  obtain ⟨later, rfl⟩ := hle
  rw [clockAfter, clockAfter, stateAfter, stateAfter, List.flatMap_append, Executor.after_append]
  exact h.after _ _

end Pass

namespace Course

variable (settings : ManagerSettings)

/-- The clock at the end of one more pass. -/
def clockAt (c : Course) (t : Turn σ) : Instant := t.world.now (c.report settings t).state

theorem clockAt_eq (c : Course) (t : Turn σ) :
    c.clockAt settings t = t.clockAfter (c.report settings t).attempts := by
  have hstate : (c.report settings t).state = (c.visits settings t).state := by
    show (runPass t.world settings _ _ t.state).state = _
    rw [runPass_eq]
    rfl
  rw [clockAt, hstate, attempts_report]
  exact congrArg t.world.now (c.state_visiting settings t t.answers.desired)

/-- **Time passes from turn to turn.** No clock goes back while a pass is under way, and each pass
    begins no earlier than the one before it ended. -/
structure Timely (turns : List (Turn σ)) : Prop where
  neverBack : ∀ t ∈ turns, t.world.NeverBack
  onward : ∀ before t t' after, turns = before ++ t :: t' :: after →
    (run settings before).clockAt settings t ≤ t'.world.now t'.state

variable {settings} {turns : List (Turn σ)} (h : Timely settings turns)

include h

/-- The end of a pass is no later than the beginning of any pass after it. -/
theorem Timely.clockAt_le {before between after : List (Turn σ)} {t t' : Turn σ}
    (hturns : turns = before ++ t :: (between ++ t' :: after)) :
    (run settings before).clockAt settings t ≤ t'.world.now t'.state := by
  induction between generalizing before t with
  | nil => exact h.onward before t t' after hturns
  | cons t₁ between ih =>
    have hrest : turns = (before ++ [t]) ++ t₁ :: (between ++ t' :: after) := by
      rw [hturns]
      simp
    have hmem : t₁ ∈ turns := by
      rw [hrest]
      simp
    have hfirst := h.onward before t t₁ (between ++ t' :: after) hturns
    have hpass := Turn.now_le_clockAfter (h.neverBack t₁ hmem)
      ((run settings (before ++ [t])).report settings t₁).attempts
    rw [← clockAt_eq] at hpass
    exact le_trans hfirst (le_trans hpass (ih hrest))

end Course

end Clock

end JobKeeper
