/-
  File:      JobKeeper/Proofs/Manager/Course.lean
  Subject:   Passes one after the other, from the empty registry.

  A course is what a number of passes have come to. Each pass meets a world and a state of its own,
  so the source may answer what it likes in each pass and the cluster whatever it likes to each
  statement.

  * `Course.run`: the course of a list of turns, one pass each;
  * `reconcileTimes_eq_run`: passes in one world, each from where the one before it left that
    world, are a course;
  * `Course.steady_run`: what holds of all moves of the manager holds of a course.
-/
import JobKeeper.Proofs.Manager.Fate
import JobKeeper.Proofs.Manager.Permanence
import JobKeeper.Proofs.Manager.Uninterrupted

namespace JobKeeper

/-! ## 1. Courses -/

/-- The world as a pass finds it. -/
structure Turn (σ : Type) where
  world : World σ
  state : σ

/-- What the source answers in the pass. -/
def Turn.answers {σ : Type} (t : Turn σ) : Answers := t.world.answers t.state

/-- What passes one after the other have come to: the manager, what the source answered in each
    pass, and all attempts, in order. -/
structure Course where
  manager : Manager := {}
  answers : List Answers := []
  attempts : List Attempt := []

namespace Course

section Definitions

variable {σ : Type} (settings : ManagerSettings)

/-- The report of one more pass. -/
def report (c : Course) (t : Turn σ) : PassReport σ :=
  (c.manager.reconcile t.world settings t.state).2

/-- The course with one more pass. -/
def pass (c : Course) (t : Turn σ) : Course where
  manager := (c.manager.reconcile t.world settings t.state).1
  answers := c.answers ++ [t.answers]
  attempts := c.attempts ++ (c.report settings t).attempts

/-- One more pass up to its close: the fetches and the visits of the desired jobs. -/
def visits (c : Course) (t : Turn σ) : PassReport σ :=
  visited t.world settings (c.manager.passes + 1) c.manager.registry t.state

/-- The course of one pass after the other. -/
def run (turns : List (Turn σ)) : Course := turns.foldl (pass settings) {}

end Definitions

/-- The standing of a job. -/
def standing (c : Course) (id : String) : Standing := c.manager.registry.standing id

section Facts

variable {σ : Type} (settings : ManagerSettings)

theorem run_concat (turns : List (Turn σ)) (t : Turn σ) :
    run settings (turns ++ [t]) = (run settings turns).pass settings t := by
  rw [run, List.foldl_append]
  rfl

/-- What holds of the empty course and is kept by each pass holds of every course. -/
theorem run_induction {P : Course → Prop} (start : P {})
    (pass : ∀ c (t : Turn σ), P c → P (c.pass settings t)) (turns : List (Turn σ)) :
    P (run settings turns) := by
  suffices h : ∀ c, P c → P (turns.foldl (Course.pass settings) c) from h {} start
  induction turns with
  | nil => exact fun c hc => hc
  | cons t turns ih => exact fun c hc => ih (c.pass settings t) (pass c t hc)

theorem length_answers_run (turns : List (Turn σ)) :
    (run settings turns).answers.length = turns.length := by
  induction turns using List.reverseRecOn with
  | nil => rfl
  | append_singleton turns t ih =>
    rw [run_concat, List.length_append, ← ih]
    exact List.length_append

/-- The passes begun are those that were run. -/
theorem passes_run (turns : List (Turn σ)) :
    (run settings turns).manager.passes = turns.length := by
  induction turns using List.reverseRecOn with
  | nil => rfl
  | append_singleton turns t ih =>
    rw [run_concat, List.length_append, ← ih]
    rfl

/-- **A course is a run of moves**, with the same attempts. -/
theorem leads_run (turns : List (Turn σ)) :
    Manager.Leads σ settings {} (run settings turns).attempts (run settings turns).manager := by
  have both := run_induction settings
    (P := fun c => c.manager.current = none ∧ Manager.Leads σ settings {} c.attempts c.manager)
    ⟨rfl, .refl settings _⟩
    (fun c t hc => ⟨hc.1, hc.2.trans (Manager.leads_reconcile t.world settings hc.1 t.state)⟩) turns
  exact both.2

/-- **What holds of all moves of the manager holds of a course.** -/
theorem steady_run (turns : List (Turn σ)) :
    Manager.Steady (run settings turns).manager (run settings turns).attempts := by
  obtain ⟨vs, hvs⟩ := leads_run settings turns
  have h := (Manager.steady_empty.moves settings vs).1
  rwa [hvs, List.nil_append] at h

theorem sound_run (turns : List (Turn σ)) (id : String) :
    ((run settings turns).standing id).Sound turns.length id := by
  rw [← passes_run settings turns]
  exact (steady_run settings turns).sound id

/-- The standing of a job after one more pass: that after the visits, swept of a stale failure. -/
theorem standing_pass (c : Course) (t : Turn σ) (id : String) :
    (c.pass settings t).standing id =
      ((c.visits settings t).registry.standing id).swept (c.manager.passes + 1)
        settings.retentionPasses :=
  standing_runPass t.world settings (c.manager.passes + 1) c.manager.registry t.state id

theorem attempts_report (c : Course) (t : Turn σ) :
    (c.report settings t).attempts = (c.visits settings t).attempts :=
  attempts_runPass t.world settings (c.manager.passes + 1) c.manager.registry t.state

/-- The registry is sound up to the close of one more pass, whatever its settings. -/
theorem sound_visits {ρ : Type} (past : ManagerSettings) (turns : List (Turn ρ)) (t : Turn σ)
    (id : String) :
    (((run past turns).visits settings t).registry.standing id).Sound (turns.length + 1) id := by
  rw [← passes_run past turns]
  exact sound_visited t.world settings _ t.state (steady_run past turns).sound (Nat.le_succ _) id

/-- **One more pass brings one of the three fates** to each job. -/
theorem fate_pass {ρ : Type} (past : ManagerSettings) (turns : List (Turn ρ)) (t : Turn σ)
    (kind : JobKind) (name : String) :
    Fate (kind.namespaced name) (turns.length + 1)
      (((run past turns).standing (kind.namespaced name)).refetched (turns.length + 1)
        (t.answers.failed kind))
      (t.answers.Lists (kind.namespaced name))
      (((run past turns).visits settings t).registry.standing (kind.namespaced name))
      (((run past turns).visits settings t).attempts.filter (·.id = kind.namespaced name)) := by
  rw [← passes_run past turns]
  exact fate_visited t.world settings (steady_run past turns).sound (Nat.le_succ _) t.state
    kind name

theorem pass_visits {ρ : Type} (past : ManagerSettings) (turns : List (Turn ρ)) (t : Turn σ) :
    ((run past turns).visits settings t).summary.pass = turns.length + 1 := by
  rw [← passes_run past turns]
  exact visited_pass t.world settings _ _ t.state

/-- **Passes in one world**, each from where the one before it left that world, **are a course.** -/
theorem reconcileTimes_eq_run (world : World σ) (n : Nat) (state : σ) :
    ∃ turns : List (Turn σ), turns.length = n ∧ (∀ t ∈ turns, t.world = world) ∧
      (run settings turns).manager = (Manager.reconcileTimes world settings n {} state).1 := by
  suffices h : ∀ (c : Course) (state : σ), ∃ turns : List (Turn σ), turns.length = n ∧
      (∀ t ∈ turns, t.world = world) ∧ (turns.foldl (Course.pass settings) c).manager =
        (Manager.reconcileTimes world settings n c.manager state).1 from h {} state
  induction n with
  | zero => exact fun c state => ⟨[], rfl, fun t ht => absurd ht List.not_mem_nil, rfl⟩
  | succ n ih =>
    intro c state
    obtain ⟨turns, hlen, hworld, hrun⟩ :=
      ih (c.pass settings ⟨world, state⟩) (c.report settings ⟨world, state⟩).state
    refine ⟨⟨world, state⟩ :: turns, by rw [List.length_cons, hlen], ?_, hrun⟩
    intro t ht
    rcases List.mem_cons.mp ht with rfl | ht
    · rfl
    · exact hworld t ht

end Facts

end Course

end JobKeeper
