/-
  File:      JobKeeper/Proofs/Manager/Moves.lean
  Subject:   The manager move by move: ticks at any time, and the steps of the pass in progress,
             each in a world of its own.

  * `moves`: what a list of moves makes of a manager, with the attempts that they record. Nothing
    ties the world of one step to that of the next, so whatever the source, the cluster and the
    clock may answer at any point is covered.
  * `Effect`, `advance_effect`: all that one step can do to the registry. What holds of every run
    is read off these six cases; no other proof opens a step.
-/
import JobKeeper.Manager.Ticks
import JobKeeper.Proofs.Manager.Standing

namespace JobKeeper

/-! ## 1. Moves -/

/-- What may happen to a manager next. -/
inductive Move (σ : Type) where
  /-- A tick fires. -/
  | tick
  /-- The pass in progress takes one step in the world as it finds it. -/
  | step (world : World σ) (state : σ)

namespace Manager

section Definitions

variable {σ : Type} (settings : ManagerSettings)

/-- The manager after a move, and the attempt that the move recorded. -/
def move (m : Manager) : Move σ → Manager × Option Attempt
  | .tick => (m.tick.1, none)
  | .step world state =>
    ((m.advance world settings state).manager, (m.advance world settings state).attempt)

/-- The manager after a list of moves, and the attempts that they recorded, in order. -/
def moves (m : Manager) : List (Move σ) → Manager × List Attempt
  | [] => (m, [])
  | v :: vs =>
    ((moves (m.move settings v).1 vs).1,
     (m.move settings v).2.toList ++ (moves (m.move settings v).1 vs).2)

end Definitions

/-- The job that an attempt is under way for: from the look at the registry that found it not
    running to the record of the outcome. -/
def underWay? (m : Manager) : Option (JobKind × String) :=
  match m.current with
  | some { stage := .submit a, .. } => some (a.kind, a.id)
  | some { stage := .record a, .. } => some (a.kind, a.id)
  | _ => none

/-! ## 2. What one step can do -/

/-- **All that a step of pass `pass` can do** to the registry `r` while `u` is under way: the
    registry and what is under way afterwards, and the attempt that was recorded. -/
inductive Effect (pass retention : Nat) : Registry → Option (JobKind × String) →
    Registry → Option (JobKind × String) → Option Attempt → Prop where
  /-- A fetch that succeeds, or a statement. -/
  | stay (r u) : Effect pass retention r u r u none
  /-- A fetch that fails. -/
  | unfetched (r kind) : Effect pass retention r none (r.touchKind kind pass) none none
  /-- A listed job that runs. -/
  | seen (r id) (running : r.isRunning id = true) :
      Effect pass retention r none (r.touch id pass) none none
  /-- A listed job that does not run. -/
  | begin (r) (job : Job) (idle : r.isRunning job.trackingId = false) :
      Effect pass retention r none (r.clearFailed job.trackingId).2
        (some (job.kind, job.trackingId)) none
  /-- The end of an attempt. -/
  | record (r) (a : Attempt) :
      Effect pass retention r (some (a.kind, a.id))
        (r.record a.id a.kind a.stamp pass a.outcome) none (some a)
  /-- The end of the pass. -/
  | close (r) : Effect pass retention r none (r.evictFailed pass retention).2 none none

section Steps

variable {σ : Type} (world : World σ) (settings : ManagerSettings) {m : Manager}
  {p : PassInProgress}

/-- **A step does one of these six things**, in the pass in progress. -/
theorem advance_effect (hp : m.current = some p) (state : σ) :
    Effect p.summary.pass settings.retentionPasses m.registry m.underWay?
      (m.advance world settings state).manager.registry
      (m.advance world settings state).manager.underWay?
      (m.advance world settings state).attempt := by
  obtain ⟨registry, passes, current⟩ := m
  simp only at hp
  subst hp
  obtain ⟨stage, waiting, desired, summary⟩ := p
  cases stage with
  | fetch kind =>
    simp only [advance, advanceFetch, fetchKind, withPass, underWay?]
    cases hf : world.fetch kind state with
    | mk answer state' =>
      cases answer with
      | ok jobs => cases kind <;> exact .stay _ _
      | error error => cases kind <;> exact .unfetched _ _
  | visit =>
    cases waiting with
    | nil => exact .close _
    | cons job rest =>
      simp only [advance, advanceVisit, withPass]
      split
      · next hr => exact .seen _ _ hr
      · next hr =>
        cases hplan : job.plan ⟨settings.groupId, (world.now state).toDateTime⟩ with
        | error error => exact .begin _ job (by simpa using hr)
        | ok plan => exact .begin _ job (by simpa using hr)
  | submit a =>
    simp only [advance, advanceSubmit, withPass]
    cases hrem : a.remaining with
    | nil => exact .stay _ _
    | cons step rest =>
      simp only
      cases hx : world.execute step.sql state with
      | mk answer state' =>
        cases answer with
        | ok result => exact .stay _ _
        | error source => exact .stay _ _
  | record a => exact .record _ a

/-- A step leaves the number of the pass in progress, and the number of passes begun, alone. -/
theorem advance_numbers (hp : m.current = some p) (state : σ) :
    (m.advance world settings state).manager.passes = m.passes ∧
      ∀ p', (m.advance world settings state).manager.current = some p' →
        p'.summary.pass = p.summary.pass := by
  obtain ⟨registry, passes, current⟩ := m
  simp only at hp
  subst hp
  obtain ⟨stage, waiting, desired, summary⟩ := p
  cases stage with
  | fetch kind =>
    simp only [advance, advanceFetch, fetchKind, withPass]
    cases hf : world.fetch kind state with
    | mk answer state' =>
      cases answer <;> exact ⟨trivial, fun p' h => by cases h; rfl⟩
  | visit =>
    cases waiting with
    | nil => exact ⟨rfl, fun p' h => by cases h⟩
    | cons job rest =>
      simp only [advance, advanceVisit, withPass]
      split <;> exact ⟨rfl, fun p' h => by cases h; rfl⟩
  | submit a =>
    simp only [advance, advanceSubmit, withPass]
    cases hrem : a.remaining with
    | nil => exact ⟨rfl, fun p' h => by cases h; rfl⟩
    | cons step rest =>
      simp only
      cases hx : world.execute step.sql state with
      | mk answer state' =>
        cases answer <;> exact ⟨rfl, fun p' h => by cases h; rfl⟩
  | record a =>
    refine ⟨rfl, fun p' h => ?_⟩
    cases h
    cases a.outcome <;> rfl

/-- Without a pass in progress a step does nothing. -/
theorem advance_idle (h : m.current = none) (state : σ) :
    m.advance world settings state = { manager := m, state } := by
  simp only [advance, h]

end Steps

/-- A tick begins a pass or does nothing; the registry stays, and no attempt is under way for
    another job than before. -/
theorem tick_cases (m : Manager) :
    (∃ p, m.current = some p ∧ m.tick.1 = m) ∨
      (m.current = none ∧
        m.tick.1 =
          { m with
            passes := m.passes + 1
            current := some { summary := { pass := m.passes + 1 } } }) := by
  obtain ⟨registry, passes, current⟩ := m
  cases current with
  | none => exact Or.inr ⟨rfl, rfl⟩
  | some p => exact Or.inl ⟨p, rfl, rfl⟩

end Manager

end JobKeeper
