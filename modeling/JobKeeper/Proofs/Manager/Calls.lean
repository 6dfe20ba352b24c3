/-
  File:      JobKeeper/Proofs/Manager/Calls.lean
  Subject:   Ticks on the clones of one manager, each a call of its own, and the steps of all calls
             in any order.

  `Manager` has room for one pass in progress, so that there is never a second one is no result
  about it. The clones of a manager share less: the registry, the number of passes begun, and a
  guard that a call tries to take when its tick fires. All else that a pass knows belongs to its
  call, and any number of calls may be under way. What a step of a pass does is still said by
  `advance` only.

  * `Clones.step`: one step of one call, with what can be seen of it;
  * `Clones.HeldBy`: the guard is had by one call or by none, kept by each step (`HeldBy.step`);
  * `Clones.leads_run`: so whatever the calls do in any order, one manager does in moves.
-/
import JobKeeper.Proofs.Manager.Permanence
import JobKeeper.Proofs.Manager.Uninterrupted
import Mathlib.Logic.Function.Basic

namespace JobKeeper

/-! ## 1. Calls -/

/-- How far a call has come. -/
inductive Call where
  /-- Its tick has not fired. -/
  | due
  /-- It has the guard, and its pass has no number yet. -/
  | admitted
  /-- Its pass is in progress. -/
  | running (p : PassInProgress)
  /-- Its pass is over, and it has the guard still. -/
  | leaving (summary : PassSummary)
  /-- It has returned: the numbers of its pass, or nothing if it ran none. -/
  | returned (result : Option PassSummary)

namespace Call

/-- Whether a pass of the call is in progress, from the tick that was let in until it returns. All
    this time the call has the guard. -/
def inProgress : Call → Bool
  | .admitted | .running _ | .leaving _ => true
  | .due | .returned _ => false

/-- Whether the tick of the call was skipped. -/
def wasSkipped : Call → Bool
  | .returned none => true
  | _ => false

end Call

/-- What a step of a call does, as far as others can see it. -/
inductive Deed where
  /-- The tick fires and is skipped. -/
  | skipped
  /-- The tick fires and is let in. -/
  | admitted
  /-- The pass takes its number. -/
  | began (pass : Nat)
  /-- The jobs of a kind are fetched. -/
  | fetched (kind : JobKind)
  /-- The registry is asked whether a listed job runs. -/
  | looked (id : String) (running : Bool)
  /-- A statement is submitted. -/
  | submitted (sql : String)
  /-- The outcome of an attempt is recorded. -/
  | recorded (attempt : Attempt)
  /-- The running jobs are gone through and failed ones are dropped. -/
  | swept
  /-- The call returns the numbers of its pass. -/
  | returned (summary : PassSummary)

namespace Deed

def isSkipped : Deed → Bool
  | .skipped => true
  | _ => false

/-- The number that a pass takes. -/
def number? : Deed → Option Nat
  | .began pass => some pass
  | _ => none

/-- The attempt that is recorded. -/
def attempt? : Deed → Option Attempt
  | .recorded attempt => some attempt
  | _ => none

end Deed

/-- What the next step of a pass does. The last statement of an attempt is followed by a step
    within the pass that nothing outside can see. -/
def PassInProgress.deed? (registry : Registry) (p : PassInProgress) : Option Deed :=
  match p.stage, p.waiting with
  | .fetch kind, _ => some (.fetched kind)
  | .visit, [] => some .swept
  | .visit, job :: _ => some (.looked job.trackingId (registry.isRunning job.trackingId))
  | .submit a, _ => a.remaining.head?.map fun step => .submitted step.sql
  | .record a, _ => some (.recorded a)

/-! ## 2. The clones of a manager -/

/-- What the clones of a manager share, and the calls on any of them, each under a number. -/
structure Clones where
  registry : Registry := {}
  passes : Nat := 0
  /-- Whether the guard is taken. -/
  guarded : Bool := false
  call : Nat → Call := fun _ => .due

/-- A step of a call, in the world as it finds it. -/
structure CallStep (σ : Type) where
  call : Nat
  world : World σ
  state : σ

/-- What has come of a step. -/
structure CallReport (σ : Type) where
  clones : Clones
  state : σ
  logs : List Log.Line := []
  deed : Option Deed := none

namespace Clones

section Definitions

variable {σ : Type} (settings : ManagerSettings)

/-- The clones with one call further on. -/
def setCall (c : Clones) (i : Nat) (k : Call) : Clones :=
  { c with call := Function.update c.call i k }

/-- One step of one call. A step of a pass goes to the registry and the number of passes that all
    clones share, and sees of the other calls nothing but that. -/
def step (c : Clones) (t : CallStep σ) : CallReport σ :=
  match c.call t.call with
  | .due =>
    if c.guarded then
      { clones := c.setCall t.call (.returned none)
        state := t.state
        logs := [Manager.skippedLine]
        deed := some .skipped }
    else
      { clones := { c with guarded := true }.setCall t.call .admitted
        state := t.state
        deed := some .admitted }
  | .admitted =>
    let pass := c.passes + 1
    { clones := { c with passes := pass }.setCall t.call (.running { summary := { pass } })
      state := t.state
      logs := [passStartedLine pass]
      deed := some (.began pass) }
  | .running p =>
    let a := Manager.advance t.world settings ⟨c.registry, c.passes, some p⟩ t.state
    let shared := { c with registry := a.manager.registry, passes := a.manager.passes }
    { clones := shared.setCall t.call (match a.summary with
        | some summary => .leaving summary
        | none => .running (a.manager.current.getD p))
      state := a.state
      logs := a.logs
      deed := p.deed? c.registry }
  | .leaving summary =>
    { clones := { c with guarded := false }.setCall t.call (.returned (some summary))
      state := t.state
      deed := some (.returned summary) }
  | .returned _ => { clones := c, state := t.state }

/-- The clones after steps of any calls in any order, and the deeds in order, each with its
    call. -/
def run (c : Clones) : List (CallStep σ) → Clones × List (Nat × Deed)
  | [] => (c, [])
  | t :: ts =>
    ((run (c.step settings t).clones ts).1,
     ((c.step settings t).deed.map fun d => (t.call, d)).toList
       ++ (run (c.step settings t).clones ts).2)

end Definitions

/-- **The guard is had by one call or by none**, and a pass is in progress in that call only. -/
def HeldBy (c : Clones) (holder : Option Nat) : Prop :=
  c.guarded = holder.isSome ∧ ∀ i, (c.call i).inProgress = true ↔ holder = some i

/-! ## 3. One step of a pass -/

section Steps

variable {σ : Type} (world : World σ) (settings : ManagerSettings)

/-- A step of a pass leaves the pass in progress, or ends it and gives its numbers. -/
theorem advance_ends (registry : Registry) (passes : Nat) (p : PassInProgress) (state : σ) :
    let a := Manager.advance world settings ⟨registry, passes, some p⟩ state
    (∃ p', a.manager.current = some p' ∧ a.summary = none) ∨
      (a.manager.current = none ∧ ∃ s, a.summary = some s ∧ s.pass = p.summary.pass) := by
  obtain ⟨stage, waiting, desired, summary⟩ := p
  cases stage with
  | fetch kind =>
    exact Or.inl ⟨_, rfl, rfl⟩
  | visit =>
    cases waiting with
    | nil => exact Or.inr ⟨rfl, _, rfl, rfl⟩
    | cons job rest =>
      simp only [Manager.advance, Manager.advanceVisit]
      split <;> exact Or.inl ⟨_, rfl, rfl⟩
  | submit a =>
    simp only [Manager.advance, Manager.advanceSubmit]
    cases a.remaining with
    | nil => exact Or.inl ⟨_, rfl, rfl⟩
    | cons step rest =>
      simp only
      cases world.execute step.sql state with
      | mk answer state' => cases answer <;> exact Or.inl ⟨_, rfl, rfl⟩
  | record a => exact Or.inl ⟨_, rfl, rfl⟩

/-- The deed of a step is what the step reports: the statement submitted and the attempt
    recorded. -/
theorem advance_deed (registry : Registry) (passes : Nat) (p : PassInProgress) (state : σ) :
    let a := Manager.advance world settings ⟨registry, passes, some p⟩ state
    (∀ sql, p.deed? registry = some (.submitted sql) ↔ a.submitted = some sql) ∧
      (p.deed? registry).bind Deed.attempt? = a.attempt := by
  obtain ⟨stage, waiting, desired, summary⟩ := p
  cases stage with
  | fetch kind => exact ⟨fun sql => by simp [PassInProgress.deed?, Manager.advance,
      Manager.advanceFetch], rfl⟩
  | visit =>
    cases waiting with
    | nil => exact ⟨fun sql => by simp [PassInProgress.deed?, Manager.advance,
        Manager.advanceClose], rfl⟩
    | cons job rest =>
      simp only [PassInProgress.deed?, Manager.advance, Manager.advanceVisit]
      split <;> exact ⟨fun sql => by simp, rfl⟩
  | submit a =>
    simp only [PassInProgress.deed?, Manager.advance, Manager.advanceSubmit]
    cases a.remaining with
    | nil => exact ⟨fun sql => by simp, rfl⟩
    | cons step rest =>
      simp only [List.head?_cons, Option.map_some]
      cases world.execute step.sql state with
      | mk answer state' => cases answer <;> exact ⟨fun sql => by simp, rfl⟩
  | record a => exact ⟨fun sql => by simp [PassInProgress.deed?, Manager.advance,
      Manager.advanceRecord], rfl⟩

end Steps

/-! ## 4. The guard -/

section Guard

variable {σ : Type} (settings : ManagerSettings) {c : Clones} {holder : Option Nat}

@[simp] theorem setCall_call (c : Clones) (i : Nat) (k : Call) :
    (c.setCall i k).call = Function.update c.call i k := rfl

/-- A step is a step of its own call only. -/
theorem step_call_of_ne (c : Clones) (t : CallStep σ) {i : Nat} (h : i ≠ t.call) :
    (c.step settings t).clones.call i = c.call i := by
  unfold step
  split
  · split <;> exact Function.update_of_ne h _ _
  · exact Function.update_of_ne h _ _
  · exact Function.update_of_ne h _ _
  · exact Function.update_of_ne h _ _
  · rfl

/-- A call that is in progress before and after a change, or neither, keeps the guard where it
    is. -/
theorem HeldBy.setCall (h : c.HeldBy holder) {i : Nat} {k : Call}
    (hk : k.inProgress = (c.call i).inProgress) : (c.setCall i k).HeldBy holder := by
  refine ⟨h.1, fun j => ?_⟩
  rw [setCall_call]
  by_cases hj : j = i
  · subst hj
    rw [Function.update_self, hk]
    exact h.2 j
  · rw [Function.update_of_ne hj]
    exact h.2 j

/-- The guard is taken by a call when no other has it. -/
theorem HeldBy.take (h : c.HeldBy none) {i : Nat} {k : Call} (hk : k.inProgress = true) :
    ({ c with guarded := true }.setCall i k).HeldBy (some i) := by
  refine ⟨rfl, fun j => ?_⟩
  rw [setCall_call]
  by_cases hj : j = i
  · subst hj
    simp [hk]
  · rw [Function.update_of_ne hj, h.2 j]
    simp [Ne.symm hj]

/-- The guard is given back by the call that has it. -/
theorem HeldBy.release {i : Nat} (h : c.HeldBy (some i)) {k : Call}
    (hk : k.inProgress = false) : ({ c with guarded := false }.setCall i k).HeldBy none := by
  refine ⟨rfl, fun j => ?_⟩
  rw [setCall_call]
  by_cases hj : j = i
  · subst hj
    simp [hk]
  · rw [Function.update_of_ne hj, h.2 j]
    simp [Ne.symm hj]

/-- A call in progress is the one that has the guard. -/
theorem HeldBy.eq_of_inProgress (h : c.HeldBy holder) {i : Nat}
    (hi : (c.call i).inProgress = true) : holder = some i := (h.2 i).mp hi

/-- What a step of a pass makes of its call is in progress. -/
theorem inProgress_after (a : Option PassSummary) (p : PassInProgress) :
    Call.inProgress (match a with
      | some summary => .leaving summary
      | none => .running p) = true := by
  cases a <;> rfl

/-- **One step keeps the guard with one call or none.** -/
theorem HeldBy.step (h : c.HeldBy holder) (t : CallStep σ) :
    ∃ holder', (c.step settings t).clones.HeldBy holder' := by
  unfold Clones.step
  split
  next hdue =>
    split
    next => exact ⟨holder, h.setCall (by rw [hdue]; rfl)⟩
    next hfree =>
      have hnone : holder = none := by
        rw [h.1, Bool.not_eq_true, Option.isSome_eq_false_iff, Option.isNone_iff_eq_none] at hfree
        exact hfree
      exact ⟨some t.call, (hnone ▸ h).take rfl⟩
  next hadmitted =>
    have h' : ({ c with passes := c.passes + 1 } : Clones).HeldBy holder := h
    exact ⟨holder, h'.setCall (by rw [hadmitted]; rfl)⟩
  next p hrunning =>
    let a := Manager.advance t.world settings ⟨c.registry, c.passes, some p⟩ t.state
    have h' : ({ c with registry := a.manager.registry, passes := a.manager.passes } :
        Clones).HeldBy holder := h
    exact ⟨holder, h'.setCall (by rw [hrunning]; exact inProgress_after _ _)⟩
  next summary hleaving =>
    have hsome : holder = some t.call := h.eq_of_inProgress (by rw [hleaving]; rfl)
    exact ⟨none, (hsome ▸ h).release rfl⟩
  next => exact ⟨holder, h⟩

theorem heldBy_start (registry : Registry) : ({ registry } : Clones).HeldBy none :=
  ⟨rfl, fun _ => by simp [Call.inProgress]⟩

end Guard

/-! ## 5. The calls as one manager -/

section Moves

variable {σ : Type} (settings : ManagerSettings)

/-- **A manager shows what the clones share**, and the pass that is in progress in one of their
    calls. -/
structure ShownBy (c : Clones) (m : Manager) : Prop where
  registry : m.registry = c.registry
  passes : m.passes = c.passes
  current : ∀ p, m.current = some p ↔ ∃ i, c.call i = .running p

/-- The guard itself does not show. -/
theorem ShownBy.setGuard {c : Clones} {m : Manager} (h : c.ShownBy m) (guarded : Bool) :
    ({ c with guarded } : Clones).ShownBy m := ⟨h.registry, h.passes, h.current⟩

/-- A call that runs no pass before and after a change does not show. -/
theorem ShownBy.setCall {c : Clones} {m : Manager} (h : c.ShownBy m) {i : Nat} {k : Call}
    (hbefore : ∀ p, c.call i ≠ .running p) (hafter : ∀ p, k ≠ .running p) :
    (c.setCall i k).ShownBy m := by
  refine ⟨h.registry, h.passes, fun p => ?_⟩
  rw [h.current p, setCall_call]
  refine exists_congr fun j => ?_
  by_cases hj : j = i
  · subst hj
    rw [Function.update_self]
    exact iff_of_false (hbefore p) (hafter p)
  · rw [Function.update_of_ne hj]

/-- If no other call runs a pass, what shows is the pass of this one. -/
theorem ShownBy.of_call {c : Clones} {m : Manager} {i : Nat} {k : Call}
    (hregistry : m.registry = c.registry) (hpasses : m.passes = c.passes)
    (hothers : ∀ j p, j ≠ i → c.call j ≠ .running p)
    (hcurrent : ∀ p, m.current = some p ↔ k = .running p) : (c.setCall i k).ShownBy m := by
  refine ⟨hregistry, hpasses, fun p => ?_⟩
  rw [hcurrent p, setCall_call]
  constructor
  · exact fun hk => ⟨i, by rw [Function.update_self, hk]⟩
  · rintro ⟨j, hj⟩
    by_cases hij : j = i
    · rwa [hij, Function.update_self] at hj
    · rw [Function.update_of_ne hij] at hj
      exact absurd hj (hothers j p hij)

/-- Beside the call that has the guard no other one runs a pass. -/
theorem HeldBy.not_running {c : Clones} {i j : Nat} (h : c.HeldBy (some i)) (p : PassInProgress)
    (hj : j ≠ i) : c.call j ≠ .running p := by
  intro hrunning
  exact hj (Option.some.inj (h.eq_of_inProgress (by rw [hrunning]; rfl))).symm

/-- **What a step of a call does, one manager does in moves**: it ticks when the pass takes its
    number, and otherwise does a step of its own or nothing. -/
theorem ShownBy.step {c : Clones} {m : Manager} {holder : Option Nat} (h : c.ShownBy m)
    (hheld : c.HeldBy holder) (t : CallStep σ) :
    ∃ m', (c.step settings t).clones.ShownBy m' ∧
      Manager.Leads σ settings m ((c.step settings t).deed.bind Deed.attempt?).toList m' := by
  unfold Clones.step
  split
  next hdue =>
    split
    · exact ⟨m, h.setCall (by simp [hdue]) (by simp), .refl settings m⟩
    · exact ⟨m, (h.setGuard true).setCall (by simp [hdue]) (by simp), .refl settings m⟩
  next hadmitted =>
    have hheld' : c.HeldBy (some t.call) :=
      hheld.eq_of_inProgress (by rw [hadmitted]; rfl) ▸ hheld
    have hidle : m.current = none := by
      refine Option.eq_none_iff_forall_ne_some.mpr fun p hp => ?_
      obtain ⟨i, hi⟩ := (h.current p).mp hp
      by_cases hcall : i = t.call
      · rw [hcall, hadmitted] at hi
        cases hi
      · exact hheld'.not_running p hcall hi
    refine ⟨m.tick.1, ?_, [.tick], rfl⟩
    obtain ⟨_, hcurrent, _⟩ | ⟨_, htick⟩ := m.tick_cases
    · rw [hidle] at hcurrent
      cases hcurrent
    · rw [htick]
      refine .of_call h.registry (congrArg (· + 1) h.passes)
        (fun j p => hheld'.not_running p) fun p => ?_
      rw [h.passes, Option.some.injEq, Call.running.injEq]
  next p hrunning =>
    have hheld' : c.HeldBy (some t.call) :=
      hheld.eq_of_inProgress (by rw [hrunning]; rfl) ▸ hheld
    have hm : m = ⟨c.registry, c.passes, some p⟩ := by
      have hcurrent := (h.current p).mpr ⟨t.call, hrunning⟩
      rw [← h.registry, ← h.passes, ← hcurrent]
    subst hm
    refine ⟨(Manager.advance t.world settings ⟨c.registry, c.passes, some p⟩ t.state).manager,
      ?_, ?_⟩
    · refine .of_call rfl rfl (fun j p' => hheld'.not_running p') fun p' => ?_
      rcases advance_ends t.world settings c.registry c.passes p t.state with
        ⟨p'', hcurrent, hsummary⟩ | ⟨hcurrent, s, hsummary, _⟩
      · rw [hcurrent, hsummary, Option.getD_some, Option.some.injEq, Call.running.injEq]
      · simp [hcurrent, hsummary]
    · rw [(advance_deed t.world settings c.registry c.passes p t.state).2]
      exact .step t.world settings _ t.state
  next summary hleaving =>
    exact ⟨m, (h.setGuard false).setCall (by simp [hleaving]) (by simp), .refl settings m⟩
  next => exact ⟨m, h, .refl settings m⟩

/-- The attempts that were recorded, in order. -/
def attempts (deeds : List (Nat × Deed)) : List Attempt := deeds.filterMap fun e => e.2.attempt?

/-- **Whatever the calls do in any order, one manager does in moves**, with the same attempts. -/
theorem leads_run {c : Clones} {m : Manager} {holder : Option Nat} (h : c.ShownBy m)
    (hheld : c.HeldBy holder) (ts : List (CallStep σ)) :
    ∃ m', (c.run settings ts).1.ShownBy m' ∧
      Manager.Leads σ settings m (attempts (c.run settings ts).2) m' := by
  induction ts generalizing c m holder with
  | nil => exact ⟨m, h, .refl settings m⟩
  | cons t ts ih =>
    obtain ⟨holder', hheld'⟩ := hheld.step settings t
    obtain ⟨m', h', first⟩ := h.step settings hheld t
    obtain ⟨m'', h'', rest⟩ := ih h' hheld'
    refine ⟨m'', h'', ?_⟩
    have hattempts : attempts (c.run settings (t :: ts)).2 =
        ((c.step settings t).deed.bind Deed.attempt?).toList
          ++ attempts ((c.step settings t).clones.run settings ts).2 := by
      rw [run, attempts, List.filterMap_append]
      cases (c.step settings t).deed with
      | none => rfl
      | some d => cases hd : d.attempt? <;> simp [hd, attempts]
    rw [hattempts]
    exact first.trans rest

/-- **No job is started twice**, whatever ticks fire on whatever clones while passes are in
    progress. -/
theorem started_once (ts : List (CallStep σ)) (id : String) :
    (attempts (({} : Clones).run settings ts).2).countP
      (fun a => a.id = id && a.outcome.isOk) ≤ 1 := by
  have start : ({} : Clones).ShownBy {} := ⟨rfl, rfl, fun p => by simp⟩
  obtain ⟨_, _, vs, hmoves⟩ := leads_run settings start (heldBy_start {}) ts
  have steady := (Manager.steady_empty.moves settings vs).1
  rw [hmoves, List.nil_append] at steady
  exact steady.countP_started_le_one id

end Moves

end Clones

end JobKeeper
