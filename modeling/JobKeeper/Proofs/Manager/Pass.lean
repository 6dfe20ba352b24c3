/-
  File:      JobKeeper/Proofs/Manager/Pass.lean
  Subject:   A pass in its three parts: the fetches, the visits of the desired jobs, and the close.

  * `Answers`, `World.answers`: what the source answers in a pass, and what is desired by it;
  * `runPass_eq`: a pass is the close of the visits of the desired jobs after the fetches;
  * `standing_fetched`, `standing_visitJob`, `standing_runPass`: what each part makes of the
    standing of one job;
  * `visitJob_of_running`, `visitJob_of_idle`: all that a visit can do;
  * `exists_visit_of_attempt`: the visit that an attempt was made in.
-/
import JobKeeper.Proofs.Manager.Standing
import Mathlib.Data.List.Basic
import Mathlib.Data.List.Induction

namespace JobKeeper

/-! ## 1. The answers of the source -/

/-- What the source answers to the two fetches of a pass. -/
abbrev Answers := JobKind → Except RemoteError (List Job)

namespace Answers

variable (a : Answers)

/-- Whether the jobs of a kind could not be fetched. -/
def failed (kind : JobKind) : Bool := !(a kind).isOk

/-- The jobs listed for a kind; none if they could not be fetched. -/
def jobs (kind : JobKind) : List Job := (a kind).toOption.getD []

/-- The desired jobs in the order in which a pass looks at them. -/
def desired : List Job := a.jobs .behavior ++ a.jobs .rule

/-- The job is among the desired ones. -/
def Lists (id : String) : Prop := ∃ job ∈ a.desired, job.trackingId = id

/-- How many kinds could not be fetched. -/
def fetchErrors : Nat := [JobKind.behavior, JobKind.rule].countP a.failed

end Answers

/-- The answers of the source to a pass that begins in a state of the world. -/
def World.answers {σ : Type} (world : World σ) (state : σ) : Answers
  | .behavior => (world.fetch .behavior state).1
  | .rule => (world.fetch .rule (world.fetch .behavior state).2).1

/-! ## 2. The fetches -/

/-- The registry after a fetch of a kind: if it failed, all entries of the kind count as seen. -/
def Registry.refetched (r : Registry) (kind : JobKind) (pass : Nat) (failed : Bool) : Registry :=
  if failed then r.touchKind kind pass else r

section Fetch

variable {σ : Type} (world : World σ)

/-- What has become of a pass once both kinds were fetched. -/
def fetched (pass : Nat) (registry : Registry) (state : σ) : PassReport σ :=
  (fetchKind world .rule (fetchKind world .behavior (.begin pass registry state)).2).2

section One

variable (kind : JobKind) (r : PassReport σ)

theorem fetchKind_jobs :
    (fetchKind world kind r).1 = (world.fetch kind r.state).1.toOption.getD [] := by
  unfold fetchKind
  cases hf : world.fetch kind r.state with
  | mk answer state => cases answer <;> rfl

theorem fetchKind_state :
    (fetchKind world kind r).2.state = (world.fetch kind r.state).2 := by
  unfold fetchKind
  cases hf : world.fetch kind r.state with
  | mk answer state => cases answer <;> rfl

theorem fetchKind_registry :
    (fetchKind world kind r).2.registry =
      r.registry.refetched kind r.summary.pass (!(world.fetch kind r.state).1.isOk) := by
  unfold fetchKind
  cases hf : world.fetch kind r.state with
  | mk answer state => cases answer <;> rfl

theorem fetchKind_summary :
    (fetchKind world kind r).2.summary =
      { r.summary with
        fetchErrors := r.summary.fetchErrors +
          if (!(world.fetch kind r.state).1.isOk) = true then 1 else 0 } := by
  unfold fetchKind
  cases hf : world.fetch kind r.state with
  | mk answer state => cases answer <;> rfl

theorem fetchKind_attempts : (fetchKind world kind r).2.attempts = r.attempts := by
  unfold fetchKind
  cases hf : world.fetch kind r.state with
  | mk answer state => cases answer <;> rfl

end One

variable (pass : Nat) (registry : Registry) (state : σ)

theorem fetched_registry :
    (fetched world pass registry state).registry =
      (registry.refetched .behavior pass ((world.answers state).failed .behavior)).refetched
        .rule pass ((world.answers state).failed .rule) := by
  rw [fetched, fetchKind_registry, fetchKind_summary, fetchKind_registry, fetchKind_state]
  rfl

theorem fetched_summary :
    (fetched world pass registry state).summary =
      { pass, fetchErrors := (world.answers state).fetchErrors } := by
  rw [fetched, fetchKind_summary, fetchKind_summary, fetchKind_state]
  show ({ pass, fetchErrors := 0
      + (if (world.answers state).failed .behavior = true then 1 else 0)
      + (if (world.answers state).failed .rule = true then 1 else 0) } : PassSummary) = _
  congr 1
  rw [Answers.fetchErrors, List.countP_cons, List.countP_cons, List.countP_nil]
  omega

theorem fetched_attempts : (fetched world pass registry state).attempts = [] := by
  rw [fetched, fetchKind_attempts, fetchKind_attempts]
  rfl

end Fetch

namespace Standing

/-- The standing after the fetches, by whether that of its own kind failed. -/
def refetched (s : Standing) (pass : Nat) (failed : Bool) : Standing :=
  if failed then ⟨s.running.map (·.seenIn pass), s.failed.map (·.seenIn pass)⟩ else s

/-- All entries of a sound standing are of the kind of its id, so the fetch of the other kind does
    not matter. -/
theorem Sound.seenIfOf_eq {latest : Nat} {kind : JobKind} {name : String} {s : Standing}
    (h : s.Sound latest (kind.namespaced name)) (kind' : JobKind) (pass : Nat) :
    s.seenIfOf kind' pass = s.refetched pass (kind' = kind) := by
  have own : ∀ e, s.Holds e → e.kind = kind := by
    intro e he
    obtain ⟨_, name', hname⟩ := h.own e he
    exact (JobKind.namespaced_inj hname).1
  have side : ∀ o : Option JobEntry, (∀ e, o = some e → s.Holds e) →
      o.map (Registry.seenIfOf kind' pass) =
        if kind' = kind then o.map (·.seenIn pass) else o := by
    intro o ho
    cases o with
    | none => split <;> rfl
    | some e =>
      have hk := own e (ho e rfl)
      simp only [Option.map_some, Registry.seenIfOf, hk, eq_comm (a := kind)]
      split <;> rfl
  unfold Standing.seenIfOf refetched
  rw [side s.running fun e he => Or.inl he, side s.failed fun e he => Or.inr he]
  by_cases hk : kind' = kind <;> simp [hk]

end Standing

namespace Registry

theorem Sound.refetched {latest : Nat} {r : Registry} (h : r.Sound latest) (kind : JobKind)
    (failed : Bool) : (r.refetched kind latest failed).Sound latest := by
  cases failed with
  | false => exact h
  | true => exact h.touchKind kind

/-- A fetch acts on the jobs of its own kind only. -/
theorem Sound.standing_refetched {latest : Nat} {r : Registry} (h : r.Sound latest)
    (kind kind' : JobKind) (name : String) (pass : Nat) (failed : Bool) :
    (r.refetched kind' pass failed).standing (kind.namespaced name) =
      if kind' = kind then (r.standing (kind.namespaced name)).refetched pass failed
      else r.standing (kind.namespaced name) := by
  cases failed with
  | false => split <;> rfl
  | true =>
    show (r.touchKind kind' pass).standing (kind.namespaced name) = _
    rw [standing_touchKind, (h _).seenIfOf_eq]
    by_cases hk : kind' = kind <;> simp [hk, Standing.refetched]

end Registry

/-- **What the fetches make of the standing of a job.** -/
theorem standing_fetched {σ : Type} (world : World σ) {pass : Nat} {registry : Registry}
    (h : registry.Sound pass) (state : σ) (kind : JobKind) (name : String) :
    (fetched world pass registry state).registry.standing (kind.namespaced name) =
      (registry.standing (kind.namespaced name)).refetched pass
        ((world.answers state).failed kind) := by
  have hb := h.refetched .behavior ((world.answers state).failed .behavior)
  rw [fetched_registry, hb.standing_refetched, h.standing_refetched]
  cases kind <;> rfl

/-! ## 3. The visits -/

/-- The standing after a visit in which `a` is what an attempt comes to. -/
def Standing.visited (s : Standing) (pass : Nat) (a : Attempt) : Standing :=
  match s.running with
  | some e => { s with running := some (e.seenIn pass) }
  | none => .recorded a.id a.kind a.stamp pass a.outcome

section Visit

variable {σ : Type} (world : World σ) (settings : ManagerSettings)

/-- The attempt that is made for a job in a state of the world. -/
def attemptOn (job : Job) (state : σ) : Attempt :=
  let stamp := world.now state
  let run := job.compile ⟨settings.groupId, stamp.toDateTime⟩ world.toExecutor state
  ⟨job.trackingId, job.kind, stamp, run.outcome, run.submitted⟩

section One

variable {r : PassReport σ} {job : Job}

/-- A running job is marked as seen, and nothing else happens. -/
theorem visitJob_of_running (h : r.registry.isRunning job.trackingId = true) :
    visitJob world settings r job =
      { r with
        registry := r.registry.touch job.trackingId r.summary.pass
        summary := { r.summary with alreadyRunning := r.summary.alreadyRunning + 1 } } := by
  unfold visitJob
  exact if_pos h

/-- Any other job is attempted, and the outcome is recorded in place of an earlier failure. -/
theorem visitJob_of_idle (h : r.registry.isRunning job.trackingId = false) :
    let a := attemptOn world settings job r.state
    (visitJob world settings r job).registry =
        (r.registry.clearFailed a.id).2.record a.id a.kind a.stamp r.summary.pass a.outcome ∧
      (visitJob world settings r job).summary = r.summary.count a.outcome ∧
      (visitJob world settings r job).attempts = r.attempts ++ [a] := by
  intro a
  unfold visitJob
  rw [if_neg (by simp [h])]
  exact ⟨rfl, rfl, rfl⟩

variable (r job)

theorem summary_visitJob :
    (visitJob world settings r job).summary =
      if r.registry.isRunning job.trackingId then
        { r.summary with alreadyRunning := r.summary.alreadyRunning + 1 }
      else r.summary.count (attemptOn world settings job r.state).outcome := by
  cases h : r.registry.isRunning job.trackingId with
  | true => rw [visitJob_of_running world settings h, if_pos rfl]
  | false => rw [(visitJob_of_idle world settings h).2.1, if_neg (by simp)]

theorem visitJob_pass : (visitJob world settings r job).summary.pass = r.summary.pass := by
  rw [summary_visitJob]
  split
  · rfl
  · cases (attemptOn world settings job r.state).outcome <;> rfl

/-- **What a visit makes of the standing of a job.** -/
theorem standing_visitJob (id : String) :
    (visitJob world settings r job).registry.standing id =
      if job.trackingId = id then
        (r.registry.standing id).visited r.summary.pass (attemptOn world settings job r.state)
      else r.registry.standing id := by
  cases h : r.registry.isRunning job.trackingId with
  | true =>
    rw [visitJob_of_running world settings h, Registry.standing_touch]
    by_cases hid : job.trackingId = id
    · subst hid
      rw [if_pos rfl, if_pos rfl]
      rw [Registry.isRunning_eq] at h
      obtain ⟨e, he⟩ := Option.isSome_iff_exists.mp h
      simp only [Standing.seenIn, Standing.visited, he]
    · rw [if_neg hid, if_neg hid]
  | false =>
    rw [(visitJob_of_idle world settings h).1, Registry.standing_record]
    show (if job.trackingId = id then _ else _) = _
    by_cases hid : job.trackingId = id
    · subst hid
      rw [if_pos rfl, if_pos rfl]
      rw [Registry.isRunning_eq, Option.isSome_eq_false_iff, Option.isNone_iff_eq_none] at h
      simp only [Standing.visited, h]
    · rw [if_neg hid, if_neg hid]
      exact (r.registry.standing_clearFailed _ _).trans (if_neg hid)

theorem attempts_visitJob :
    (visitJob world settings r job).attempts =
      r.attempts ++
        if r.registry.isRunning job.trackingId then []
        else [attemptOn world settings job r.state] := by
  cases h : r.registry.isRunning job.trackingId with
  | true =>
    rw [visitJob_of_running world settings h]
    simp
  | false =>
    rw [(visitJob_of_idle world settings h).2.2]
    simp

variable {r} in
theorem sound_visitJob (h : r.registry.Sound r.summary.pass) :
    (visitJob world settings r job).registry.Sound r.summary.pass := by
  cases hr : r.registry.isRunning job.trackingId with
  | true =>
    rw [visitJob_of_running world settings hr]
    exact h.touch job.trackingId
  | false =>
    rw [(visitJob_of_idle world settings hr).1]
    exact (h.clearFailed job.trackingId).record ⟨job.id, rfl⟩ _ _

end One

variable (jobs : List Job) (r : PassReport σ)

theorem foldl_visitJob_pass :
    (jobs.foldl (visitJob world settings) r).summary.pass = r.summary.pass := by
  induction jobs generalizing r with
  | nil => rfl
  | cons job jobs ih => rw [List.foldl_cons, ih, visitJob_pass]

/-- The visits append their attempts to those made before. -/
theorem attempts_foldl_visitJob :
    r.attempts <+: (jobs.foldl (visitJob world settings) r).attempts := by
  induction jobs generalizing r with
  | nil => exact List.prefix_refl _
  | cons job jobs ih =>
    refine List.IsPrefix.trans ?_ (ih (visitJob world settings r job))
    rw [attempts_visitJob]
    exact List.prefix_append _ _

variable {r} in
theorem sound_foldl_visitJob (h : r.registry.Sound r.summary.pass) :
    (jobs.foldl (visitJob world settings) r).registry.Sound r.summary.pass := by
  induction jobs generalizing r with
  | nil => exact h
  | cons job jobs ih =>
    rw [List.foldl_cons, ← visitJob_pass world settings r job]
    apply ih
    rw [visitJob_pass]
    exact sound_visitJob world settings job h

end Visit

/-- Where one more entry stands in a list that is cut before an entry. -/
theorem concat_eq_append_cons {α : Type} {l before after : List α} {x a : α}
    (h : l ++ [x] = before ++ a :: after) :
    (after = [] ∧ l = before ∧ x = a) ∨ ∃ later, after = later ++ [x] ∧ l = before ++ a :: later := by
  rcases List.eq_nil_or_concat' after with rfl | ⟨later, y, rfl⟩
  · obtain ⟨hl, hx⟩ := List.append_inj' h rfl
    exact Or.inl ⟨rfl, hl, List.singleton_inj.mp hx⟩
  · rw [← List.cons_append, ← List.append_assoc] at h
    obtain ⟨hl, hx⟩ := List.append_inj' h rfl
    obtain rfl := List.singleton_inj.mp hx
    exact Or.inr ⟨later, rfl, hl⟩

/-- **The visit that an attempt was made in**: the job's turn came when the attempts before it had
    been made, and it did not run. -/
theorem exists_visit_of_attempt {σ : Type} (world : World σ) (settings : ManagerSettings)
    {jobs : List Job} {r : PassReport σ} (hr : r.attempts = []) {earlier later : List Attempt}
    {a : Attempt}
    (h : (jobs.foldl (visitJob world settings) r).attempts = earlier ++ a :: later) :
    ∃ done job waiting, jobs = done ++ job :: waiting ∧
      (done.foldl (visitJob world settings) r).attempts = earlier ∧
      (done.foldl (visitJob world settings) r).registry.isRunning job.trackingId = false ∧
      a = attemptOn world settings job (done.foldl (visitJob world settings) r).state := by
  induction jobs using List.reverseRecOn generalizing later with
  | nil =>
    rw [List.foldl_nil, hr] at h
    simp at h
  | append_singleton jobs job ih =>
    rw [List.foldl_append, List.foldl_cons, List.foldl_nil, attempts_visitJob] at h
    split at h
    · rw [List.append_nil] at h
      obtain ⟨done, job', waiting, hjobs, hdone⟩ := ih h
      exact ⟨done, job', waiting ++ [job], by simp [hjobs], hdone⟩
    · next hidle =>
      rcases concat_eq_append_cons h with ⟨_, hearlier, ha⟩ | ⟨later', _, hbefore⟩
      · exact ⟨jobs, job, [], rfl, hearlier, by simpa using hidle, ha.symm⟩
      · obtain ⟨done, job', waiting, hjobs, hdone⟩ := ih hbefore
        exact ⟨done, job', waiting ++ [job], by simp [hjobs], hdone⟩

/-! ## 4. The whole pass -/

section Whole

variable {σ : Type} (world : World σ) (settings : ManagerSettings) (pass : Nat)
  (registry : Registry) (state : σ)

/-- What has become of a pass once all desired jobs were visited. -/
def visited : PassReport σ :=
  (world.answers state).desired.foldl (visitJob world settings)
    (fetched world pass registry state)

/-- **A pass is the close of its visits after its fetches.** -/
theorem runPass_eq :
    runPass world settings pass registry state =
      closePass settings (distinctCount (world.answers state).desired)
        (visited world settings pass registry state) := by
  have hb : (fetchKind world .behavior (.begin pass registry state)).1 =
      (world.answers state).jobs .behavior := fetchKind_jobs world .behavior _
  have hr : (fetchKind world .rule (fetchKind world .behavior (.begin pass registry state)).2).1 =
      (world.answers state).jobs .rule := by
    rw [fetchKind_jobs, fetchKind_state]
    rfl
  unfold visited Answers.desired
  rw [← hb, ← hr]
  rfl

theorem visited_pass : (visited world settings pass registry state).summary.pass = pass := by
  rw [visited, foldl_visitJob_pass, fetched_summary]

/-- **The standing of a job after a pass**: that after the visits, swept of a stale failure. -/
theorem standing_runPass (id : String) :
    (runPass world settings pass registry state).registry.standing id =
      ((visited world settings pass registry state).registry.standing id).swept pass
        settings.retentionPasses := by
  rw [runPass_eq]
  unfold closePass
  rw [visited_pass]
  exact Registry.standing_evictFailed _ _ _ _

theorem attempts_runPass :
    (runPass world settings pass registry state).attempts =
      (visited world settings pass registry state).attempts := by
  rw [runPass_eq]
  rfl

variable {registry} in
theorem sound_fetched {latest : Nat} (h : registry.Sound latest) (hle : latest ≤ pass) :
    (fetched world pass registry state).registry.Sound pass := by
  rw [fetched_registry]
  exact ((h.mono hle).refetched _ _).refetched _ _

variable {registry} in
theorem sound_visited {latest : Nat} (h : registry.Sound latest) (hle : latest ≤ pass) :
    (visited world settings pass registry state).registry.Sound pass := by
  have hf := sound_fetched world pass state h hle
  have hp : (fetched world pass registry state).summary.pass = pass := by rw [fetched_summary]
  have hv := sound_foldl_visitJob world settings (world.answers state).desired
    (r := fetched world pass registry state) (hp.symm ▸ hf)
  rwa [hp] at hv

end Whole

end JobKeeper
