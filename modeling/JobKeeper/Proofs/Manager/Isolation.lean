/-
  File:      JobKeeper/Proofs/Manager/Isolation.lean
  Subject:   A pass acts on each job by itself.

  The visits of a pass share one registry and one state of the world. If the cluster answers by the
  text of a statement and the clock stands still, nothing of one job reaches another one:

  * `standing_foldl_visitJob`: where the visits of many jobs leave one job is decided by the visits
    of that job alone;
  * `summary_foldl_visitJob`: of jobs with different ids each adds to the numbers by itself;
  * `acts_on_each_job`: so two passes that agree on one job leave it at the same place, and the
    order of different jobs does not matter.
-/
import JobKeeper.Proofs.Manager.Course
import JobKeeper.Proofs.Manager.Logs
import Mathlib.Data.List.Perm.Basic

namespace JobKeeper

/-! ## 1. Worlds in which only the text counts -/

/-- The cluster answers by the text of a statement, and the clock stands still. -/
structure World.Still {σ : Type} (world : World σ)
    (answer : String → Except GatewayError OperationResult) (now : Instant) : Prop where
  answersBy : world.toExecutor.AnswersBy answer
  clock : ∀ state, world.now state = now

/-- A world without a state that is still. Its source lists what it is given. -/
def stillWorld (answer : String → Except GatewayError OperationResult) (now : Instant)
    (answers : Answers) : World Unit where
  execute sql _ := (answer sql, ())
  fetch kind _ := (answers kind, ())
  now _ := now

theorem still_stillWorld (answer : String → Except GatewayError OperationResult) (now : Instant)
    (answers : Answers) : (stillWorld answer now answers).Still answer now :=
  ⟨fun _ _ => rfl, fun _ => rfl⟩

/-- The attempt on a job where only the text counts. -/
def stillAttempt (answer : String → Except GatewayError OperationResult) (now : Instant)
    (settings : ManagerSettings) (job : Job) : Attempt :=
  attemptOn (stillWorld answer now fun _ => .ok []) settings job ()

/-- What a job adds to the numbers of a pass, by whether it runs in a registry. -/
def PassSummary.tally (answer : String → Except GatewayError OperationResult) (now : Instant)
    (settings : ManagerSettings) (registry : Registry) (s : PassSummary) (job : Job) :
    PassSummary :=
  if registry.isRunning job.trackingId then { s with alreadyRunning := s.alreadyRunning + 1 }
  else s.count (stillAttempt answer now settings job).outcome

section Still

variable {σ : Type} {world : World σ} {answer : String → Except GatewayError OperationResult}
  {now : Instant} (h : world.Still answer now) (settings : ManagerSettings)

include h

/-- In a still world an attempt comes to the same in every state. -/
theorem outcome_attemptOn (job : Job) (state : σ) :
    let a := attemptOn world settings job state
    a.outcome = (stillAttempt answer now settings job).outcome ∧
      a.stamp = (stillAttempt answer now settings job).stamp := by
  refine ⟨?_, h.clock state⟩
  unfold attemptOn stillAttempt
  rw [h.clock]
  exact outcome_compile_eq h.answersBy (still_stillWorld answer now _).answersBy job _ state ()

theorem visited_attemptOn (s : Standing) (pass : Nat) (job : Job) (state : σ) :
    s.visited pass (attemptOn world settings job state) =
      s.visited pass (stillAttempt answer now settings job) := by
  obtain ⟨ho, hstamp⟩ := outcome_attemptOn h settings job state
  unfold Standing.visited
  rw [ho, hstamp]
  rfl

/-! ## 2. One job among many -/

/-- **The visits of many jobs leave a job where the visits of it alone leave it.** -/
theorem standing_foldl_visitJob (jobs : List Job) (r : PassReport σ) (id : String) :
    (jobs.foldl (visitJob world settings) r).registry.standing id =
      (jobs.filter (·.trackingId = id)).foldl
        (fun s job => s.visited r.summary.pass (stillAttempt answer now settings job))
        (r.registry.standing id) := by
  induction jobs generalizing r with
  | nil => rfl
  | cons job jobs ih =>
    rw [List.foldl_cons, ih, visitJob_pass, standing_visitJob, visited_attemptOn h]
    by_cases hid : job.trackingId = id
    · rw [if_pos hid, List.filter_cons_of_pos (by simpa using hid), List.foldl_cons]
    · rw [if_neg hid, List.filter_cons_of_neg (by simpa using hid)]

/-- **Where the visits of a pass leave a job**: it depends on where the job stood, on whether its
    kind was fetched, and on its own listings. -/
theorem standing_visited {pass : Nat} {registry : Registry} (hs : registry.Sound pass) (state : σ)
    (kind : JobKind) (name : String) :
    (visited world settings pass registry state).registry.standing (kind.namespaced name) =
      ((world.answers state).desired.filter (·.trackingId = kind.namespaced name)).foldl
        (fun s job => s.visited pass (stillAttempt answer now settings job))
        ((registry.standing (kind.namespaced name)).refetched pass
          ((world.answers state).failed kind)) := by
  rw [visited, standing_foldl_visitJob h, standing_fetched world hs, fetched_summary]

/-! ## 3. The numbers -/

theorem tally_visitJob (r : PassReport σ) (job : Job) :
    (visitJob world settings r job).summary =
      r.summary.tally answer now settings r.registry job := by
  rw [summary_visitJob, (outcome_attemptOn h settings job r.state).1]
  rfl

/-- **Of jobs with different ids each adds to the numbers by itself**: what was running before the
    first visit decides. -/
theorem summary_foldl_visitJob {jobs : List Job} (hn : (jobs.map Job.trackingId).Nodup)
    (r : PassReport σ) :
    (jobs.foldl (visitJob world settings) r).summary =
      jobs.foldl (PassSummary.tally answer now settings r.registry) r.summary := by
  induction jobs generalizing r with
  | nil => rfl
  | cons job jobs ih =>
    obtain ⟨hnew, hn⟩ := List.nodup_cons.mp hn
    rw [List.foldl_cons, List.foldl_cons, ih hn, tally_visitJob h]
    refine List.foldl_ext _ _ _ fun s job' hjob' => ?_
    have hne : job.trackingId ≠ job'.trackingId := by
      intro he
      exact hnew (he ▸ List.mem_map_of_mem hjob')
    have same : (visitJob world settings r job).registry.isRunning job'.trackingId =
        r.registry.isRunning job'.trackingId := by
      rw [Registry.isRunning_eq, standing_visitJob, if_neg hne, Registry.isRunning_eq]
    unfold PassSummary.tally
    rw [same]

end Still

/-! ## 4. Two passes -/

/-- Of a list in another order, the elements with one image are the same, if no two have one. -/
theorem filter_eq_of_perm {α : Type} {f : α → String} {l l' : List α} (hp : l.Perm l')
    (hn : (l.map f).Nodup) (b : String) : l.filter (f · = b) = l'.filter (f · = b) := by
  have few : (l.filter (f · = b)).length ≤ 1 := by
    have hn' : ((l.filter (f · = b)).map f).Nodup := hn.sublist (List.filter_sublist.map f)
    have hb : ∀ x ∈ (l.filter (f · = b)).map f, x = b := by
      intro x hx
      obtain ⟨a, ha, rfl⟩ := List.mem_map.mp hx
      exact of_decide_eq_true (List.mem_filter.mp ha).2
    rw [List.eq_replicate_of_mem hb, List.nodup_replicate, List.length_map] at hn'
    exact hn'
  have hp' := hp.filter (f · = b)
  cases hl : l.filter (f · = b) with
  | nil =>
    rw [hl] at hp'
    exact hp'.nil_eq
  | cons a rest =>
    rw [hl] at hp' few
    obtain rfl : rest = [] := List.eq_nil_of_length_eq_zero (by simpa using few)
    exact (List.perm_singleton.mp hp'.symm).symm

theorem PassSummary.tally_comm (answer : String → Except GatewayError OperationResult)
    (now : Instant) (settings : ManagerSettings) (registry : Registry) (s : PassSummary)
    (job job' : Job) :
    (s.tally answer now settings registry job).tally answer now settings registry job' =
      (s.tally answer now settings registry job').tally answer now settings registry job := by
  unfold tally
  cases registry.isRunning job.trackingId <;> cases registry.isRunning job'.trackingId <;>
    cases (stillAttempt answer now settings job).outcome <;>
    cases (stillAttempt answer now settings job').outcome <;> rfl

section Two

variable {σ τ : Type} {world : World σ} {world' : World τ}
  {answer : String → Except GatewayError OperationResult} {now : Instant}
  (h : world.Still answer now) (h' : world'.Still answer now) (settings : ManagerSettings)

include h h'

/-- **Different jobs in another order** are left at the same places, with the same numbers. -/
theorem visited_perm {pass : Nat} {registry : Registry} (hs : registry.Sound pass) (state : σ)
    (state' : τ) (hn : ((world.answers state).desired.map Job.trackingId).Nodup)
    (hf : ∀ kind, (world.answers state).failed kind = (world'.answers state').failed kind)
    (hp : ∀ kind, ((world.answers state).jobs kind).Perm ((world'.answers state').jobs kind)) :
    (visited world settings pass registry state).registry =
        (visited world' settings pass registry state').registry ∧
      (visited world settings pass registry state).summary =
        (visited world' settings pass registry state').summary := by
  have perm : (world.answers state).desired.Perm (world'.answers state').desired :=
    (hp .behavior).append (hp .rule)
  have hn' : ((world'.answers state').desired.map Job.trackingId).Nodup :=
    (perm.map Job.trackingId).nodup_iff.mp hn
  constructor
  · apply Registry.eq_of_standing
    intro id
    by_cases hid : ∃ (kind : JobKind) (name : String), kind.namespaced name = id
    · obtain ⟨kind, name, rfl⟩ := hid
      rw [standing_visited h settings hs, standing_visited h' settings hs, hf,
        filter_eq_of_perm perm hn]
    · rw [(sound_visited world settings pass state hs (Nat.le_refl _) id).eq_empty hid,
        (sound_visited world' settings pass state' hs (Nat.le_refl _) id).eq_empty hid]
  · have fetches : (world.answers state).fetchErrors = (world'.answers state').fetchErrors := by
      rw [Answers.fetchErrors, Answers.fetchErrors, funext hf]
    rw [visited, visited, summary_foldl_visitJob h settings hn,
      summary_foldl_visitJob h' settings hn', fetched_registry, fetched_registry, fetched_summary,
      fetched_summary, hf, hf, fetches]
    exact perm.foldl_eq' (fun job _ job' _ s =>
      PassSummary.tally_comm answer now settings _ s job job') _

end Two

namespace Course

/-- **A pass acts on each job by itself.** Take two courses of as many passes and one more pass of
    each, in worlds where the cluster answers alike by the text of a statement and the clock stands
    still at the same time. If they agree on where a job stands, on whether its kind can be
    fetched, and on its own listings in their order, they leave it at the same place, whatever
    else is listed. And if a course is continued by two passes that list the same jobs of
    different ids, in another order within each kind, both come to the same registry and the same
    numbers. -/
theorem acts_on_each_job {ρ ρ' σ τ : Type} (past past' settings : ManagerSettings)
    (turns : List (Turn ρ)) (turns' : List (Turn ρ')) (t : Turn σ) (t' : Turn τ)
    {answer : String → Except GatewayError OperationResult} {now : Instant}
    (h : t.world.Still answer now) (h' : t'.world.Still answer now) :
    let c := run past turns
    let c' := run past' turns'
    (turns.length = turns'.length → ∀ kind name,
      c.standing (kind.namespaced name) = c'.standing (kind.namespaced name) →
      t.answers.failed kind = t'.answers.failed kind →
      t.answers.desired.filter (·.trackingId = kind.namespaced name) =
        t'.answers.desired.filter (·.trackingId = kind.namespaced name) →
      (c.pass settings t).standing (kind.namespaced name) =
        (c'.pass settings t').standing (kind.namespaced name)) ∧
    ((t.answers.desired.map Job.trackingId).Nodup →
      (∀ kind, t.answers.failed kind = t'.answers.failed kind ∧
        (t.answers.jobs kind).Perm (t'.answers.jobs kind)) →
      (c.pass settings t).manager.registry = (c.pass settings t').manager.registry ∧
        (c.report settings t).summary = (c.report settings t').summary) := by
  intro c c'
  have sound := (steady_run past turns).sound.mono (Nat.le_succ _)
  have sound' := (steady_run past' turns').sound.mono (Nat.le_succ _)
  constructor
  · intro hlen kind name hs hf hl
    have same : c.manager.passes = c'.manager.passes := by
      rw [passes_run, passes_run, hlen]
    rw [standing_pass, standing_pass, visits, visits, standing_visited h settings sound,
      standing_visited h' settings sound']
    show (List.foldl _ (Standing.refetched (c.standing _) _ (t.answers.failed kind))
      (t.answers.desired.filter _)).swept _ _ = _
    rw [hs, hf, hl, same]
    rfl
  · intro hn both
    obtain ⟨hreg, hsum⟩ := visited_perm h h' settings sound t.state t'.state
      hn (fun kind => (both kind).1) (fun kind => (both kind).2)
    constructor
    · apply Registry.eq_of_standing
      intro id
      show (c.pass settings t).standing id = (c.pass settings t').standing id
      rw [standing_pass, standing_pass, visits, visits, hreg]
    · show (runPass t.world settings _ _ t.state).summary =
        (runPass t'.world settings _ _ t'.state).summary
      rw [summary_runPass, summary_runPass, droppedIds, droppedIds, hreg, hsum]

/-- A rule is listed before one without a plan, after it, and alone while the behavior jobs cannot
    be fetched: it runs in the same way in all three cases. -/
theorem acts_on_each_job_rule_r :
    let turn (answers : Answers) : Turn Unit :=
      ⟨stillWorld (fun _ => .ok ⟨"PAYLOAD", .null, some "job"⟩) ⟨0, 0⟩ answers, ()⟩
    let first := turn (rulesOnly [sampleRule, blankRule])
    let second := turn (rulesOnly [blankRule, sampleRule])
    let alone := turn fun kind =>
      if kind = .rule then .ok [sampleRule] else .error (.missingField "rules" "data")
    let c := run {} ([] : List (Turn Unit))
    (c.pass {} first).standing "rule_r" = (c.pass {} alone).standing "rule_r" ∧
      ((c.pass {} alone).standing "rule_r").running.isSome = true ∧
      (c.pass {} first).manager.registry = (c.pass {} second).manager.registry ∧
      (c.report {} first).summary = (c.report {} second).summary := by
  intro turn first second alone c
  have still (answers : Answers) := still_stillWorld
    (fun _ => .ok ⟨"PAYLOAD", .null, some "job"⟩) ⟨0, 0⟩ answers
  have others := acts_on_each_job {} {} {} ([] : List (Turn Unit)) ([] : List (Turn Unit)) first
    alone (still _) (still _)
  have order := acts_on_each_job {} {} {} ([] : List (Turn Unit)) ([] : List (Turn Unit)) first
    second (still _) (still _)
  have swapped : ∀ kind, first.answers.failed kind = second.answers.failed kind ∧
      (first.answers.jobs kind).Perm (second.answers.jobs kind) := by
    intro kind
    cases kind with
    | behavior => exact ⟨rfl, .nil⟩
    | rule => exact ⟨rfl, .swap _ _ _⟩
  exact ⟨others.1 rfl .rule "r" rfl rfl rfl, by decide +kernel, order.2 (by decide) swapped⟩

end Course

end JobKeeper
