/-
  File:      JobKeeper/Proofs/Manager/Stamps.lean
  Subject:   The stamp of an attempt: read once, when its turn comes, and kept from then on.

  One reading of the clock serves the registry, the plan, and through the plan the text of a rule's
  insert. It is taken before anything of the attempt is known, and nothing but a later attempt for
  the same job takes its place.

  * `Begins.of_agrees`: what the cluster answers to an attempt does not change its stamp;
  * `RuleJob.readItems_insert`: the time of alert in the insert of a rule;
  * `Course.clockAfter_le_stamp`: an attempt is stamped after all earlier ones are over;
  * `Registry.StampedBy`, `Standing.stamps`: the entries have the stamps of the latest attempts, and
    being seen does not change a stamp;
  * `Course.attempts_stamped_at_start`: the stamps of all attempts of a course.
-/
import JobKeeper.Proofs.Manager.Timeline
import JobKeeper.Proofs.Plan.AlertRow

namespace JobKeeper

/-! ## 1. What a run depends on -/

section Agreement

variable {σ : Type}

/-- Another cluster answers each of these statements in the same way, in the state in which the
    ones before it leave the first cluster. -/
def Executor.AgreesOn (executor executor' : Executor σ) (statements : List String) (state : σ) :
    Prop :=
  ∀ done sql, done ++ [sql] <+: statements →
    executor'.execute sql (executor.after done state) =
      executor.execute sql (executor.after done state)

theorem Executor.AgreesOn.of_prefix {executor executor' : Executor σ}
    {statements first : List String} {state : σ}
    (h : executor.AgreesOn executor' statements state) (hle : first <+: statements) :
    executor.AgreesOn executor' first state :=
  fun done sql hdone => h done sql (hdone.trans hle)

theorem Executor.AgreesOn.later {executor executor' : Executor σ} {earlier later : List String}
    {state : σ} (h : executor.AgreesOn executor' (earlier ++ later) state) :
    executor.AgreesOn executor' later (executor.after earlier state) := by
  intro done sql hdone
  rw [← Executor.after_append]
  refine h (earlier ++ done) sql ?_
  rw [List.append_assoc]
  exact (List.prefix_append_right_inj earlier).mpr hdone

/-- **A run depends on the answers to its own statements only.** -/
theorem runSteps_congr {executor executor' : Executor σ} {pipelineName : String}
    {steps : List Step} {created : List String} {jobId : Option String} {state : σ}
    (h : executor.AgreesOn executor'
      (runSteps executor pipelineName steps created jobId state).submitted state) :
    runSteps executor' pipelineName steps created jobId state =
      runSteps executor pipelineName steps created jobId state := by
  induction steps generalizing created jobId state with
  | nil => rfl
  | cons step rest ih =>
    cases hx : executor.execute step.sql state with
    | mk answer next =>
      cases answer with
      | error source =>
        rw [runSteps_of_error hx] at h ⊢
        have hfirst : executor'.execute step.sql state = executor.execute step.sql state :=
          h [] step.sql (List.prefix_refl _)
        rw [runSteps_of_error (hfirst.trans hx)]
      | ok result =>
        rw [runSteps_of_ok hx] at h ⊢
        have hfirst : executor'.execute step.sql state = executor.execute step.sql state :=
          h [] step.sql (List.prefix_append [step.sql] _)
        have hnext : executor.after [step.sql] state = next := by
          show (executor.execute step.sql state).2 = next
          rw [hx]
        have hlater := @Executor.AgreesOn.later σ executor executor' [step.sql] _ state h
        rw [hnext] at hlater
        rw [runSteps_of_ok (hfirst.trans hx)]
        dsimp only
        rw [ih hlater]

theorem compile_congr {executor executor' : Executor σ} {job : Job} {ctx : PlanContext} {state : σ}
    (h : executor.AgreesOn executor' (job.compile ctx executor state).submitted state) :
    job.compile ctx executor' state = job.compile ctx executor state := by
  unfold Job.compile at h ⊢
  cases hp : job.plan ctx with
  | error error => rfl
  | ok plan =>
    rw [hp] at h
    exact runSteps_congr h

/-- **In another turn the same goes on up to these attempts**: the clock is the same, and so are the
    answers of the source and those to the statements of the attempts. What comes after them may be
    anything. -/
structure Turn.AgreesUpTo (t t' : Turn σ) (attempts : List Attempt) : Prop where
  state : t'.state = t.state
  now : t'.world.now = t.world.now
  behaviors : t'.world.fetch .behavior t.state = t.world.fetch .behavior t.state
  rules : t'.world.fetch .rule (t.world.fetch .behavior t.state).2 =
    t.world.fetch .rule (t.world.fetch .behavior t.state).2
  statements : t.world.toExecutor.AgreesOn t'.world.toExecutor
    (attempts.flatMap (·.submitted)) (t.stateAfter [])

theorem Turn.AgreesUpTo.answers {t t' : Turn σ} {attempts : List Attempt}
    (h : t.AgreesUpTo t' attempts) : t'.answers = t.answers := by
  funext kind
  cases kind with
  | behavior =>
    show (t'.world.fetch .behavior t'.state).1 = _
    rw [h.state, h.behaviors]
    rfl
  | rule =>
    show (t'.world.fetch .rule (t'.world.fetch .behavior t'.state).2).1 = _
    rw [h.state, h.behaviors, h.rules]
    rfl

theorem fetchKind_congr {world world' : World σ} {kind : JobKind} {r : PassReport σ}
    (h : world'.fetch kind r.state = world.fetch kind r.state) :
    fetchKind world' kind r = fetchKind world kind r := by
  unfold fetchKind
  rw [h]

theorem startJob_congr {world world' : World σ} {settings : ManagerSettings} {job : Job}
    {r : PassReport σ} (hnow : world'.now = world.now)
    (h : world.toExecutor.AgreesOn world'.toExecutor
      (attemptOn world settings job r.state).submitted r.state) :
    startJob world' settings job r = startJob world settings job r := by
  unfold startJob
  rw [hnow]
  dsimp only
  rw [compile_congr h]

namespace Course

variable {settings : ManagerSettings} {c : Course} {t t' : Turn σ} {attempts : List Attempt}

/-- A pass goes on in the same way as long as its attempts are among these. -/
theorem visiting_congr (hagrees : t.AgreesUpTo t' attempts) {done : List Job}
    (hdone : (c.visiting settings t done).attempts <+: attempts) :
    c.visiting settings t' done = c.visiting settings t done := by
  induction done using List.reverseRecOn with
  | nil =>
    show fetched t'.world _ _ t'.state = fetched t.world _ _ t.state
    rw [hagrees.state]
    unfold fetched
    have hbehaviors : fetchKind t'.world .behavior (.begin (c.manager.passes + 1)
        c.manager.registry t.state) = fetchKind t.world .behavior (.begin (c.manager.passes + 1)
        c.manager.registry t.state) := fetchKind_congr hagrees.behaviors
    rw [hbehaviors]
    refine congrArg _ (fetchKind_congr ?_)
    rw [fetchKind_state]
    exact hagrees.rules
  | append_singleton done job ih =>
    rw [visiting_concat] at hdone
    have hbefore : (c.visiting settings t done).attempts <+: attempts := by
      refine List.IsPrefix.trans ?_ hdone
      rw [attempts_visitJob]
      exact List.prefix_append _ _
    rw [visiting_concat, visiting_concat, ih hbefore]
    cases hr : (c.visiting settings t done).registry.isRunning job.trackingId with
    | true => rw [visitJob_of_running _ _ hr, visitJob_of_running _ _ hr]
    | false =>
      rw [visitJob_eq_startJob _ _ hr, visitJob_eq_startJob _ _ hr]
      refine startJob_congr hagrees.now ?_
      show t.world.toExecutor.AgreesOn t'.world.toExecutor
        (attemptOn t.world settings job (c.visiting settings t done).state).submitted
        (c.visiting settings t done).state
      -- Its statements come right after those of the attempts before it.
      rw [attempts_visitJob, hr] at hdone
      obtain ⟨later, hlater⟩ := hdone
      have hall := hagrees.statements
      rw [← hlater, List.flatMap_append, List.flatMap_append] at hall
      have hown := (hall.of_prefix (List.prefix_append _ _)).later
      have hstate := c.state_visiting settings t done
      have hpoint : t.world.toExecutor.after
          ((c.visiting settings t done).attempts.flatMap (·.submitted)) (t.stateAfter []) =
            (c.visiting settings t done).state := hstate.symm
      rw [hpoint] at hown
      simpa using hown

/-- **What comes of an attempt does not change its stamp.** Where the same went on before it, there
    is an attempt for the same job at the same time. -/
theorem Begins.of_agrees {a : Attempt} {done : List Job} {job : Job}
    (h : c.Begins settings t attempts a done job) (hagrees : t.AgreesUpTo t' attempts) :
    ∃ a' later, (c.report settings t').attempts = attempts ++ a' :: later ∧
      a'.id = a.id ∧ a'.kind = a.kind ∧ a'.stamp = a.stamp := by
  have hsame : c.visiting settings t' done = c.visiting settings t done :=
    visiting_congr hagrees (by simp only [h.past, List.prefix_rfl])
  have hstate : t'.stateAfter attempts = t.stateAfter attempts := by
    have hpoint := c.state_visiting settings t' done
    rw [hsame, h.past, h.state] at hpoint
    exact hpoint.symm
  have hbegins : c.Begins settings t' attempts
      (attemptOn t'.world settings job (t'.stateAfter attempts)) done job :=
    { desired := by rw [hagrees.answers]; exact h.desired
      past := by rw [hsame]; exact h.past
      idle := by rw [hsame]; exact h.idle
      attempt := rfl }
  obtain ⟨waiting, hdesired⟩ := hbegins.desired
  obtain ⟨later, hlater⟩ :=
    attempts_foldl_visitJob t'.world settings waiting (c.visiting settings t' (done ++ [job]))
  refine ⟨attemptOn t'.world settings job (t'.stateAfter attempts), later, ?_, ?_, ?_, ?_⟩
  · rw [hbegins.attempts] at hlater
    rw [attempts_report, visits_eq, hdesired, ← List.singleton_append, ← List.append_assoc,
      visiting_append, ← hlater]
    simp
  · rw [h.attempt]
    rfl
  · rw [h.attempt]
    rfl
  · rw [h.attempt, hstate]
    show t'.world.now _ = t.world.now _
    rw [hagrees.now]

end Course

end Agreement

/-! ## 2. The time of alert -/

/-- **The insert of a rule's plan** is its last statement, and the values that it selects read
    back. -/
theorem RuleJob.readItems_insert {rule : RuleJob} {ctx : PlanContext} {p : Plan}
    (h : rule.plan ctx = .ok p) :
    ∃ setup insert list rest, p.steps = setup ++ [insert] ∧
      insert.sql = "EXECUTE STATEMENT SET BEGIN INSERT INTO rule_sink_" ++ rule.id
        ++ " SELECT " ++ list ∧
      Sql.readItems 8 list.toList =
        some (.bare "*" :: (rule.alertValues ctx).map (·.2.2), rest) := by
  obtain ⟨source, view, sink, name, insert, hsteps, _, _, _, _, hinsert⟩ := exists_steps h
  have hsql := (rule.render_insert ctx insert.sql).mp hinsert.render_eq
  exact ⟨[source, view, sink, name], insert, rule.selectText ctx, _, hsteps, hsql,
    rule.readItems_selectText ctx⟩

/-- The statements of an attempt are those of the plan with its own time, up to some point. -/
theorem Course.Begins.submitted {σ : Type} {settings : ManagerSettings} {c : Course} {t : Turn σ}
    {earlier : List Attempt} {a : Attempt} {done : List Job} {job : Job}
    (h : c.Begins settings t earlier a done job) {p : Plan}
    (hp : job.plan ⟨settings.groupId, a.stamp.toDateTime⟩ = .ok p) :
    a.submitted <+: p.statements := by
  have hplan : job.plan (contextAt t.world settings (t.stateAfter earlier)) = .ok p := by
    rw [h.stamp_eq] at hp
    exact hp
  have hrun := (p.execute_submitted t.world.toExecutor (t.stateAfter earlier)).1
  rw [h.attempt]
  show (job.compile (contextAt t.world settings (t.stateAfter earlier)) _ _).submitted <+: _
  simp only [Job.compile, hplan]
  exact hrun

/-! ## 3. The order of stamps -/

section Order

variable {σ : Type} {settings : ManagerSettings}

namespace Course

/-- An attempt of a course: it is made in this turn, after these passes and these attempts of its
    own pass. -/
structure Made (settings : ManagerSettings) (turns before : List (Turn σ)) (t : Turn σ)
    (earlier : List Attempt) (a : Attempt) : Prop where
  turn : ∃ after, turns = before ++ t :: after
  attempt : ∃ later, ((run settings before).report settings t).attempts = earlier ++ a :: later

variable {turns before before' : List (Turn σ)} {t t' : Turn σ} {earlier earlier' : List Attempt}
  {a a' : Attempt}

theorem Made.mem (h : Made settings turns before t earlier a) : t ∈ turns := by
  obtain ⟨after, rfl⟩ := h.turn
  simp

/-- The attempt and those before it are the first attempts of its pass. -/
theorem Made.prefix_report (h : Made settings turns before t earlier a) :
    earlier ++ [a] <+: ((run settings before).report settings t).attempts := by
  obtain ⟨later, hlater⟩ := h.attempt
  refine ⟨later, ?_⟩
  rw [hlater]
  simp

theorem Made.stamp_eq (h : Made settings turns before t earlier a) :
    a.stamp = t.clockAfter earlier := by
  obtain ⟨later, hlater⟩ := h.attempt
  obtain ⟨done, job, hbegins⟩ := exists_begins hlater
  exact hbegins.stamp_eq

/-- **An attempt is stamped after all earlier ones are over**, in its own pass and in the passes
    before it. -/
theorem clockAfter_le_stamp (htimely : Timely settings turns)
    (h : Made settings turns before t earlier a) (h' : Made settings turns before' t' earlier' a')
    (horder : before.length < before'.length ∨
      (before.length = before'.length ∧ earlier.length < earlier'.length)) :
    t.clockAfter (earlier ++ [a]) ≤ a'.stamp := by
  obtain ⟨after, hturns⟩ := h.turn
  obtain ⟨after', hturns'⟩ := h'.turn
  have hback := htimely.neverBack t h.mem
  rw [h'.stamp_eq]
  rcases horder with hpass | ⟨hpass, hattempt⟩
  · have hfirst : before ++ [t] <+: turns := ⟨after, by rw [hturns]; simp⟩
    have hsecond : before' <+: turns := ⟨t' :: after', hturns'.symm⟩
    have hle : before ++ [t] <+: before' := by
      refine List.prefix_of_prefix_length_le hfirst hsecond ?_
      rw [List.length_append, List.length_singleton]
      omega
    obtain ⟨between, rfl⟩ := hle
    have hsplit : turns = before ++ t :: (between ++ t' :: after') := by
      rw [hturns']
      simp
    have hown := Turn.clockAfter_mono hback h.prefix_report
    rw [← clockAt_eq] at hown
    have hnext := Turn.now_le_clockAfter (htimely.neverBack t' h'.mem) earlier'
    exact le_trans hown (le_trans (htimely.clockAt_le hsplit) hnext)
  · obtain ⟨rfl, hrest⟩ := List.append_inj (hturns.symm.trans hturns') hpass
    obtain ⟨rfl, _⟩ := List.cons.inj hrest
    have hlonger : (earlier ++ [a]).length ≤ earlier'.length := by
      rw [List.length_append, List.length_singleton]
      omega
    have hle : earlier ++ [a] <+: earlier' :=
      List.prefix_of_prefix_length_le h.prefix_report
        ((List.prefix_append earlier' [a']).trans h'.prefix_report) hlonger
    exact Turn.clockAfter_mono hback hle

/-- Of two attempts the later one has the later stamp: no attempt is over before it began. -/
theorem stamp_le_stamp (htimely : Timely settings turns)
    (h : Made settings turns before t earlier a) (h' : Made settings turns before' t' earlier' a')
    (horder : before.length < before'.length ∨
      (before.length = before'.length ∧ earlier.length < earlier'.length)) :
    a.stamp ≤ a'.stamp := by
  rw [h.stamp_eq]
  exact le_trans (Turn.clockAfter_mono (htimely.neverBack t h.mem) (List.prefix_append earlier [a]))
    (clockAfter_le_stamp htimely h h' horder)

theorem Made.concat (h : Made settings turns before t earlier a) (u : Turn σ) :
    Made settings (turns ++ [u]) before t earlier a := by
  obtain ⟨after, hturns⟩ := h.turn
  refine ⟨⟨after ++ [u], ?_⟩, h.attempt⟩
  rw [hturns]
  simp

/-- Every attempt of a course is made in one of its passes. -/
theorem exists_made {turns : List (Turn σ)} {a : Attempt} (h : a ∈ (run settings turns).attempts) :
    ∃ before t earlier, Made settings turns before t earlier a := by
  induction turns using List.reverseRecOn with
  | nil => cases h
  | append_singleton turns t ih =>
    rw [run_concat] at h
    rcases List.mem_append.mp h with hbefore | hlast
    · obtain ⟨before, u, earlier, hmade⟩ := ih hbefore
      exact ⟨before, u, earlier, hmade.concat t⟩
    · obtain ⟨earlier, later, hattempts⟩ := List.append_of_mem hlast
      exact ⟨turns, t, earlier, ⟨[], rfl⟩, later, hattempts⟩

theorem Timely.of_concat {u : Turn σ} (h : Timely settings (turns ++ [u])) :
    Timely settings turns where
  neverBack t ht := h.neverBack t (List.mem_append_left _ ht)
  onward before t t' after hturns := by
    refine h.onward before t t' (after ++ [u]) ?_
    rw [hturns]
    simp

/-- A list is in order if each two of its entries are, wherever it is cut at them. -/
theorem pairwise_of_splits {α : Type} {R : α → α → Prop} {l : List α}
    (h : ∀ earlier a between b later, l = earlier ++ a :: (between ++ b :: later) → R a b) :
    l.Pairwise R := by
  induction l with
  | nil => exact List.Pairwise.nil
  | cons a l ih =>
    refine List.pairwise_cons.mpr ⟨fun b hb => ?_, ih fun earlier a' between b later hl => ?_⟩
    · obtain ⟨between, later, hl⟩ := List.append_of_mem hb
      exact h [] a between b later (congrArg _ hl)
    · exact h (a :: earlier) a' between b later (congrArg _ hl)

/-- **The stamps of a course do not go down** in the order of its attempts. -/
theorem stamps_pairwise {turns : List (Turn σ)} (htimely : Timely settings turns) :
    (run settings turns).attempts.Pairwise fun a b => a.stamp ≤ b.stamp := by
  induction turns using List.reverseRecOn with
  | nil => exact List.Pairwise.nil
  | append_singleton turns t ih =>
    rw [run_concat]
    refine List.pairwise_append.mpr ⟨ih htimely.of_concat, ?_, fun a ha b hb => ?_⟩
    · refine pairwise_of_splits fun earlier a between b later hsplit => ?_
      have hfirst : Made settings (turns ++ [t]) turns t earlier a :=
        ⟨⟨[], rfl⟩, between ++ b :: later, hsplit⟩
      have hsecond : Made settings (turns ++ [t]) turns t (earlier ++ a :: between) b :=
        ⟨⟨[], rfl⟩, later, by rw [hsplit]; simp⟩
      refine stamp_le_stamp htimely hfirst hsecond (Or.inr ⟨rfl, ?_⟩)
      rw [List.length_append, List.length_cons]
      omega
    · obtain ⟨before, u, earlier, hmade⟩ := exists_made ha
      obtain ⟨earlier', later, hsplit⟩ := List.append_of_mem hb
      obtain ⟨after, hturns⟩ := hmade.turn
      have hlast : Made settings (turns ++ [t]) turns t earlier' b := ⟨⟨[], rfl⟩, later, hsplit⟩
      refine stamp_le_stamp htimely (hmade.concat t) hlast (Or.inl ?_)
      rw [hturns, List.length_append, List.length_cons]
      omega

end Course

end Order

/-! ## 4. Stamps that are kept -/

/-- The stamps of the entries of a job. -/
def Standing.stamps (s : Standing) : Option Instant × Option Instant :=
  (s.running.map (·.attemptedAt), s.failed.map (·.attemptedAt))

theorem Standing.stamps_seenIn (s : Standing) (pass : Nat) : (s.seenIn pass).stamps = s.stamps := by
  obtain ⟨running, failed⟩ := s
  cases running with
  | some e => rfl
  | none =>
    cases failed with
    | some e => rfl
    | none => rfl

theorem Standing.stamps_seenIfOf (s : Standing) (kind : JobKind) (pass : Nat) :
    (s.seenIfOf kind pass).stamps = s.stamps := by
  have same : ∀ e : JobEntry, (Registry.seenIfOf kind pass e).attemptedAt = e.attemptedAt := by
    intro e
    unfold Registry.seenIfOf
    split
    · rfl
    · rfl
  simp only [stamps, seenIfOf, Option.map_map, Function.comp_def, same]

theorem Standing.exists_of_holds {s s' : Standing} (hs : s'.stamps = s.stamps) {e' : JobEntry}
    (h : s'.Holds e') : ∃ e, s.Holds e ∧ e.attemptedAt = e'.attemptedAt := by
  obtain ⟨hrunning, hfailed⟩ := Prod.mk.inj hs
  rcases h with h | h
  · rw [h] at hrunning
    obtain ⟨e, he, hstamp⟩ := Option.map_eq_some_iff.mp hrunning.symm
    exact ⟨e, Or.inl he, hstamp⟩
  · rw [h] at hfailed
    obtain ⟨e, he, hstamp⟩ := Option.map_eq_some_iff.mp hfailed.symm
    exact ⟨e, Or.inr he, hstamp⟩

/-- **Each entry has the stamp of the latest attempt** for its job. -/
def Registry.StampedBy (r : Registry) (attempts : List Attempt) : Prop :=
  ∀ id e, (r.standing id).Holds e →
    ∃ a, (attempts.filter (·.id = id)).getLast? = some a ∧ e.attemptedAt = a.stamp

theorem Registry.StampedBy.of_stamps {r r' : Registry} {attempts : List Attempt}
    (h : r.StampedBy attempts) (hs : ∀ id, (r'.standing id).stamps = (r.standing id).stamps) :
    r'.StampedBy attempts := by
  intro id e' he'
  obtain ⟨e, he, hstamp⟩ := Standing.exists_of_holds (hs id) he'
  obtain ⟨a, hlast, ha⟩ := h id e he
  exact ⟨a, hlast, hstamp.symm.trans ha⟩

section Kept

variable {σ : Type} (world : World σ) (settings : ManagerSettings)

theorem stamps_refetched (r : Registry) (kind : JobKind) (pass : Nat) (failed : Bool)
    (id : String) :
    ((r.refetched kind pass failed).standing id).stamps = (r.standing id).stamps := by
  cases failed with
  | false => rfl
  | true =>
    show ((r.touchKind kind pass).standing id).stamps = _
    rw [Registry.standing_touchKind, Standing.stamps_seenIfOf]

/-- **The fetches change no stamp**, whether they fail or not. -/
theorem stamps_fetched (pass : Nat) (registry : Registry) (state : σ) (id : String) :
    ((fetched world pass registry state).registry.standing id).stamps =
      (registry.standing id).stamps := by
  rw [fetched_registry, stamps_refetched, stamps_refetched]

/-- **The visit of a job that runs changes no stamp.** -/
theorem stamps_visitJob_of_running {r : PassReport σ} {job : Job}
    (h : r.registry.isRunning job.trackingId = true) (id : String) :
    ((visitJob world settings r job).registry.standing id).stamps =
      (r.registry.standing id).stamps := by
  rw [visitJob_of_running world settings h]
  show ((r.registry.touch job.trackingId r.summary.pass).standing id).stamps = _
  rw [Registry.standing_touch]
  split
  · next hid =>
    subst hid
    exact Standing.stamps_seenIn _ _
  · rfl

/-- A visit keeps the entries stamped by the latest attempts, those before the pass included. -/
theorem stampedBy_visitJob {past : List Attempt} {r : PassReport σ}
    (h : r.registry.StampedBy (past ++ r.attempts)) (job : Job) :
    (visitJob world settings r job).registry.StampedBy
      (past ++ (visitJob world settings r job).attempts) := by
  cases hr : r.registry.isRunning job.trackingId with
  | true =>
    have hkept := h.of_stamps (stamps_visitJob_of_running world settings hr)
    rw [attempts_visitJob, hr, if_pos rfl, List.append_nil]
    exact hkept
  | false =>
    intro id e he
    rw [attempts_visitJob, hr, if_neg (by simp), ← List.append_assoc, List.filter_append]
    rw [standing_visitJob] at he
    by_cases hid : job.trackingId = id
    · subst hid
      rw [Registry.isRunning_eq, Option.isSome_eq_false_iff, Option.isNone_iff_eq_none] at hr
      rw [if_pos rfl, Standing.visited, hr] at he
      refine ⟨attemptOn world settings job r.state, ?_, ?_⟩
      · rw [List.filter_cons_of_pos (by simp [attemptOn]), List.filter_nil]
        exact List.getLast?_concat
      · dsimp only at he
        cases ho : (attemptOn world settings job r.state).outcome with
        | ok started =>
          rw [ho] at he
          rcases he with he | he
          · cases he
            rfl
          · cases he
        | error error =>
          rw [ho] at he
          rcases he with he | he
          · cases he
          · cases he
            rfl
    · rw [if_neg hid] at he
      rw [List.filter_cons_of_neg (by simp [attemptOn, hid]), List.filter_nil, List.append_nil]
      exact h id e he

end Kept

namespace Course

section Kept

variable {σ : Type} (settings : ManagerSettings) (c : Course) (t : Turn σ)

variable {c} in
/-- At every point of one more pass the entries have the stamps of the latest attempts. -/
theorem stampedBy_visiting (h : c.manager.registry.StampedBy c.attempts) (done : List Job) :
    (c.visiting settings t done).registry.StampedBy
      (c.attempts ++ (c.visiting settings t done).attempts) := by
  induction done using List.reverseRecOn with
  | nil =>
    show (fetched t.world _ _ t.state).registry.StampedBy
      (c.attempts ++ (fetched t.world _ _ t.state).attempts)
    rw [fetched_attempts, List.append_nil]
    exact h.of_stamps (stamps_fetched t.world _ _ t.state)
  | append_singleton done job ih =>
    rw [visiting_concat]
    exact stampedBy_visitJob t.world settings ih job

variable {c} in
theorem stampedBy_pass (h : c.manager.registry.StampedBy c.attempts) :
    (c.pass settings t).manager.registry.StampedBy (c.pass settings t).attempts := by
  have hvisits := stampedBy_visiting settings t h t.answers.desired
  intro id e he
  show ∃ a, ((c.attempts ++ (c.report settings t).attempts).filter _).getLast? = some a ∧ _
  rw [attempts_report]
  refine hvisits id e ?_
  have hswept : ((c.pass settings t).standing id).Holds e := he
  rw [standing_pass] at hswept
  rcases hswept with hrunning | hfailed
  · exact Or.inl hrunning
  · exact Or.inr (Option.filter_eq_some_iff.mp hfailed).1

/-- **The entries of a course have the stamps of the latest attempts.** -/
theorem stampedBy_run (turns : List (Turn σ)) :
    (run settings turns).manager.registry.StampedBy (run settings turns).attempts := by
  refine run_induction settings (P := fun c => c.manager.registry.StampedBy c.attempts) ?_
    (fun c t hc => stampedBy_pass settings t hc) turns
  intro id e he
  exact absurd he (Standing.not_holds_empty e)

variable {c} in
/-- A job that runs when a pass begins runs at every point of it, with the same stamp. -/
theorem running_visiting {id : String} {e : JobEntry}
    (h : (c.standing id).running = some e) (done : List Job) :
    ∃ e', ((c.visiting settings t done).registry.standing id).running = some e' ∧
      e'.attemptedAt = e.attemptedAt := by
  induction done using List.reverseRecOn with
  | nil =>
    have hstamps := stamps_fetched t.world (c.manager.passes + 1) c.manager.registry t.state id
    have hrunning := (Prod.mk.inj hstamps).1
    rw [show (c.manager.registry.standing id).running = some e from h] at hrunning
    exact Option.map_eq_some_iff.mp hrunning
  | append_singleton done job ih =>
    obtain ⟨e', he', hstamp⟩ := ih
    rw [visiting_concat, standing_visitJob]
    split
    · refine ⟨e'.seenIn (c.visiting settings t done).summary.pass, ?_, hstamp⟩
      rw [Standing.visited, he']
    · exact ⟨e', he', hstamp⟩

variable {c} in
/-- It runs when the pass is over, too. -/
theorem running_kept {id : String} {e : JobEntry} (h : (c.standing id).running = some e) :
    ∃ e', ((c.pass settings t).standing id).running = some e' ∧
      e'.attemptedAt = e.attemptedAt := by
  rw [standing_pass]
  exact running_visiting settings t h t.answers.desired

end Kept

/-! ## 5. The stamps of a course -/

/-- A cluster that refuses every statement from the sixth on, and else the world to try things
    in. -/
def tiringWorld (answers : JobKind → Except RemoteError (List Job)) : World Nat :=
  { sampleWorld answers with
    execute := fun sql n =>
      (if n < 5 then ((sampleWorld answers).execute sql n).1
        else .error (.pollTimeout 5 "s" "op-6"), n + 1) }

theorem after_tiringWorld (answers : JobKind → Except RemoteError (List Job))
    (statements : List String) (n : Nat) :
    (tiringWorld answers).toExecutor.after statements n = n + statements.length := by
  induction statements generalizing n with
  | nil => rfl
  | cons sql statements ih =>
    refine (ih (n + 1)).trans ?_
    rw [List.length_cons]
    omega

end Course

end JobKeeper
