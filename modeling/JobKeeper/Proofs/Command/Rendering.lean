/-
  File:      JobKeeper/Proofs/Command/Rendering.lean
  Subject:   What is printed of a job is what a pass submits for it.

  Printing reads one definition from a text of its own and plans it; a pass reads a whole list from
  the answer of the hub, plans each job when its turn comes and runs the plan. Both come to the same
  plan, so what is printed foretells an attempt:

  * `renderJob_of_read`: the text of a job that can be read is planned or has the planner's error;
  * `World.live_answers`: what a hub answers is read from the body of one response;
  * `renders_what_is_submitted`: each element of a hub's list, printed, and its attempt in a pass.
-/
import JobKeeper.Command.Render
import JobKeeper.Proofs.Job.Wire
import JobKeeper.Proofs.Manager.Statements
import JobKeeper.Remote.Hub

namespace JobKeeper

open Json (Doc ArrayText)

/-! ## 1. Rendered texts -/

/-- The pipeline of a job has the id under which the job is tracked. -/
theorem Job.pipelineName_of_plan {job : Job} {ctx : PlanContext} {p : Plan}
    (h : job.plan ctx = .ok p) : p.pipelineName = job.trackingId := by
  cases job with
  | behavior job =>
    obtain ⟨_, _, _, hp⟩ := (job.plan_eq_ok_iff ctx p).mp h
    exact hp.pipeline
  | rule job =>
    obtain ⟨_, _, hp⟩ := (job.plan_eq_ok_iff ctx p).mp h
    exact hp.pipeline

theorem JobKind.ofName?_name (kind : JobKind) : ofName? kind.name = some kind := by
  cases kind <;> rfl

/-- **The text of a job is planned once it is read**: what is left of the three errors is that of the
    planner. -/
theorem renderJob_of_read {kind : JobKind} {text : String} {job : Job}
    (h : Job.ofText? kind text = some job) (ctx : PlanContext) :
    renderJob kind.name text ctx = (job.plan ctx).mapError fun error => ⟨error.message, []⟩ := by
  simp only [renderJob, JobKind.ofName?_name, h]

/-- A text begins as its first part does. -/
theorem head?_append_text {s : String} {c : Char} (h : s.toList.head? = some c) (r : String) :
    (s ++ r).toList.head? = some c := by
  rw [String.toList_append, List.head?_append, h]
  rfl

/-- A text ends as its last part does. -/
theorem getLast?_append_text {s : String} {c : Char} (h : s.toList.getLast? = some c) (r : String) :
    (r ++ s).toList.getLast? = some c := by
  rw [String.toList_append, List.getLast?_append, h]
  rfl

/-- How an error of the planner begins, or else how it ends. -/
theorem Sql.Error.message_shape (error : Sql.Error) :
    (∃ c, error.message.toList.head? = some c ∧ c ≠ 'i' ∧ c ≠ 'u') ∨
      error.message.toList.getLast? = some 'y' := by
  cases error with
  | missingSchema table =>
    exact Or.inl ⟨'t', head?_append_text (head?_append_text (by decide) _) _, by decide⟩
  | emptySchema => exact Or.inl ⟨'s', by decide, by decide⟩
  | noConnectorOptions => exact Or.inl ⟨'c', by decide, by decide⟩
  | emptyFieldGroup group => exact Or.inr (getLast?_append_text (by decide) group)
  | duplicateWatermark existing requested =>
    exact Or.inl ⟨'s', head?_append_text (head?_append_text (head?_append_text
      (head?_append_text (by decide) _) _) _) _, by decide⟩
  | emptyStatementSet => exact Or.inl ⟨'s', by decide, by decide⟩
  | invalidWindow minutes => exact Or.inl ⟨'t', head?_append_text (by decide) _, by decide⟩
  | missing part => exact Or.inl ⟨'m', head?_append_text (by decide) _, by decide⟩

/-- The planner's errors do not read like a text that begins and ends otherwise. -/
theorem Sql.Error.message_ne_of_ends (error : Sql.Error) {t : String} {first last : Char}
    (hfirst : t.toList.head? = some first) (hi : first = 'i' ∨ first = 'u')
    (hlast : t.toList.getLast? = some last) (hy : last ≠ 'y') : error.message ≠ t := by
  rintro rfl
  rcases error.message_shape with ⟨c, hc, hci, hcu⟩ | hend
  · obtain rfl : c = first := Option.some.inj (hc.symm.trans hfirst)
    exact hi.elim hci hcu
  · exact hy (Option.some.inj (hlast.symm.trans hend))

/-- **The planner's errors** are not the one of a text that is no job. -/
theorem Sql.Error.message_ne_unreadable (error : Sql.Error) (kind : JobKind) :
    error.message ≠ "invalid " ++ kind.name ++ " job definition" :=
  error.message_ne_of_ends (head?_append_text (head?_append_text (by decide) _) _) (Or.inl rfl)
    (getLast?_append_text (by decide) _) (by decide : 'n' ≠ 'y')

/-- Nor are they that of an unknown kind. -/
theorem Sql.Error.message_ne_unknownKind (error : Sql.Error) (name : String) :
    error.message ≠ "unknown job kind `" ++ name ++ "` (expected behavior or rule)" :=
  error.message_ne_of_ends (head?_append_text (head?_append_text (by decide) _) _) (Or.inr rfl)
    (getLast?_append_text (by decide) _) (by decide : ')' ≠ 'y')

/-! ## 2. Attempts on the elements of a list -/

namespace Answers

variable (a : Answers)

/-- The desired jobs in front of an element of the list of a kind. -/
def before : JobKind → Nat → List Job
  | .behavior, i => (a.jobs .behavior).take i
  | .rule, i => a.jobs .behavior ++ (a.jobs .rule).take i

theorem desired_eq {kind : JobKind} {i : Nat} {job : Job} (h : (a.jobs kind)[i]? = some job) :
    ∃ later, a.desired = a.before kind i ++ job :: later := by
  obtain ⟨hi, rfl⟩ := List.getElem?_eq_some_iff.mp h
  have hcut := List.take_append_drop i (a.jobs kind)
  rw [List.drop_eq_getElem_cons hi] at hcut
  cases kind with
  | behavior =>
    refine ⟨(a.jobs .behavior).drop (i + 1) ++ a.jobs .rule, ?_⟩
    rw [desired, before, ← List.cons_append, ← List.append_assoc, hcut]
  | rule =>
    refine ⟨(a.jobs .rule).drop (i + 1), ?_⟩
    rw [desired, before, List.append_assoc, hcut]

end Answers

section Turn

variable {σ : Type} (world : World σ) (settings : ManagerSettings)

/-- What has become of a pass when the turn of an element of a list comes. -/
def beforeTurn (pass : Nat) (registry : Registry) (state : σ) (kind : JobKind) (i : Nat) :
    PassReport σ :=
  ((world.answers state).before kind i).foldl (visitJob world settings)
    (fetched world pass registry state)

/-- The visit of an element of a list is one of the visits of the pass. -/
theorem attempts_turn (pass : Nat) (registry : Registry) {state : σ} {kind : JobKind} {i : Nat}
    {job : Job} (h : ((world.answers state).jobs kind)[i]? = some job) :
    (visitJob world settings (beforeTurn world settings pass registry state kind i) job).attempts <+:
      (runPass world settings pass registry state).attempts := by
  obtain ⟨later, hdesired⟩ := (world.answers state).desired_eq h
  rw [attempts_runPass, visited, hdesired, List.foldl_append, List.foldl_cons]
  exact attempts_foldl_visitJob world settings later _

end Turn

/-- **What a rendering says of an attempt** with the plan of the same job, in a registry that the
    attempt has left. -/
structure Attempt.IsAsRendered (a : Attempt) (rendered : Except Failure Plan) (registry : Registry)
    (pass : Nat) : Prop where
  /-- Statements of the plan are submitted in order. -/
  submitted : ∀ plan, rendered = .ok plan → a.submitted <+: plan.statements
  /-- If the attempt succeeds, all of them are, and the job named by the plan is recorded. -/
  started : ∀ plan job, rendered = .ok plan → a.outcome = .ok job →
    a.submitted = plan.statements ∧ job.pipelineName = plan.pipelineName ∧
      registry.standing plan.pipelineName =
        { running := some (.running plan.pipelineName a.kind job.clusterJobId a.stamp pass) }
  /-- If the plan succeeds, the definition of the job is not at fault. -/
  planned : ∀ plan, rendered = .ok plan → ∀ error, a.outcome ≠ .error (.definition error)
  /-- If there is no plan, nothing is submitted and the job is recorded with the planner's error. -/
  failed : ∀ failure, rendered = .error failure → ∃ error : Sql.Error,
    failure = ⟨error.message, []⟩ ∧ a.submitted = [] ∧
      registry.standing a.id =
        { failed := some (.failed a.id a.kind ("invalid job definition: " ++ error.message)
            a.stamp pass) }

section Attempts

variable {σ : Type} (world : World σ) (settings : ManagerSettings) {job : Job} {r : PassReport σ}

/-- The registry after an attempt holds its outcome. -/
theorem standing_attemptOn (idle : r.registry.isRunning job.trackingId = false) :
    (visitJob world settings r job).registry.standing job.trackingId =
      .recorded job.trackingId job.kind (world.now r.state) r.summary.pass
        (attemptOn world settings job r.state).outcome := by
  rw [standing_visitJob, if_pos rfl]
  rw [Registry.isRunning_eq, Option.isSome_eq_false_iff, Option.isNone_iff_eq_none] at idle
  simp only [Standing.visited, idle]
  rfl

/-- **An attempt is as its job is rendered** at the time of the attempt. -/
theorem attemptOn_isAsRendered (idle : r.registry.isRunning job.trackingId = false)
    {rendered : Except Failure Plan}
    (h : rendered = (job.plan (contextAt world settings r.state)).mapError
      fun error => ⟨error.message, []⟩) :
    (attemptOn world settings job r.state).IsAsRendered rendered
      (visitJob world settings r job).registry r.summary.pass := by
  have recorded := standing_attemptOn world settings idle
  have run : attemptOn world settings job r.state =
      let run := job.compile (contextAt world settings r.state) world.toExecutor r.state
      ⟨job.trackingId, job.kind, world.now r.state, run.outcome, run.submitted⟩ := rfl
  cases hp : job.plan (contextAt world settings r.state) with
  | error error =>
    have hrun : job.compile (contextAt world settings r.state) world.toExecutor r.state =
        { outcome := .error (.definition error), state := r.state } := by
      simp only [Job.compile, hp]
    have hnone : ∀ plan, rendered ≠ .ok plan := by
      intro plan hr
      rw [h, hp] at hr
      cases hr
    rw [run, hrun] at recorded ⊢
    refine ⟨fun plan hr => absurd hr (hnone plan), fun plan _ hr => absurd hr (hnone plan),
      fun plan hr => absurd hr (hnone plan), fun failure hr => ⟨error, ?_, rfl, recorded⟩⟩
    rw [h, hp] at hr
    exact (Except.error.inj hr).symm
  | ok p =>
    have hrun : job.compile (contextAt world settings r.state) world.toExecutor r.state =
        p.execute world.toExecutor r.state := by
      simp only [Job.compile, hp]
    have hplan : ∀ plan, rendered = .ok plan → plan = p := by
      intro plan hr
      rw [h, hp] at hr
      exact (Except.ok.inj hr).symm
    obtain ⟨hfront, hstarted, hplanned⟩ := p.execute_submitted world.toExecutor r.state
    rw [run, hrun] at recorded ⊢
    refine ⟨fun plan hr => ?_, fun plan started hr ho => ?_, fun plan hr error => ?_,
      fun failure hr => ?_⟩
    · rw [hplan plan hr]
      exact hfront
    · obtain ⟨hall, hname⟩ := hstarted started ho
      rw [hplan plan hr]
      refine ⟨hall, hname, ?_⟩
      rw [Job.pipelineName_of_plan hp, recorded]
      show Standing.recorded _ _ _ _ (p.execute world.toExecutor r.state).outcome = _
      rw [show (p.execute world.toExecutor r.state).outcome = .ok started from ho]
      rfl
    · exact hplanned error
    · rw [h, hp] at hr
      cases hr

end Attempts

/-! ## 3. Lists of a hub -/

/-- **What a live hub lists** is read from the body of one answer. -/
theorem World.live_answers {σ : Type} (hub : Hub) (session : Session) (t : Transport σ)
    (now : σ → Instant) (state : σ) {kind : JobKind} {jobs : List Job}
    (h : (live hub session t now).answers state kind = .ok jobs) :
    ∃ s body, (t.request .get (hub.endpoint kind) none s).result = .ok body ∧
      readBody (hub.endpoint kind) body (Job.listOfDoc? kind) = .ok jobs := by
  cases kind with
  | behavior =>
    obtain ⟨body, hbody, hread⟩ := bind_eq_ok_iff.mp h
    exact ⟨state, body, hbody, hread⟩
  | rule =>
    obtain ⟨body, hbody, hread⟩ := bind_eq_ok_iff.mp h
    exact ⟨_, body, hbody, hread⟩

/-- **What is printed of a job is what a pass submits for it.** Let the body of a hub's answer be
    read as the jobs that a pass finds listed for a kind. Unless it is `null`, it is an array, and
    however it is cut into the texts of its elements, there is one job for each element. Render the
    text of an element at the time of its attempt: it is the job of that element, so a text that is
    no job or of an unknown kind is never the error. When its turn comes while it does not run, it is
    attempted, and the attempt is as rendered: a prefix of the plan's statements is submitted, all of
    them if the attempt succeeds, and then the job that the plan names is recorded as running; but
    if there is no plan, nothing is submitted and the job is recorded as failed with the planner's
    error. -/
theorem renders_what_is_submitted {σ : Type} (world : World σ) (settings : ManagerSettings)
    (pass : Nat) (registry : Registry) (state : σ) (kind : JobKind) {endpoint body : String}
    {jobs : List Job} (hread : readBody endpoint body (Job.listOfDoc? kind) = .ok jobs)
    (hanswer : world.answers state kind = .ok jobs) :
    ((Doc.ofText? body = some .null ∧ jobs = []) ∨ ∃ elements, ArrayText body elements) ∧
    ∀ elements, ArrayText body elements → elements.length = jobs.length ∧
      ∀ i text job, elements[i]? = some text → jobs[i]? = some job →
        let before := beforeTurn world settings pass registry state kind i
        let after := visitJob world settings before job
        let stamp := world.now before.state
        let rendered := renderJob kind.name text ⟨settings.groupId, stamp.toDateTime⟩
        Job.ofText? kind text = some job ∧
        (∀ failure, rendered = .error failure →
          failure.message ≠ "invalid " ++ kind.name ++ " job definition" ∧
          ∀ name, failure.message ≠
            "unknown job kind `" ++ name ++ "` (expected behavior or rule)") ∧
        (before.registry.isRunning job.trackingId = false →
          ∃ a : Attempt, a.id = job.trackingId ∧ a.kind = kind ∧ a.stamp = stamp ∧
            after.attempts = before.attempts ++ [a] ∧
            after.attempts <+: (runPass world settings pass registry state).attempts ∧
            a.IsAsRendered rendered after.registry pass) := by
  have hlist : (Doc.ofText? body).bind (Job.listOfDoc? kind) = some jobs := by
    unfold readBody at hread
    cases hb : (Doc.ofText? body).bind (Job.listOfDoc? kind) with
    | none => rw [hb] at hread; cases hread
    | some jobs' => rw [hb] at hread; exact congrArg some (Except.ok.inj hread)
  obtain ⟨hcut, hall⟩ := Job.ofText?_of_listed hlist
  refine ⟨hcut, fun elements helements => ?_⟩
  have hjobs := hall elements helements
  refine ⟨hjobs.length_eq, fun i text job htext hjob => ?_⟩
  intro before after stamp rendered
  have hone : Job.ofText? kind text = some job := by
    obtain ⟨hi, rfl⟩ := List.getElem?_eq_some_iff.mp htext
    obtain ⟨hi', rfl⟩ := List.getElem?_eq_some_iff.mp hjob
    exact hjobs.get hi hi'
  have hrendered := renderJob_of_read hone ⟨settings.groupId, stamp.toDateTime⟩
  refine ⟨hone, fun failure hf => ?_, fun idle => ?_⟩
  · cases hp : job.plan ⟨settings.groupId, stamp.toDateTime⟩ with
    | ok p =>
      rw [hp] at hrendered
      cases hrendered.symm.trans hf
    | error error =>
      rw [hp] at hrendered
      cases hrendered.symm.trans hf
      exact ⟨error.message_ne_unreadable kind, error.message_ne_unknownKind⟩
  · have hturn : ((world.answers state).jobs kind)[i]? = some job := by
      unfold Answers.jobs
      rw [hanswer]
      exact hjob
    have hpass : before.summary.pass = pass :=
      (foldl_visitJob_pass world settings _ _).trans (by rw [fetched_summary])
    have hagrees := attemptOn_isAsRendered world settings idle hrendered
    rw [hpass] at hagrees
    exact ⟨attemptOn world settings job before.state, rfl, Job.kind_of_ofText? hone, rfl,
      (visitJob_of_idle world settings idle).2.2,
      attempts_turn world settings pass registry hturn, hagrees⟩

/-- The text of a rule of which only the id is given, by its position. -/
def blankRuleText : String := "[\"q\"]"

/-- The text of a rule that has a plan. -/
def sampleRuleText : String :=
  " \x7b\"id\": \"r\", \"filter\": \"x > 1\", \"object\": \"user\",
   \"profile_predictor_config\": \x7b\"schema\": \x7b\"x\": \"BIGINT\"\x7d\x7d\x7d"

/-- A hub lists two rules: of the one without an object nothing is submitted, of the other one what
    its own text is rendered as. -/
theorem renders_what_is_submitted_two_rules :
    let body := "[" ++ Text.join "," [blankRuleText, sampleRuleText] ++ "]"
    let world := sampleWorld fun kind =>
      if kind = .rule then readBody "hub" body (Job.listOfDoc? .rule) else .ok []
    let report := runPass world {} 1 {} 0
    (∃ a ∈ report.attempts, a.id = "rule_q" ∧ a.submitted = []) ∧
      ∃ a ∈ report.attempts, a.id = "rule_r" ∧
        ∃ plan, renderJob "rule" sampleRuleText ⟨"", a.stamp.toDateTime⟩ = .ok plan ∧
          a.submitted <+: plan.statements := by
  intro body world report
  have hok : (readBody "hub" body (Job.listOfDoc? .rule)).isOk = true := by decide +kernel
  obtain ⟨jobs, hread⟩ := exists_ok_of_isOk hok
  have hcut : ArrayText body [blankRuleText, sampleRuleText] := by
    have hdocs : ∀ e ∈ [blankRuleText, sampleRuleText], (Doc.ofText? e).isSome = true := by
      decide +kernel
    have hall := @ArrayText.elements "" "" _ rfl rfl (List.cons_ne_nil _ _) hdocs
    simpa using hall
  obtain ⟨hlen, hall⟩ :=
    (renders_what_is_submitted world {} 1 {} 0 .rule hread hread).2 _ hcut
  obtain ⟨job, job', rfl⟩ := List.length_eq_two.mp hlen.symm
  constructor
  · obtain ⟨hjob, _, hturn⟩ := hall 0 _ _ rfl rfl
    have hfault : (Job.ofText? .rule blankRuleText).map (fun job => (job.trackingId, job.fault?)) =
        some ("rule_q", some (.missing "rule object column")) := by decide +kernel
    rw [hjob] at hfault
    obtain ⟨hid, hfault⟩ := Prod.mk.inj (Option.some.inj hfault)
    rw [hid] at hturn
    obtain ⟨a, ha, _, _, hattempts, hfront, hagrees⟩ := hturn (by decide +kernel)
    have hplan : ∀ ctx, errorOf? (job.plan ctx) = some (.missing "rule object column") :=
      fun ctx => (job.errorOf?_plan ctx).trans hfault
    have hrendered := renderJob_of_read hjob ⟨"", (world.now (beforeTurn world {} 1 {} 0 .rule
      0).state).toDateTime⟩
    rw [errorOf?_eq_some_iff.mp (hplan _)] at hrendered
    obtain ⟨_, _, hnone, _⟩ := hagrees.failed _ hrendered
    exact ⟨a, hfront.subset (hattempts ▸ List.mem_append_right _ List.mem_cons_self), ha, hnone⟩
  · obtain ⟨hjob, _, hturn⟩ := hall 1 _ _ rfl rfl
    have hfault : (Job.ofText? .rule sampleRuleText).map (fun job => (job.trackingId, job.fault?)) =
        some ("rule_r", none) := by decide +kernel
    rw [hjob] at hfault
    obtain ⟨hid, hfault⟩ := Prod.mk.inj (Option.some.inj hfault)
    rw [hid] at hturn
    obtain ⟨a, ha, _, hstamp, hattempts, hfront, hagrees⟩ := hturn (by decide +kernel)
    obtain ⟨plan, hplan⟩ := Job.exists_plan_of_faultless hfault ⟨"", a.stamp.toDateTime⟩
    have hrendered := renderJob_of_read hjob ⟨"", a.stamp.toDateTime⟩
    rw [hplan] at hrendered
    refine ⟨a, hfront.subset (hattempts ▸ List.mem_append_right _ List.mem_cons_self), ha, plan,
      hrendered, hagrees.submitted plan ?_⟩
    rw [← hstamp]
    exact hrendered

end JobKeeper
