/-
  File:      JobKeeper/Proofs/Plan/Faults.lean
  Subject:   Which definitions have a plan, and why the others have none.

  Planning writes some fifteen clauses, each with tests of its own. All names of a plan begin with a
  fixed text and every table of a behavior has the event time, so hardly any of these tests can
  fail: what is left are the faults of the definition, and the first of them is the error.

  * `errorOf?_outline`, one for each kind of job: what is wrong with each statement, in order;
  * `BehaviorJob.fault?`, `RuleJob.fault?`: the faults of a definition in the order of the tests;
  * `plan_refuses_first_fault`: planning fails with the first fault, or writes every step.
-/
import JobKeeper.Proofs.Plan.Written
import JobKeeper.Proofs.Sql.Faults

namespace JobKeeper

/-! ## 1. What is wrong with a plan -/

theorem Step.errorOf?_write (label object : String) (statement : Sql.Statement) :
    errorOf? (Step.write label object statement) = errorOf? statement.render :=
  errorOf?_bind_pure _ _

/-- What is wrong with the statements of an outline, each taken by itself. -/
def outlineFaults (outline : List (String × String × Sql.Statement)) : List (Option Sql.Error) :=
  outline.map fun entry => errorOf? entry.2.2.render

/-- The end of planning fails with what is wrong with the first statement that cannot be written. -/
theorem Plan.errorOf?_of_outline (outline : List (String × String × Sql.Statement))
    (jobId pipelineName : String) :
    errorOf? (do
      let steps ← outline.mapM fun s => Step.write s.1 s.2.1 s.2.2
      return ({ jobId, pipelineName, steps } : Plan)) = (outlineFaults outline).findSome? id := by
  rw [errorOf?_bind_pure, errorOf?_mapM, outlineFaults, List.findSome?_map]
  simp only [Step.errorOf?_write, Function.comp_def, id]

theorem BehaviorJob.errorOf?_sourceTimestamp (job : BehaviorJob) :
    errorOf? job.sourceTimestamp =
      if job.source.timestampField.all Text.isBlank then some (.missing "source timestamp field")
      else none := by
  unfold sourceTimestamp
  cases job.source.timestampField with
  | none => rfl
  | some field => exact Sql.errorOf?_require _ field

/-! ## 2. The statements of a job, one by one -/

/-- The options by which a table finds its topic are set, and so are those of a source. -/
theorem Plan.connectors_not_empty (stream : Stream) (ctx : PlanContext) :
    (sourceConnector stream ctx).options.isEmpty = false ∧
      (sinkConnector stream ctx).options.isEmpty = false :=
  ⟨Sql.Connector.isEmpty_ofList _, Sql.Connector.isEmpty_ofList _⟩

/-- A query for all columns of a table with a name lacks a predicate, or nothing. -/
theorem Plan.errorOf?_allColumns {table : String} (h : Text.isBlank table = false)
    (filter : Option String) :
    errorOf? (Sql.Query.select { table, fields := "*", filter }).render =
      if filter.any Text.isBlank then some (.missing "filter predicate") else none := by
  have hstar : Text.isBlank "*" = false := rfl
  show errorOf? (Sql.Select.render _) = _
  rw [Sql.Select.errorOf?_render]
  simp only [hstar, h, Bool.false_eq_true, if_false]

/-- A view on the rows that pass a filter lacks the predicate, or nothing. -/
theorem Plan.errorOf?_filteredView {name table : String} (hname : Text.isBlank name = false)
    (htable : Text.isBlank table = false) (predicate : String) :
    errorOf? (Sql.Statement.createView name (filtered table predicate)).render =
      if Text.isBlank predicate then some (.missing "filter predicate") else none := by
  rw [Sql.Statement.errorOf?_createView hname]
  exact errorOf?_allColumns htable (some predicate)

theorem Plan.errorOf?_pipelineName (name : String) :
    errorOf? (Sql.Statement.setOption "pipeline.name" name).render = none := by
  have hkey : Text.isBlank "pipeline.name" = false := rfl
  rw [Sql.Statement.errorOf?_setOption, hkey, if_neg Bool.false_ne_true]

/-- What is wrong with the window of a behavior. -/
def BehaviorJob.windowFault? (job : BehaviorJob) : Option Sql.Error :=
  if job.profile.savingDurationMinutes < 1 then
    some (.invalidWindow job.profile.savingDurationMinutes)
  else if job.profile.entities.isEmpty then some (.emptyFieldGroup "entities")
  else if job.profile.attributes.isEmpty then some (.emptyFieldGroup "attributes")
  else none

/-- The names of what a behavior creates begin with fixed texts. -/
theorem BehaviorObjects.names_not_blank (id : String) :
    Text.isBlank (ofId id).sourceTable = false ∧ Text.isBlank (ofId id).filterView = false ∧
      Text.isBlank (ofId id).profileView = false ∧ Text.isBlank (ofId id).behaviorSink = false ∧
      Text.isBlank (ofId id).profilingSink = false :=
  ⟨Text.isBlank_append_of_left rfl id, Text.isBlank_append_of_left rfl id,
    Text.isBlank_append_of_left rfl id, Text.isBlank_append_of_left rfl id,
    Text.isBlank_append_of_left rfl id⟩

theorem RuleObjects.names_not_blank (id : String) :
    Text.isBlank (ofId id).sourceTable = false ∧ Text.isBlank (ofId id).filterView = false ∧
      Text.isBlank (ofId id).ruleSink = false :=
  ⟨Text.isBlank_append_of_left rfl id, Text.isBlank_append_of_left rfl id,
    Text.isBlank_append_of_left rfl id⟩

namespace BehaviorJob

variable (job : BehaviorJob) (ctx : PlanContext)

theorem eventTime_not_blank : Text.isBlank eventTime = false := by decide

/-- Every table of a behavior can be written: the source and the sink of its rows have the event
    time at least. -/
theorem errorOf?_tables (field : String) :
    let names := BehaviorObjects.ofId job.id
    errorOf? (Sql.Statement.createTable names.sourceTable (job.sourceSchema field)
        (Plan.sourceConnector job.source ctx)).render = none ∧
      errorOf? (Sql.Statement.createTable names.behaviorSink job.behaviorSchema
        (Plan.sinkConnector job.behaviorOutput ctx)).render = none ∧
      errorOf? (Sql.Statement.createTable names.profilingSink profilingSchema
        (Plan.sinkConnector job.profileOutput ctx)).render = none := by
  intro names
  obtain ⟨hsource, _, _, hsink, hcounts⟩ := BehaviorObjects.names_not_blank job.id
  refine ⟨?_, ?_, ?_⟩
  · rw [sourceSchema_eq]
    exact Sql.Statement.errorOf?_createTable_of_column hsource rfl
      (Plan.connectors_not_empty _ ctx).1 (List.mem_append_right _ List.mem_cons_self)
      eventTime_not_blank
  · rw [behaviorSchema_eq]
    exact Sql.Statement.errorOf?_createTable_of_column hsink rfl
      (Plan.connectors_not_empty _ ctx).2 (List.mem_append_right _ List.mem_cons_self)
      eventTime_not_blank
  · exact Sql.Statement.errorOf?_createTable_of_column hcounts rfl
      (Plan.connectors_not_empty _ ctx).2 List.mem_cons_self rfl

/-- The window lacks what the profile lacks: its table and its time are the job's own. -/
theorem errorOf?_profileView :
    let names := BehaviorObjects.ofId job.id
    errorOf? (Sql.Statement.createView names.profileView
      (.windowCount (job.windowCount names))).render = job.windowFault? := by
  intro names
  obtain ⟨_, htable, hview, _⟩ := BehaviorObjects.names_not_blank job.id
  rw [Sql.Statement.errorOf?_createView hview]
  show errorOf? (Sql.WindowCount.render _) = _
  rw [Sql.WindowCount.errorOf?_render]
  simp [windowCount, windowFault?, names, htable, eventTime_not_blank, Profile.entityNames,
    Profile.attributeNames]

theorem errorOf?_inserts :
    let names := BehaviorObjects.ofId job.id
    errorOf? (Sql.Statement.statementSet
      [⟨names.behaviorSink, Plan.copyOf names.filterView⟩,
       ⟨names.profilingSink, Plan.copyOf names.profileView⟩]).render = none := by
  intro names
  obtain ⟨_, hfilter, hprofile, hsink, hcounts⟩ := BehaviorObjects.names_not_blank job.id
  have hrows : errorOf? (Plan.copyOf names.filterView).render = none :=
    Plan.errorOf?_allColumns hfilter none
  have hprofiles : errorOf? (Plan.copyOf names.profileView).render = none :=
    Plan.errorOf?_allColumns hprofile none
  rw [Sql.Statement.errorOf?_statementSet (List.cons_ne_nil _ _), List.findSome?_cons,
    List.findSome?_cons, Sql.Insert.errorOf?_render hsink, Sql.Insert.errorOf?_render hcounts,
    hrows, hprofiles]
  rfl

/-- **Of the statements of a behavior** only the two views can be wrong. -/
theorem errorOf?_outline (field : String) :
    outlineFaults (job.outline ctx field) =
      [none, if Text.isBlank job.filter then some (.missing "filter predicate") else none,
       job.windowFault?, none, none, none, none] := by
  obtain ⟨hsource, hsink, hcounts⟩ := job.errorOf?_tables ctx field
  obtain ⟨htable, hview, _⟩ := BehaviorObjects.names_not_blank job.id
  simp only [outlineFaults, outline, List.map_cons, List.map_nil, hsource, hsink, hcounts,
    Plan.errorOf?_filteredView hview htable, job.errorOf?_profileView, job.errorOf?_inserts,
    Plan.errorOf?_pipelineName]

end BehaviorJob

namespace RuleJob

variable (job : RuleJob) (ctx : PlanContext)

/-- What is wrong with the columns of the predictor: there are none, or there is one and it is
    nothing but blanks. -/
def columnsFault? : Option Sql.Error :=
  if job.predictor.columns.isEmpty then some .emptySchema
  else if job.predictor.columns.length = 1 ∧
      job.predictor.columns.all fun c => Text.isBlank c.1 && Text.isBlank c.2 then
    some (.missingSchema ("profiling_predictor_" ++ job.id))
  else none

/-- A blank between two blanks is all that a blank column with a blank type is written as. -/
theorem isBlank_columnTexts (columns : List (String × String)) :
    Text.isBlank (Text.join "," ((Sql.Column.ofPairs columns).map Sql.Column.text)) =
      (decide (columns.length ≤ 1) &&
        columns.all fun c => Text.isBlank c.1 && Text.isBlank c.2) := by
  have hcomma : Text.isBlank "," = false := rfl
  have hblank : Text.isBlank " " = true := rfl
  rw [Text.isBlank_join, Sql.Column.map_ofPairs, List.all_map, List.length_map, hcomma,
    Bool.or_false, Bool.and_comm]
  congr 2
  funext c
  show Text.isBlank (c.1 ++ " " ++ c.2) = _
  rw [Text.isBlank_append, Text.isBlank_append, hblank, Bool.and_true]

theorem errorOf?_source :
    let names := RuleObjects.ofId job.id
    errorOf? (Sql.Statement.createTable names.sourceTable job.sourceSchema
      (Plan.sourceConnector job.predictor ctx)).render = job.columnsFault? := by
  intro names
  obtain ⟨hname, _⟩ := RuleObjects.names_not_blank job.id
  have hitems : ({ columns := Sql.Column.ofPairs job.predictor.columns } : Sql.Schema).items =
      (Sql.Column.ofPairs job.predictor.columns).map Sql.Column.text := List.append_nil _
  rw [sourceSchema_eq, Sql.Statement.errorOf?_createTable hname rfl
    (Plan.connectors_not_empty _ ctx).1, hitems, isBlank_columnTexts, columnsFault?,
    show names.sourceTable = "profiling_predictor_" ++ job.id from rfl]
  generalize "profiling_predictor_" ++ job.id = table
  generalize job.predictor.columns = columns
  -- Between two columns stands a comma, which is no blank.
  match columns with
  | [] => rfl
  | [c] => simp [Sql.Column.ofPairs]
  | c :: d :: columns => simp [Sql.Column.ofPairs]

/-- The sink has the columns of an alert at least. -/
theorem errorOf?_sink :
    let names := RuleObjects.ofId job.id
    errorOf? (Sql.Statement.createTable names.ruleSink job.alertSchema
      (Plan.sinkConnector job.sink ctx)).render = none := by
  intro names
  obtain ⟨_, _, hname⟩ := RuleObjects.names_not_blank job.id
  rw [alertSchema_eq]
  exact Sql.Statement.errorOf?_createTable_of_column hname rfl
    (Plan.connectors_not_empty _ ctx).2 (List.mem_append_right _ List.mem_cons_self) rfl

/-- The select list of the insert begins with all columns, so it is not blank either. -/
theorem errorOf?_insert (object : String) :
    let names := RuleObjects.ofId job.id
    errorOf? (Sql.Statement.statementSet
      [⟨names.ruleSink,
        .select { table := names.filterView, fields := job.alertFields ctx object }⟩]).render =
          none := by
  intro names
  obtain ⟨_, hview, hsink⟩ := RuleObjects.names_not_blank job.id
  have hfields : Text.isBlank (job.alertFields ctx object) = false :=
    Text.isBlank_join_of_mem List.mem_cons_self rfl ","
  have hselect : errorOf? (Sql.Query.select
      { table := names.filterView, fields := job.alertFields ctx object }).render = none := by
    show errorOf? (Sql.Select.render _) = _
    rw [Sql.Select.errorOf?_render, hfields, hview]
    rfl
  rw [Sql.Statement.errorOf?_statementSet (List.cons_ne_nil _ _), List.findSome?_cons,
    Sql.Insert.errorOf?_render hsink, hselect]
  rfl

/-- **Of the statements of a rule** only the source and the view can be wrong. -/
theorem errorOf?_outline (object : String) :
    outlineFaults (job.outline ctx object) =
      [job.columnsFault?,
       if Text.isBlank job.filter then some (.missing "filter predicate") else none,
       none, none, none] := by
  obtain ⟨htable, hview, _⟩ := RuleObjects.names_not_blank job.id
  simp only [outlineFaults, outline, List.map_cons, List.map_nil, job.errorOf?_source,
    job.errorOf?_sink, Plan.errorOf?_filteredView hview htable, job.errorOf?_insert,
    Plan.errorOf?_pipelineName]

end RuleJob

/-! ## 3. The first fault -/

/-- What is wrong with the definition of a behavior, if anything is. Blank means nothing but
    White_Space, or empty after trimming (`Text.isBlank_iff_trim`). -/
def BehaviorJob.fault? (job : BehaviorJob) : Option Sql.Error :=
  if Text.isBlank job.id then some (.missing "job id")
  else if job.source.timestampField.all Text.isBlank then some (.missing "source timestamp field")
  else if Text.isBlank job.filter then some (.missing "filter predicate")
  else job.windowFault?

/-- What is wrong with the definition of a rule, if anything is. -/
def RuleJob.fault? (job : RuleJob) : Option Sql.Error :=
  if Text.isBlank job.id then some (.missing "job id")
  else if Text.isBlank job.object then some (.missing "rule object column")
  else job.columnsFault?.or
    (if Text.isBlank job.filter then some (.missing "filter predicate") else none)

/-- **A behavior fails with its first fault.** -/
theorem BehaviorJob.errorOf?_plan (job : BehaviorJob) (ctx : PlanContext) :
    errorOf? (job.plan ctx) = job.fault? := by
  rw [plan, Sql.errorOf?_require_bind, fault?]
  refine if_congr Iff.rfl rfl ?_
  cases hblank : job.source.timestampField.all Text.isBlank with
  | true =>
    have herror : job.sourceTimestamp = .error (.missing "source timestamp field") :=
      errorOf?_eq_some_iff.mp (by rw [errorOf?_sourceTimestamp, hblank]; rfl)
    rw [errorOf?_bind_error herror]
    rfl
  | false =>
    obtain ⟨field, hfield⟩ : ∃ field, job.sourceTimestamp = .ok field :=
      errorOf?_eq_none_iff.mp (by rw [errorOf?_sourceTimestamp, hblank]; rfl)
    rw [errorOf?_bind_ok hfield, Plan.errorOf?_of_outline, errorOf?_outline]
    cases Text.isBlank job.filter <;> cases job.windowFault? <;> rfl

/-- **A rule fails with its first fault.** -/
theorem RuleJob.errorOf?_plan (job : RuleJob) (ctx : PlanContext) :
    errorOf? (job.plan ctx) = job.fault? := by
  rw [plan, Sql.errorOf?_require_bind, Sql.errorOf?_require_bind, Plan.errorOf?_of_outline,
    errorOf?_outline, fault?]
  refine if_congr Iff.rfl rfl (if_congr Iff.rfl rfl ?_)
  cases job.columnsFault? <;> cases Text.isBlank job.filter <;> rfl

namespace Job

/-- What is wrong with the definition of a job, if anything is. -/
def fault? : Job → Option Sql.Error
  | .behavior job => job.fault?
  | .rule job => job.fault?

/-- How many statements a job has. -/
def stepCount : Job → Nat
  | .behavior _ => 7
  | .rule _ => 5

theorem errorOf?_plan (job : Job) (ctx : PlanContext) : errorOf? (job.plan ctx) = job.fault? := by
  cases job with
  | behavior job => exact job.errorOf?_plan ctx
  | rule job => exact job.errorOf?_plan ctx

theorem exists_plan_of_faultless {job : Job} (h : job.fault? = none) (ctx : PlanContext) :
    ∃ p, job.plan ctx = .ok p :=
  errorOf?_eq_none_iff.mp ((job.errorOf?_plan ctx).trans h)

theorem length_steps {job : Job} {ctx : PlanContext} {p : Plan} (h : job.plan ctx = .ok p) :
    p.steps.length = job.stepCount := by
  cases job with
  | behavior job =>
    obtain ⟨_, _, _, hp⟩ := (job.plan_eq_ok_iff ctx p).mp h
    exact hp.steps.length_eq.symm
  | rule job =>
    obtain ⟨_, _, hp⟩ := (job.plan_eq_ok_iff ctx p).mp h
    exact hp.steps.length_eq.symm

end Job

/-- **Planning refuses a job with its first fault, and plans a job without one.** The faults of a
    behavior are, in this order: no id, no timestamp field, no filter, a window of less than a
    minute, no entity, no attribute. Those of a rule are: no id, no object, no column, one column
    that is nothing but blanks, no filter. No other error comes out of planning, and a job without
    a fault has a plan with all its statements. -/
theorem plan_refuses_first_fault (job : Job) (ctx : PlanContext) :
    (∀ e, job.plan ctx = .error e ↔ job.fault? = some e) ∧
      ((∃ p, job.plan ctx = .ok p ∧ p.steps.length = job.stepCount) ↔ job.fault? = none) := by
  refine ⟨fun e => ?_, fun ⟨p, hp, _⟩ => ?_, fun h => ?_⟩
  · rw [← job.errorOf?_plan ctx, errorOf?_eq_some_iff]
  · rw [← job.errorOf?_plan ctx, hp]
    rfl
  · obtain ⟨p, hp⟩ := Job.exists_plan_of_faultless h ctx
    exact ⟨p, hp, Job.length_steps hp⟩

/-! ## 4. Jobs to try things in -/

/-- A rule on the scores of logins. -/
def RuleJob.rareLogin : RuleJob where
  id := "r1"
  name := "rare login"
  filter := "score > 0.9"
  object := "entities"
  technique := "T1078"
  severity := "high"
  riskScore := 70
  predictor :=
    { topic := "predictions", schema := .ofList [("score", "DOUBLE"), ("entities", "STRING")] }
  sink := { topic := "alerts" }

/-- A consumer group and a time to compile at. -/
def PlanContext.sample : PlanContext := ⟨"ueba", ⟨2024, 3, 9, 14, 5, 7, 0⟩⟩

theorem RuleJob.rareLogin_planned : ∃ p, RuleJob.rareLogin.plan .sample = .ok p :=
  (Job.rule .rareLogin).exists_plan_of_faultless (by decide +kernel) .sample

/-- A behavior on failed logins, counted for each user and host. -/
def BehaviorJob.failedLogin : BehaviorJob where
  id := "b1"
  source :=
    { topic := "logins"
      schema := .ofList [("user", "STRING"), ("event_time", "STRING"), ("host", "STRING")]
      timestampField := some "event_time" }
  profile :=
    { entities := [{ name := "user" }]
      attributes := [{ name := "host" }]
      savingDurationMinutes := 5 }
  profileOutput := { topic := "profiles" }
  behaviorOutput := { topic := "behaviors" }
  filter := "status = 'FAILED'"

theorem BehaviorJob.failedLogin_planned : ∃ p, BehaviorJob.failedLogin.plan .sample = .ok p :=
  (Job.behavior .failedLogin).exists_plan_of_faultless (by decide +kernel) .sample

end JobKeeper
