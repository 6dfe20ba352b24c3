/-
  File:      JobKeeper/Proofs/Plan/Written.lean
  Subject:   What a plan holds: the steps of its outline in order, each with the text of its
             statement.

  * `plan_eq_ok_iff`, one for each kind of job: when a job has a plan, and which one it is;
  * `Plan.Follows.statements_eq`: the texts of a plan that follows an outline;
  * `Job.starts_last`: of the steps of a plan the last one starts the job, and no other does;
  * `BehaviorJob.sourceSchema_eq`, `BehaviorJob.behaviorSchema_eq`, `RuleJob.alertSchema_eq`: the
    columns of a stream, and what is appended to them.
-/
import JobKeeper.Plan.Execution
import JobKeeper.Proofs.Sql.Rendering

namespace JobKeeper

/-! ## 1. Written steps -/

/-- The step belongs to this entry of an outline and has the text of the entry's statement. -/
def Step.Writes (entry : String × String × Sql.Statement) (s : Step) : Prop :=
  entry = (s.label, s.object, s.statement) ∧ s.statement.render = .ok s.sql

theorem Step.write_eq_ok_iff (entry : String × String × Sql.Statement) (s : Step) :
    Step.write entry.1 entry.2.1 entry.2.2 = .ok s ↔ s.Writes entry := by
  obtain ⟨label, object, statement⟩ := entry
  unfold Step.write
  rw [bind_eq_ok_iff]
  constructor
  · rintro ⟨sql, hsql, h⟩
    cases h
    exact ⟨rfl, hsql⟩
  · rintro ⟨h, hsql⟩
    cases h
    exact ⟨s.sql, hsql, rfl⟩

theorem Step.Writes.render_eq {entry : String × String × Sql.Statement} {s : Step}
    (h : s.Writes entry) : entry.2.2.render = .ok s.sql := by
  rw [h.1]
  exact h.2

theorem Step.Writes.sql_eq {entry : String × String × Sql.Statement} {s : Step}
    (h : s.Writes entry) : s.sql = entry.2.2.text :=
  Sql.Statement.eq_text_of_render h.render_eq

/-- **The plan follows an outline**: one step for each entry, in order. -/
structure Plan.Follows (p : Plan) (jobId pipelineName : String)
    (outline : List (String × String × Sql.Statement)) : Prop where
  job : p.jobId = jobId
  pipeline : p.pipelineName = pipelineName
  steps : List.Forall₂ (fun entry s => s.Writes entry) outline p.steps

/-- The end of planning: the steps of an outline are written, and they make the plan. -/
theorem Plan.of_outline_eq_ok_iff (outline : List (String × String × Sql.Statement))
    (jobId pipelineName : String) (p : Plan) :
    (do
      let steps ← outline.mapM fun s => Step.write s.1 s.2.1 s.2.2
      return ({ jobId, pipelineName, steps } : Plan)) = (.ok p : Except Sql.Error Plan) ↔
      p.Follows jobId pipelineName outline := by
  rw [bind_eq_ok_iff]
  constructor
  · rintro ⟨steps, hsteps, h⟩
    cases h
    refine ⟨rfl, rfl, (mapM_eq_ok_iff.mp hsteps).imp fun entry s h => ?_⟩
    exact (Step.write_eq_ok_iff entry s).mp h
  · rintro ⟨rfl, rfl, hsteps⟩
    refine ⟨p.steps, mapM_eq_ok_iff.mpr (hsteps.imp fun entry s h => ?_), rfl⟩
    exact (Step.write_eq_ok_iff entry s).mpr h

/-- What a job's outline says of its steps' statements is true of the steps. -/
theorem Plan.Follows.map_steps {p : Plan} {jobId pipelineName : String}
    {outline : List (String × String × Sql.Statement)}
    (h : p.Follows jobId pipelineName outline) {α : Type}
    (f : String × String × Sql.Statement → α) :
    p.steps.map (fun s => f (s.label, s.object, s.statement)) = outline.map f := by
  have same : List.Forall₂ (· = ·) (outline.map f)
      (p.steps.map fun s => f (s.label, s.object, s.statement)) := by
    rw [List.forall₂_map_left_iff, List.forall₂_map_right_iff]
    exact h.steps.imp fun entry s hs => congrArg f hs.1
  rw [List.forall₂_eq_eq_eq] at same
  exact same.symm

/-- Each step of a plan has the text of its statement. -/
theorem Plan.Follows.render_eq {p : Plan} {jobId pipelineName : String}
    {outline : List (String × String × Sql.Statement)}
    (h : p.Follows jobId pipelineName outline) :
    ∀ s ∈ p.steps, s.statement.render = .ok s.sql := by
  have hsteps : List.Forall₂ (fun s entry => s.statement.render = .ok s.sql ∧ s.Writes entry)
      p.steps outline := (h.steps.imp fun _ _ hs => ⟨hs.2, hs⟩).flip
  exact ((List.forall₂_and_left _ _).mp hsteps).1

/-- The texts of a plan are those of the statements of its outline. -/
theorem Plan.Follows.statements_eq {p : Plan} {jobId pipelineName : String}
    {outline : List (String × String × Sql.Statement)}
    (h : p.Follows jobId pipelineName outline) :
    p.statements = outline.map fun entry => entry.2.2.text := by
  have same : List.Forall₂ (· = ·) p.statements (outline.map fun entry => entry.2.2.text) := by
    rw [Plan.statements, List.forall₂_map_left_iff, List.forall₂_map_right_iff]
    exact (h.steps.imp fun _ _ hs => hs.sql_eq).flip
  rwa [List.forall₂_eq_eq_eq] at same

/-! ## 2. When a job has a plan -/

/-- **A behavior job has a plan** exactly if it has an id and a timestamp field and each statement
    of its outline can be written. -/
theorem BehaviorJob.plan_eq_ok_iff (job : BehaviorJob) (ctx : PlanContext) (p : Plan) :
    job.plan ctx = .ok p ↔ Text.isBlank job.id = false ∧
      ∃ field, job.sourceTimestamp = .ok field ∧
        p.Follows job.id (BehaviorObjects.ofId job.id).pipelineName (job.outline ctx field) := by
  unfold BehaviorJob.plan
  rw [bind_eq_ok_iff]
  simp only [Sql.require_eq_ok_iff, bind_eq_ok_iff (x := job.sourceTimestamp)]
  constructor
  · rintro ⟨_, ⟨hid, rfl⟩, field, hfield, hp⟩
    exact ⟨hid, field, hfield, (Plan.of_outline_eq_ok_iff _ _ _ p).mp hp⟩
  · rintro ⟨hid, field, hfield, hp⟩
    exact ⟨job.id, ⟨hid, rfl⟩, field, hfield, (Plan.of_outline_eq_ok_iff _ _ _ p).mpr hp⟩

/-- **A rule job has a plan** exactly if it has an id and an object and each statement of its
    outline can be written. -/
theorem RuleJob.plan_eq_ok_iff (job : RuleJob) (ctx : PlanContext) (p : Plan) :
    job.plan ctx = .ok p ↔ Text.isBlank job.id = false ∧ Text.isBlank job.object = false ∧
      p.Follows job.id (RuleObjects.ofId job.id).pipelineName (job.outline ctx job.object) := by
  unfold RuleJob.plan
  rw [bind_eq_ok_iff]
  simp only [Sql.require_eq_ok_iff, bind_eq_ok_iff (x := Sql.require _ job.object)]
  constructor
  · rintro ⟨_, ⟨hid, rfl⟩, _, ⟨hobject, rfl⟩, hp⟩
    exact ⟨hid, hobject, (Plan.of_outline_eq_ok_iff _ _ _ p).mp hp⟩
  · rintro ⟨hid, hobject, hp⟩
    exact ⟨job.id, ⟨hid, rfl⟩, job.object, ⟨hobject, rfl⟩,
      (Plan.of_outline_eq_ok_iff _ _ _ p).mpr hp⟩

/-! ## 3. The step that starts the job -/

theorem BehaviorJob.map_startsJob {job : BehaviorJob} {ctx : PlanContext} {p : Plan}
    (h : job.plan ctx = .ok p) : p.steps.map Step.startsJob = List.replicate 6 false ++ [true] := by
  obtain ⟨_, field, _, hp⟩ := (job.plan_eq_ok_iff ctx p).mp h
  exact hp.map_steps fun entry => Step.startsJob ⟨entry.1, entry.2.1, entry.2.2, ""⟩

theorem RuleJob.map_startsJob {job : RuleJob} {ctx : PlanContext} {p : Plan}
    (h : job.plan ctx = .ok p) : p.steps.map Step.startsJob = List.replicate 4 false ++ [true] := by
  obtain ⟨_, _, hp⟩ := (job.plan_eq_ok_iff ctx p).mp h
  exact hp.map_steps fun entry => Step.startsJob ⟨entry.1, entry.2.1, entry.2.2, ""⟩

/-- **Of the steps of a plan the last one starts the job**, and no other does. -/
theorem Job.starts_last {job : Job} {ctx : PlanContext} {p : Plan} (h : job.plan ctx = .ok p) :
    ∃ setup start, p.steps = setup ++ [start] ∧ start.startsJob = true ∧
      ∀ s ∈ setup, s.startsJob = false := by
  obtain ⟨n, hn⟩ : ∃ n, p.steps.map Step.startsJob = List.replicate n false ++ [true] := by
    cases job with
    | behavior job => exact ⟨6, job.map_startsJob h⟩
    | rule job => exact ⟨4, job.map_startsJob h⟩
  obtain ⟨setup, last, hsteps, hsetup, hlast⟩ := List.map_eq_append_iff.mp hn
  obtain ⟨start, rfl, hstart⟩ := List.map_eq_singleton_iff.mp hlast
  refine ⟨setup, start, hsteps, hstart, fun s hs => ?_⟩
  have hmem := List.mem_map_of_mem (f := Step.startsJob) hs
  rw [hsetup] at hmem
  exact List.eq_of_mem_replicate hmem

/-! ## 4. The queries -/

/-- The query for all rows of a table as they are. -/
theorem Plan.text_copyOf (table : String) :
    (Plan.copyOf table).text = "SELECT * FROM " ++ table := String.append_empty

theorem Plan.text_filtered (table predicate : String) :
    (Plan.filtered table predicate).text =
      "SELECT * FROM " ++ table ++ (" WHERE " ++ predicate) := rfl

/-! ## 5. The columns of the tables -/

/-- Columns as a stream has them. -/
def Sql.Column.ofPairs (columns : List (String × String)) : List Sql.Column :=
  columns.map fun c => .physical c.1 c.2

theorem Sql.Column.map_ofPairs {α : Type} (f : Sql.Column → α) (columns : List (String × String)) :
    (ofPairs columns).map f = columns.map fun c => f (.physical c.1 c.2) :=
  List.map_map

/-- Adding columns changes nothing but the columns. -/
theorem Sql.Schema.addColumns_eq (s : Sql.Schema) (columns : List (String × String)) :
    s.addColumns columns = { s with columns := s.columns ++ Sql.Column.ofPairs columns } := by
  have hcolumns : (s.addColumns columns).columns = s.columns ++ Sql.Column.ofPairs columns :=
    Sql.Schema.columns_addColumns s columns
  obtain ⟨hwatermark, hrejected⟩ := Sql.Schema.watermark_addColumns s columns
  rw [← hcolumns, ← hwatermark, ← hrejected]

/-- The source has the columns of its stream and the event time, which carries the watermark. -/
theorem BehaviorJob.sourceSchema_eq (job : BehaviorJob) (field : String) :
    job.sourceSchema field =
      { columns := Sql.Column.ofPairs job.source.columns ++ [.computed eventTime field]
        watermark := some eventTime } := by
  rw [sourceSchema, Sql.Schema.addColumns_eq]
  rfl

/-- The sink of the filtered rows has the same columns, and the event time as one like the others. -/
theorem BehaviorJob.behaviorSchema_eq (job : BehaviorJob) :
    job.behaviorSchema =
      { columns := Sql.Column.ofPairs job.source.columns ++
          [.physical eventTime (Sql.timestampType 3)] } := by
  rw [behaviorSchema, Sql.Schema.addColumns_eq]
  rfl

theorem RuleJob.sourceSchema_eq (job : RuleJob) :
    job.sourceSchema = { columns := Sql.Column.ofPairs job.predictor.columns } :=
  Sql.Schema.addColumns_eq {} _

/-- The sink of a rule has the columns of the predictor, then those of an alert. -/
theorem RuleJob.alertSchema_eq (job : RuleJob) :
    job.alertSchema =
      { columns := Sql.Column.ofPairs job.predictor.columns ++
          Sql.Column.ofPairs alertColumns } := by
  rw [alertSchema, sourceSchema_eq, Sql.Schema.addColumns_eq]

end JobKeeper
