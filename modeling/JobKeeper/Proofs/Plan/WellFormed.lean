/-
  File:      JobKeeper/Proofs/Plan/WellFormed.lean
  Subject:   When the columns of the tables that a job creates make a table.

  The columns of a job's own schema come from a map, so no two of them have one name. What is
  appended to them (the event time, the columns of an alert) is fixed, and nobody asks whether the
  schema has it already, or whether a column or a counted field has a name at all.

  * `Sql.Schema.wellFormed_iff`: a schema of a map and some fixed columns;
  * `planned_tables_wellFormed_iff`: which definitions make well-formed tables and windows.
-/
import JobKeeper.Proofs.Dict
import JobKeeper.Proofs.Plan.Faults
import JobKeeper.Proofs.Sql.Rows

namespace JobKeeper

/-! ## 1. Well-formed statements -/

namespace Sql

/-- **The columns make a table**: no two have one name, and each has a name and a type. -/
structure Schema.WellFormed (s : Schema) : Prop where
  distinct : (s.columns.map Column.name).Nodup
  stated : ∀ c ∈ s.columns, Text.isBlank c.name = false ∧ Text.isBlank c.type = false

/-- Each field that a window counts by has a name. -/
def WindowCount.WellFormed (q : WindowCount) : Prop :=
  ∀ field ∈ q.entities ++ q.attributes, Text.isBlank field = false

/-- A table with columns that make one, or a window that counts by fields with names, or a
    statement of another form. -/
def Statement.WellFormed : Statement → Prop
  | .createTable _ schema _ => schema.WellFormed
  | .createView _ (.windowCount q) => q.WellFormed
  | _ => True

/-- **A schema of a stream's columns and some fixed ones** is well formed exactly if each column of
    the stream has a name and a type and is none of the fixed ones. -/
theorem Schema.wellFormed_iff {s : Schema} (columns : List (String × String))
    (fixed : List Column) (hs : s.columns = Column.ofPairs columns ++ fixed)
    (hcolumns : (columns.map (·.1)).Nodup) (hfixed : Schema.WellFormed { columns := fixed }) :
    s.WellFormed ↔ ∀ c ∈ columns, Text.isBlank c.1 = false ∧ Text.isBlank c.2 = false ∧
      c.1 ∉ fixed.map Column.name := by
  have hnames : s.columns.map Column.name = columns.map (·.1) ++ fixed.map Column.name := by
    rw [hs, List.map_append, Column.map_ofPairs]
    rfl
  constructor
  · intro h c hc
    have hmem : Column.physical c.1 c.2 ∈ s.columns := by
      rw [hs]
      exact List.mem_append_left _ (List.mem_map_of_mem hc)
    obtain ⟨hname, htype⟩ := h.stated _ hmem
    have hdistinct := h.distinct
    rw [hnames, List.nodup_append] at hdistinct
    exact ⟨hname, htype, fun hf => hdistinct.2.2 c.1 (List.mem_map_of_mem hc) c.1 hf rfl⟩
  · intro h
    refine ⟨?_, fun c hc => ?_⟩
    · rw [hnames, List.nodup_append]
      refine ⟨hcolumns, hfixed.distinct, ?_⟩
      rintro _ hname name hf rfl
      obtain ⟨c, hc, rfl⟩ := List.mem_map.mp hname
      exact (h c hc).2.2 hf
    · rw [hs] at hc
      rcases List.mem_append.mp hc with hc | hc
      · obtain ⟨pair, hpair, rfl⟩ := List.mem_map.mp hc
        exact ⟨(h pair hpair).1, (h pair hpair).2.1⟩
      · exact hfixed.stated c hc

instance (s : Schema) : Decidable s.WellFormed :=
  decidable_of_iff
    ((s.columns.map Column.name).Nodup ∧
      ∀ c ∈ s.columns, Text.isBlank c.name = false ∧ Text.isBlank c.type = false)
    ⟨fun h => ⟨h.1, h.2⟩, fun h => ⟨h.distinct, h.stated⟩⟩

end Sql

/-- Each table and each window of the plan is well formed. -/
def Plan.WellFormed (p : Plan) : Prop := ∀ s ∈ p.steps, s.statement.WellFormed

theorem Plan.Follows.wellFormed_iff {p : Plan} {jobId pipelineName : String}
    {outline : List (String × String × Sql.Statement)}
    (h : p.Follows jobId pipelineName outline) :
    p.WellFormed ↔ ∀ entry ∈ outline, entry.2.2.WellFormed := by
  have hstatements := h.map_steps fun entry => entry.2.2
  unfold Plan.WellFormed
  rw [← List.forall_mem_map (P := Sql.Statement.WellFormed), hstatements, List.forall_mem_map]

/-! ## 2. Well-formed plans -/

theorem Stream.nodup_columns (s : Stream) : (s.columns.map (·.1)).Nodup := s.schema.nodup_keys

/-- The stream's columns have names and types, and none has a name of those that are appended. -/
def Stream.Fits (s : Stream) (appended : List String) : Prop :=
  ∀ c ∈ s.columns, Text.isBlank c.1 = false ∧ Text.isBlank c.2 = false ∧ c.1 ∉ appended

instance (s : Stream) (appended : List String) : Decidable (s.Fits appended) :=
  inferInstanceAs (Decidable (∀ c ∈ s.columns, Text.isBlank c.1 = false ∧
    Text.isBlank c.2 = false ∧ c.1 ∉ appended))

namespace BehaviorJob

theorem wellFormed_sourceSchema_iff (job : BehaviorJob) (field : String) :
    (job.sourceSchema field).WellFormed ↔ job.source.Fits [eventTime] := by
  have hfixed : Sql.Schema.WellFormed { columns := [.computed eventTime field] } := by
    refine ⟨List.nodup_singleton _, fun c hc => ?_⟩
    obtain rfl := List.mem_singleton.mp hc
    exact ⟨(by decide : Text.isBlank eventTime = false),
      (by decide : Text.isBlank (Sql.timestampType 3) = false)⟩
  exact Sql.Schema.wellFormed_iff _ _ (by rw [sourceSchema_eq]) job.source.nodup_columns hfixed

theorem wellFormed_behaviorSchema_iff (job : BehaviorJob) :
    job.behaviorSchema.WellFormed ↔ job.source.Fits [eventTime] := by
  exact Sql.Schema.wellFormed_iff _ [.physical eventTime (Sql.timestampType 3)]
    (by rw [behaviorSchema_eq]) job.source.nodup_columns (by decide)

/-- **What makes the tables and the window of a behavior well formed.** -/
theorem wellFormed_plan_iff {job : BehaviorJob} {ctx : PlanContext} {p : Plan}
    (h : job.plan ctx = .ok p) :
    p.WellFormed ↔ job.source.Fits [eventTime] ∧
      ∀ field ∈ job.profile.entityNames ++ job.profile.attributeNames,
        Text.isBlank field = false := by
  obtain ⟨_, field, _, hp⟩ := (job.plan_eq_ok_iff ctx p).mp h
  have hprofiling : profilingSchema.WellFormed := by decide
  rw [hp.wellFormed_iff]
  simp only [outline, List.forall_mem_cons, List.not_mem_nil, false_implies, implies_true, and_true,
    Sql.Statement.WellFormed, wellFormed_sourceSchema_iff, wellFormed_behaviorSchema_iff,
    hprofiling, Plan.filtered, true_and]
  constructor
  · rintro ⟨hcolumns, hfields, _⟩
    exact ⟨hcolumns, hfields⟩
  · rintro ⟨hcolumns, hfields⟩
    exact ⟨hcolumns, hfields, hcolumns⟩

end BehaviorJob

namespace RuleJob

theorem wellFormed_sourceSchema_iff (job : RuleJob) :
    job.sourceSchema.WellFormed ↔ job.predictor.Fits [] := by
  exact Sql.Schema.wellFormed_iff _ [] (by rw [sourceSchema_eq, List.append_nil])
    job.predictor.nodup_columns (by decide)

theorem wellFormed_alertSchema_iff (job : RuleJob) :
    job.alertSchema.WellFormed ↔ job.predictor.Fits (alertColumns.map (·.1)) := by
  exact Sql.Schema.wellFormed_iff _ (Sql.Column.ofPairs alertColumns) (by rw [alertSchema_eq])
    job.predictor.nodup_columns (by decide)

/-- **What makes the tables of a rule well formed.** -/
theorem wellFormed_plan_iff {job : RuleJob} {ctx : PlanContext} {p : Plan}
    (h : job.plan ctx = .ok p) :
    p.WellFormed ↔ job.predictor.Fits (alertColumns.map (·.1)) := by
  obtain ⟨_, _, hp⟩ := (job.plan_eq_ok_iff ctx p).mp h
  rw [hp.wellFormed_iff]
  simp only [outline, List.forall_mem_cons, List.not_mem_nil, false_implies, implies_true, and_true,
    Sql.Statement.WellFormed, wellFormed_sourceSchema_iff, wellFormed_alertSchema_iff,
    Plan.filtered, true_and]
  refine ⟨fun h => h.2, fun h => ⟨fun c hc => ?_, h⟩⟩
  obtain ⟨hname, htype, _⟩ := h c hc
  exact ⟨hname, htype, List.not_mem_nil⟩

end RuleJob

/-- What a definition has to say so that its tables and windows are well formed. -/
def Job.StatesColumns : Job → Prop
  | .behavior job => job.source.Fits [BehaviorJob.eventTime] ∧
      ∀ field ∈ job.profile.entityNames ++ job.profile.attributeNames, Text.isBlank field = false
  | .rule job => job.predictor.Fits (RuleJob.alertColumns.map (·.1))

instance (job : Job) : Decidable job.StatesColumns :=
  match job with
  | .behavior job => inferInstanceAs (Decidable (job.source.Fits [BehaviorJob.eventTime] ∧
      ∀ field ∈ job.profile.entityNames ++ job.profile.attributeNames,
        Text.isBlank field = false))
  | .rule job => inferInstanceAs (Decidable (job.predictor.Fits (RuleJob.alertColumns.map (·.1))))

/-- **The tables and windows of a planned job are well formed exactly if its definition says what
    they need.** A column of the source with the name of the event time, a column of a predictor
    with the name of an alert's column, a column without a name or without a type, and a counted
    field without a name are all planned as they stand; nothing else makes a plan ill-formed. -/
theorem planned_tables_wellFormed_iff (job : Job) (ctx : PlanContext) (p : Plan)
    (h : job.plan ctx = .ok p) : p.WellFormed ↔ job.StatesColumns := by
  cases job with
  | behavior job => exact BehaviorJob.wellFormed_plan_iff h
  | rule job => exact RuleJob.wellFormed_plan_iff h

/-- The behavior on failed logins and the rule on rare logins say what their tables need. -/
theorem planned_tables_wellFormed_samples :
    (∃ p, (Job.behavior .failedLogin).plan .sample = .ok p ∧ p.WellFormed) ∧
      ∃ p, (Job.rule .rareLogin).plan .sample = .ok p ∧ p.WellFormed := by
  obtain ⟨p, hp⟩ := BehaviorJob.failedLogin_planned
  obtain ⟨q, hq⟩ := RuleJob.rareLogin_planned
  have hbehavior := planned_tables_wellFormed_iff (.behavior .failedLogin) .sample p hp
  have hrule := planned_tables_wellFormed_iff (.rule .rareLogin) .sample q hq
  exact ⟨⟨p, hp, hbehavior.mpr (by decide +kernel)⟩, ⟨q, hq, hrule.mpr (by decide +kernel)⟩⟩

/-- The behavior on failed logins with an entity that has no name. -/
def BehaviorJob.namelessEntity : BehaviorJob :=
  { failedLogin with profile := { failedLogin.profile with entities := [{}] } }

/-- The behavior on failed logins with a source that has the event time already. -/
def BehaviorJob.secondEventTime : BehaviorJob :=
  { failedLogin with
    source := { failedLogin.source with schema := .ofList [("converted_ts", "STRING")] } }

/-- The rule on rare logins with other columns of the predictor. -/
def RuleJob.rareLoginOn (columns : List (String × String)) : RuleJob :=
  { rareLogin with predictor := { rareLogin.predictor with schema := .ofList columns } }

/-- **Ill-formed definitions are planned**: an entity without a name, a source that has the event
    time already, a predictor that has a column of an alert already, and a predictor with two blank
    columns, while one such column is refused. -/
theorem ill_formed_definitions_are_planned :
    (∃ p, BehaviorJob.namelessEntity.plan .sample = .ok p ∧ ¬ p.WellFormed) ∧
      (∃ p, BehaviorJob.secondEventTime.plan .sample = .ok p ∧ ¬ p.WellFormed) ∧
      (∃ p, (RuleJob.rareLoginOn [("object", "STRING")]).plan .sample = .ok p ∧ ¬ p.WellFormed) ∧
      (∃ p, (RuleJob.rareLoginOn [("", ""), (" ", "")]).plan .sample = .ok p ∧ ¬ p.WellFormed) ∧
      (RuleJob.rareLoginOn [("", "")]).plan .sample =
        .error (.missingSchema "profiling_predictor_r1") := by
  have behavior : ∀ job : BehaviorJob, job.fault? = none →
      ¬ (Job.behavior job).StatesColumns → ∃ p, job.plan .sample = .ok p ∧ ¬ p.WellFormed := by
    intro job hfault hstates
    obtain ⟨p, hp⟩ := (Job.behavior job).exists_plan_of_faultless hfault .sample
    exact ⟨p, hp, fun h => hstates (BehaviorJob.wellFormed_plan_iff hp |>.mp h)⟩
  have rule : ∀ job : RuleJob, job.fault? = none →
      ¬ (Job.rule job).StatesColumns → ∃ p, job.plan .sample = .ok p ∧ ¬ p.WellFormed := by
    intro job hfault hstates
    obtain ⟨p, hp⟩ := (Job.rule job).exists_plan_of_faultless hfault .sample
    exact ⟨p, hp, fun h => hstates (RuleJob.wellFormed_plan_iff hp |>.mp h)⟩
  refine ⟨behavior _ (by decide +kernel) (by decide +kernel),
    behavior _ (by decide +kernel) (by decide +kernel),
    rule _ (by decide +kernel) (by decide +kernel),
    rule _ (by decide +kernel) (by decide +kernel), ?_⟩
  exact errorOf?_eq_some_iff.mp
    ((RuleJob.errorOf?_plan _ .sample).trans (by decide +kernel))

end JobKeeper
