/-
  File:      JobKeeper/Proofs/Plan/BehaviorRow.lean
  Subject:   The rows that a behavior writes and the tables that it writes them to.

  The columns of the source are written once for the source and once for the sink of its rows, and
  what the window selects is written in another place than the sink of the counts. Both inserts
  copy by position. The catalog of the plan says of each table and view which row it has, so the
  rows can be compared.

  * `Plan.Closed`: each table and view that a plan uses is created before;
  * `BehaviorJob.texts`: the texts of the seven statements;
  * `BehaviorJob.catalog?_plan`: what there is after the plan;
  * `BehaviorJob.inserts_fit_sinks`: the plan is closed and both inserts fit.
-/
import JobKeeper.Proofs.Plan.Names
import JobKeeper.Proofs.Sql.Rows

namespace JobKeeper

/-! ## 1. Closed plans -/

/-- **Each table and view that a statement of the plan uses is created by an earlier one.** -/
def Plan.Closed (p : Plan) : Prop :=
  ∀ before s after, p.steps = before ++ s :: after → ∀ name ∈ s.statement.uses,
    ∃ s' ∈ before, s'.statement.creates = some name

/-- The tables and views that there are after the plan. -/
def Plan.catalog? (p : Plan) : Option Sql.Catalog := Sql.defineAll (p.steps.map (·.statement))

theorem Plan.closed_of_catalog? {p : Plan} {catalog : Sql.Catalog}
    (h : p.catalog? = some catalog) : p.Closed := by
  intro before s after hsteps name hname
  have hsplit : p.steps.map (·.statement) =
      before.map (·.statement) ++ s.statement :: after.map (·.statement) := by
    rw [hsteps, List.map_append, List.map_cons]
  obtain ⟨created, hcreated, hcreates⟩ := Sql.created_of_defineAll h hsplit hname
  obtain ⟨s', hs', rfl⟩ := List.mem_map.mp hcreated
  exact ⟨s', hs', hcreates⟩

/-- In a catalog with the names of one job an object is found under its name. -/
theorem Role.lookup_name (id : String) (rows : List (Role × Sql.Row)) (r : Role) :
    (rows.map fun e => (e.1.name id, e.2)).lookup (r.name id) = rows.lookup r := by
  induction rows with
  | nil => rfl
  | cons e rows ih =>
    have hname : (r.name id == e.1.name id) = (r == e.1) := by
      rw [Bool.eq_iff_iff, beq_iff_eq, beq_iff_eq]
      exact (Role.name_injective id).eq_iff
    rw [List.map_cons, List.lookup_cons, List.lookup_cons, hname, ih]

namespace BehaviorJob

/-! ## 2. The texts -/

/-- The columns of the source as items of a column list. -/
def sourceItems (job : BehaviorJob) : List String :=
  job.source.columns.map fun c => c.1 ++ " " ++ c.2

/-- The text of the window: what it selects, what it counts by, and what it groups by. -/
def windowText (job : BehaviorJob) (names : BehaviorObjects) : String :=
  "SELECT " ++ Text.join "," ["window_start", "window_end", "COUNT(*) AS cnt",
      Sql.keyText job.profile.entityNames ++ " AS entities",
      Sql.keyText job.profile.attributeNames ++ " AS attributes"]
    ++ " FROM TABLE(TUMBLE(TABLE " ++ names.filterView ++ ", DESCRIPTOR(" ++ eventTime
    ++ "), INTERVAL '" ++ toString job.profile.savingDurationMinutes ++ "' MINUTES)) GROUP BY "
    ++ Text.join "," (["window_start", "window_end"] ++ job.profile.entityNames
        ++ job.profile.attributeNames)

/-- The texts of the seven statements of a behavior whose events have their time in `field`. -/
def texts (job : BehaviorJob) (ctx : PlanContext) (field : String) : List String :=
  let names := BehaviorObjects.ofId job.id
  ["CREATE TABLE " ++ names.sourceTable ++ "(" ++ Text.join "," (job.sourceItems ++
      [eventTime ++ " AS CAST(" ++ field ++ " as TIMESTAMP(3))",
       "WATERMARK FOR " ++ eventTime ++ " AS " ++ eventTime ++ " - INTERVAL '1' minute"])
     ++ ") WITH (" ++ (Plan.sourceConnector job.source ctx).text ++ ")",
   "CREATE VIEW " ++ names.filterView ++ " AS SELECT * FROM " ++ names.sourceTable ++ " WHERE "
     ++ job.filter,
   "CREATE VIEW " ++ names.profileView ++ " AS " ++ job.windowText names,
   "CREATE TABLE " ++ names.behaviorSink ++ "("
     ++ Text.join "," (job.sourceItems ++ [eventTime ++ " TIMESTAMP(3)"])
     ++ ") WITH (" ++ (Plan.sinkConnector job.behaviorOutput ctx).text ++ ")",
   "CREATE TABLE " ++ names.profilingSink ++ "("
     ++ Text.join "," ["window_start TIMESTAMP(3)", "window_end TIMESTAMP(3)", "cnt BIGINT",
          "entities STRING", "attributes STRING"]
     ++ ") WITH (" ++ (Plan.sinkConnector job.profileOutput ctx).text ++ ")",
   "SET 'pipeline.name' = " ++ Sql.Literal.quote names.pipelineName,
   "EXECUTE STATEMENT SET BEGIN INSERT INTO " ++ names.behaviorSink ++ " SELECT * FROM "
     ++ names.filterView ++ "; INSERT INTO " ++ names.profilingSink ++ " SELECT * FROM "
     ++ names.profileView ++ "; END;"]

theorem timestampField_of_sourceTimestamp {job : BehaviorJob} {field : String}
    (h : job.sourceTimestamp = .ok field) : job.source.timestampField = some field := by
  unfold sourceTimestamp at h
  split at h
  next => cases h
  next stated hstated =>
    obtain ⟨_, rfl⟩ := (Sql.require_eq_ok_iff _ stated field).mp h
    exact hstated

theorem items_sourceSchema (job : BehaviorJob) (field : String) :
    (job.sourceSchema field).items = job.sourceItems ++
      [eventTime ++ " AS CAST(" ++ field ++ " as TIMESTAMP(3))",
       "WATERMARK FOR " ++ eventTime ++ " AS " ++ eventTime ++ " - INTERVAL '1' minute"] := by
  rw [sourceSchema_eq, Sql.Schema.items, List.map_append, Sql.Column.map_ofPairs,
    List.append_assoc]
  rfl

theorem items_behaviorSchema (job : BehaviorJob) :
    job.behaviorSchema.items = job.sourceItems ++ [eventTime ++ " TIMESTAMP(3)"] := by
  rw [behaviorSchema_eq, Sql.Schema.items, List.map_append, Sql.Column.map_ofPairs,
    List.append_assoc]
  rfl

theorem items_profilingSchema :
    profilingSchema.items =
      ["window_start TIMESTAMP(3)", "window_end TIMESTAMP(3)", "cnt BIGINT", "entities STRING",
       "attributes STRING"] := by
  decide

theorem text_filterView (name table predicate : String) :
    (Sql.Statement.createView name (Plan.filtered table predicate)).text =
      "CREATE VIEW " ++ name ++ " AS SELECT * FROM " ++ table ++ " WHERE " ++ predicate := by
  rw [Sql.Statement.text_createView, Plan.text_filtered]
  apply String.toList_inj.mp
  simp

theorem text_profileView (job : BehaviorJob) (names : BehaviorObjects) :
    (Sql.Statement.createView names.profileView (.windowCount (job.windowCount names))).text =
      "CREATE VIEW " ++ names.profileView ++ " AS " ++ job.windowText names := by
  have hselect : (job.windowCount names).selectList.map Sql.Projected.text =
      ["window_start", "window_end", "COUNT(*) AS cnt",
       Sql.keyText job.profile.entityNames ++ " AS entities",
       Sql.keyText job.profile.attributeNames ++ " AS attributes"] := by
    simp only [Sql.WindowCount.selectList, Sql.Projected.text, List.map_cons, List.map_nil,
      String.append_assoc]
    rfl
  rw [Sql.Statement.text_createView, Sql.Query.text]
  delta Sql.WindowCount.text windowText
  rw [hselect]
  rfl

theorem text_inserts (names : BehaviorObjects) :
    (Sql.Statement.statementSet [⟨names.behaviorSink, Plan.copyOf names.filterView⟩,
      ⟨names.profilingSink, Plan.copyOf names.profileView⟩]).text =
      "EXECUTE STATEMENT SET BEGIN INSERT INTO " ++ names.behaviorSink ++ " SELECT * FROM "
        ++ names.filterView ++ "; INSERT INTO " ++ names.profilingSink ++ " SELECT * FROM "
        ++ names.profileView ++ "; END;" := by
  rw [Sql.Statement.text_statementSet]
  apply String.toList_inj.mp
  simp [Sql.Insert.text, Plan.text_copyOf, Text.join_cons_cons]

theorem map_text_outline (job : BehaviorJob) (ctx : PlanContext) (field : String) :
    (job.outline ctx field).map (fun entry => entry.2.2.text) = job.texts ctx field := by
  simp only [outline, List.map_cons, List.map_nil, text_filterView, text_profileView,
    text_inserts, Sql.Statement.text_createTable, Sql.Statement.text_setOption,
    items_sourceSchema, items_behaviorSchema, items_profilingSchema]
  rfl

/-! ## 3. The rows -/

/-- A row of the source: the columns of its stream, then the event time. -/
def eventRow (job : BehaviorJob) : Sql.Row :=
  (job.source.columns.map fun c => (c.1, some c.2)) ++ [(eventTime, some "TIMESTAMP(3)")]

/-- What the window selects; the types are those of the expressions. -/
def profileRow : Sql.Row :=
  [("window_start", none), ("window_end", none), ("cnt", none), ("entities", none),
   ("attributes", none)]

/-- The columns of the sink of the counts. -/
def profilingRow : Sql.Row :=
  [("window_start", some "TIMESTAMP(3)"), ("window_end", some "TIMESTAMP(3)"),
   ("cnt", some "BIGINT"), ("entities", some "STRING"), ("attributes", some "STRING")]

/-- What a behavior creates, the newest first, with the row of each. -/
def rows (job : BehaviorJob) : List (Role × Sql.Row) :=
  [(.profilingSink, profilingRow), (.behaviorSink, job.eventRow), (.profileView, profileRow),
   (.filterView .behavior, job.eventRow), (.source .behavior, job.eventRow)]

/-- The same under the names that the objects have. -/
def catalog (job : BehaviorJob) : Sql.Catalog := job.rows.map fun e => (e.1.name job.id, e.2)

theorem lookup_catalog (job : BehaviorJob) (r : Role) :
    job.catalog.lookup (r.name job.id) = job.rows.lookup r :=
  Role.lookup_name job.id job.rows r

theorem row_sourceSchema (job : BehaviorJob) (field : String) :
    (job.sourceSchema field).row = job.eventRow := by
  rw [sourceSchema_eq, Sql.Schema.row, List.map_append, Sql.Column.map_ofPairs]
  rfl

theorem row_behaviorSchema (job : BehaviorJob) : job.behaviorSchema.row = job.eventRow := by
  rw [behaviorSchema_eq, Sql.Schema.row, List.map_append, Sql.Column.map_ofPairs]
  rfl

theorem row_profilingSchema : profilingSchema.row = profilingRow := by decide

/-- The columns that the window selects are those of its sink, in the sink's order. -/
theorem profileRow_fits : profileRow.Fits profilingRow := by
  simp [Sql.Row.Fits, profileRow, profilingRow]

/-- The two inserts: the rows of each view into its sink. -/
def inserts (job : BehaviorJob) : List Sql.Insert :=
  let names := BehaviorObjects.ofId job.id
  [⟨names.behaviorSink, Plan.copyOf names.filterView⟩,
   ⟨names.profilingSink, Plan.copyOf names.profileView⟩]

theorem inserts_fit (job : BehaviorJob) : ∀ i ∈ job.inserts, i.Fits job.catalog := by
  have hevents : job.catalog.lookup (BehaviorObjects.ofId job.id).filterView = job.eventRow :=
    job.lookup_catalog (.filterView .behavior)
  have hsink : job.catalog.lookup (BehaviorObjects.ofId job.id).behaviorSink = job.eventRow :=
    job.lookup_catalog .behaviorSink
  have hcounts : job.catalog.lookup (BehaviorObjects.ofId job.id).profileView = profileRow :=
    job.lookup_catalog .profileView
  have hprofiles : job.catalog.lookup (BehaviorObjects.ofId job.id).profilingSink = profilingRow :=
    job.lookup_catalog .profilingSink
  intro i hi
  rcases List.mem_pair.mp hi with rfl | rfl
  · exact ⟨_, _, hevents, hsink, Sql.Row.fits_self _⟩
  · exact ⟨_, _, hcounts, hprofiles, profileRow_fits⟩

theorem row?_filtered (table predicate : String) (row : Sql.Row) (rest : Sql.Catalog) :
    (Plan.filtered table predicate).row? ((table, row) :: rest) = some row :=
  List.lookup_cons_self

theorem row?_windowCount (job : BehaviorJob) (names : BehaviorObjects) (row : Sql.Row)
    (rest : Sql.Catalog) :
    Sql.Query.row? ((names.filterView, row) :: rest) (.windowCount (job.windowCount names)) =
      some profileRow := by
  show (List.lookup names.filterView ((names.filterView, row) :: rest)).map _ = _
  rw [List.lookup_cons_self]
  rfl

/-- **What there is after the plan of a behavior.** -/
theorem catalog?_plan {job : BehaviorJob} {ctx : PlanContext} {p : Plan}
    (h : job.plan ctx = .ok p) : p.catalog? = some job.catalog := by
  obtain ⟨_, field, _, hp⟩ := (job.plan_eq_ok_iff ctx p).mp h
  rw [Plan.catalog?, hp.map_steps fun entry => entry.2.2, Sql.defineAll]
  -- Each view reads what the statement before it has put first.
  simp only [outline, List.map_cons, List.map_nil, List.foldlM_cons, List.foldlM_nil,
    Option.bind_eq_bind, Option.bind_some, Sql.Statement.define_createTable, row_sourceSchema,
    row_behaviorSchema, row_profilingSchema, Sql.Statement.define_setOption,
    Sql.Statement.define_createView (row?_filtered _ _ _ _),
    Sql.Statement.define_createView (row?_windowCount _ _ _ _)]
  show (Sql.Statement.define job.catalog (.statementSet job.inserts)).bind _ = _
  rw [Sql.Statement.define_statementSet job.inserts_fit]
  rfl

/-! ## 4. The rows and the tables -/

/-- **What a behavior writes fits the tables that it writes to.** Each table and view that a
    statement of the plan uses is created by an earlier one, and the texts are those of the
    statements. The source has the columns of its stream and the event time, which has the
    watermark and by which the window counts. The filter view on the source and the sink of its
    rows have the same columns as the source, and the profile view has the columns of the sink of
    the counts. The last statement holds the two inserts and nothing else; the one before it sets
    the name of the pipeline. -/
theorem inserts_fit_sinks (job : BehaviorJob) (ctx : PlanContext) (p : Plan)
    (h : job.plan ctx = .ok p) :
    let names := BehaviorObjects.ofId job.id
    p.Closed ∧
    (∀ s ∈ p.steps, s.statement.render = .ok s.sql) ∧
    (∃ field, job.source.timestampField = some field ∧ p.statements = job.texts ctx field) ∧
    (∃ setup, p.steps.map (·.statement) =
      setup ++ [.setOption "pipeline.name" names.pipelineName, .statementSet job.inserts]) ∧
    ∃ catalog, p.catalog? = some catalog ∧
      catalog.lookup names.sourceTable = some job.eventRow ∧
      catalog.lookup names.filterView = some job.eventRow ∧
      catalog.lookup names.behaviorSink = some job.eventRow ∧
      catalog.lookup names.profileView = some profileRow ∧
      catalog.lookup names.profilingSink = some profilingRow ∧
      ∀ i ∈ job.inserts, i.Fits catalog := by
  have hcatalog := catalog?_plan h
  obtain ⟨_, field, hfield, hp⟩ := (job.plan_eq_ok_iff ctx p).mp h
  refine ⟨Plan.closed_of_catalog? hcatalog, hp.render_eq,
    ⟨field, timestampField_of_sourceTimestamp hfield, ?_⟩, ?_, job.catalog, hcatalog, ?_⟩
  · rw [hp.statements_eq, map_text_outline]
  · rw [hp.map_steps fun entry => entry.2.2]
    exact ⟨(job.outline ctx field).take 5 |>.map fun entry => entry.2.2, rfl⟩
  · exact ⟨job.lookup_catalog (.source .behavior), job.lookup_catalog (.filterView .behavior),
      job.lookup_catalog .behaviorSink, job.lookup_catalog .profileView,
      job.lookup_catalog .profilingSink, job.inserts_fit⟩

/-- The behavior on failed logins: what its inserts read and write is there before. -/
theorem inserts_fit_sinks_failedLogin :
    ∃ p, plan .failedLogin .sample = .ok p ∧ p.Closed ∧
      p.statements[3]? = some ("CREATE TABLE behavior_sink_b1(event_time STRING,host STRING,"
        ++ "user STRING,converted_ts TIMESTAMP(3)) WITH ('connector' = 'kafka','format' = 'json',"
        ++ "'properties.bootstrap.servers' = '','properties.group.id' = 'ueba',"
        ++ "'topic' = 'behaviors')") ∧
      p.statements[6]? = some ("EXECUTE STATEMENT SET BEGIN INSERT INTO behavior_sink_b1 SELECT "
        ++ "* FROM behavior_b1; INSERT INTO profiling_sink_b1 SELECT * FROM profile_b1; END;") := by
  obtain ⟨p, hp⟩ := failedLogin_planned
  obtain ⟨hclosed, _, ⟨field, hfield, htexts⟩, _⟩ := inserts_fit_sinks .failedLogin .sample p hp
  obtain rfl : "event_time" = field := Option.some.inj hfield
  refine ⟨p, hp, hclosed, ?_, ?_⟩
  · rw [htexts]
    decide +kernel
  · rw [htexts]
    decide +kernel

end BehaviorJob

end JobKeeper
