/-
  File:      JobKeeper/Proofs/Plan/AlertRow.lean
  Subject:   The rows that a rule writes and the table that it writes them to.

  The columns of the sink, the columns of the source and the values that the insert selects are
  written in three places; here they are shown to agree position by position. The values stand in
  the text of the insert as literals, so what a rule is called cannot change what it does.

  * `RuleJob.exists_steps`: the five steps of a rule's plan;
  * `RuleJob.render_insert`: the text of the insert can always be written;
  * `RuleJob.alert_row_fits_sink`: the two tables, the values of the insert, and what is left the
    same when the metadata of a rule change.
-/
import JobKeeper.Proofs.Plan.Faults
import JobKeeper.Proofs.Sql.Items
import JobKeeper.Proofs.Sql.Rendering

namespace JobKeeper

namespace RuleJob

/-! ## 1. The steps of a rule -/

/-- The statement that writes the alerts. -/
def insertStatement (job : RuleJob) (ctx : PlanContext) : Sql.Statement :=
  .statementSet [⟨"rule_sink_" ++ job.id,
    .select { table := "rule_" ++ job.id, fields := job.alertFields ctx job.object }⟩]

/-- The five steps of a rule's plan. -/
theorem exists_steps {job : RuleJob} {ctx : PlanContext} {p : Plan} (h : job.plan ctx = .ok p) :
    ∃ source view sink name insert : Step, p.steps = [source, view, sink, name, insert] ∧
      source.Writes ("create predictor source", "profiling_predictor_" ++ job.id,
        .createTable ("profiling_predictor_" ++ job.id) job.sourceSchema
          (Plan.sourceConnector job.predictor ctx)) ∧
      view.Writes ("create rule view", "rule_" ++ job.id,
        .createView ("rule_" ++ job.id)
          (Plan.filtered ("profiling_predictor_" ++ job.id) job.filter)) ∧
      sink.Writes ("create rule sink", "rule_sink_" ++ job.id,
        .createTable ("rule_sink_" ++ job.id) job.alertSchema (Plan.sinkConnector job.sink ctx)) ∧
      name.Writes ("set pipeline name", "rule_" ++ job.id,
        .setOption "pipeline.name" ("rule_" ++ job.id)) ∧
      insert.Writes ("submit statement set", "rule_" ++ job.id, job.insertStatement ctx) := by
  obtain ⟨_, _, hp⟩ := (job.plan_eq_ok_iff ctx p).mp h
  have hsteps := hp.steps
  simp only [outline, List.forall₂_cons_left_iff, List.forall₂_nil_left_iff] at hsteps
  obtain ⟨source, _, hsource, ⟨view, _, hview, ⟨sink, _, hsink, ⟨name, _, hname, ⟨insert, _,
    hinsert, rfl, rfl⟩, rfl⟩, rfl⟩, rfl⟩, heq⟩ := hsteps
  exact ⟨source, view, sink, name, insert, heq, hsource, hview, hsink, hname, hinsert⟩

/-! ## 2. The insert -/

/-- The selected values, and what follows them in the text of the insert. -/
def selectText (job : RuleJob) (ctx : PlanContext) : String :=
  job.alertFields ctx job.object ++ " FROM rule_" ++ job.id ++ "; END;"

theorem alertFields_eq (job : RuleJob) (ctx : PlanContext) (object : String) :
    job.alertFields ctx object =
      "*,UUID()," ++ Sql.Literal.quote ctx.compiledAt.text ++ ","
        ++ Sql.Literal.quote ("rule_" ++ job.id) ++ "," ++ Sql.Literal.quote job.name ++ ","
        ++ Sql.Literal.quote job.technique ++ "," ++ Sql.Literal.quote job.severity ++ ","
        ++ toString job.riskScore ++ "," ++ object ++ " AS object" := by
  have hview : (RuleObjects.ofId job.id).filterView = "rule_" ++ job.id := rfl
  apply String.toList_inj.mp
  simp [alertFields, hview, Text.join_cons_cons]

/-- The insert can always be written: none of its parts is blank. -/
theorem render_insert (job : RuleJob) (ctx : PlanContext) (sql : String) :
    (job.insertStatement ctx).render = .ok sql ↔
      sql = "EXECUTE STATEMENT SET BEGIN INSERT INTO rule_sink_" ++ job.id ++ " SELECT "
        ++ job.selectText ctx := by
  let q : Sql.Select := { table := "rule_" ++ job.id, fields := job.alertFields ctx job.object }
  have hquery : ∀ query, q.render = .ok query ↔ query = q.text := by
    intro query
    have hfields : Text.isBlank q.fields = false := by
      rw [show q.fields = _ from job.alertFields_eq ctx job.object]
      simp only [Text.isBlank_append, show Text.isBlank "*,UUID()," = false from rfl,
        Bool.false_and]
    have htable : Text.isBlank q.table = false := by
      rw [show q.table = "rule_" ++ job.id from rfl, Text.isBlank_append]
      rfl
    rw [q.render_eq_ok_iff]
    exact ⟨fun h => h.2.2.2, fun h => ⟨hfields, htable, fun _ hf => (nomatch hf), h⟩⟩
  have hinsert : ∀ text, Sql.Insert.render ⟨"rule_sink_" ++ job.id, .select q⟩ = .ok text ↔
      text = "INSERT INTO " ++ ("rule_sink_" ++ job.id) ++ " " ++ q.text := by
    intro text
    rw [Sql.Insert.render_eq_ok_iff]
    constructor
    · rintro ⟨query, hq, _, _, rfl⟩
      rw [(hquery query).mp hq]
    · rintro rfl
      refine ⟨q.text, (hquery _).mpr rfl, ?_, ?_, rfl⟩
      · rw [Text.isBlank_append]
        rfl
      · rw [Sql.Select.text, String.append_assoc, String.append_assoc, String.append_assoc,
          Text.isBlank_append]
        rfl
  have htext : "EXECUTE STATEMENT SET BEGIN" ++ Text.join "" ([
      "INSERT INTO " ++ ("rule_sink_" ++ job.id) ++ " " ++ q.text].map fun text =>
        " " ++ text ++ ";") ++ " END;" =
      "EXECUTE STATEMENT SET BEGIN INSERT INTO rule_sink_" ++ job.id ++ " SELECT "
        ++ job.selectText ctx := by
    apply String.toList_inj.mp
    simp [q, Sql.Select.text, selectText]
  rw [insertStatement, Sql.Statement.render_statementSet]
  constructor
  · rintro ⟨texts, htexts, _, rfl⟩
    rw [List.forall₂_cons_left_iff] at htexts
    obtain ⟨text, _, h, hnil, rfl⟩ := htexts
    cases hnil
    rw [(hinsert text).mp h, htext]
  · rintro rfl
    exact ⟨_, .cons ((hinsert _).mpr rfl) .nil, List.cons_ne_nil _ _, htext.symm⟩

/-- The alert's columns before the object, each with its type and the value selected for it. -/
def alertValues (job : RuleJob) (ctx : PlanContext) : List (String × String × Sql.Item) :=
  [("alert_id", "STRING", .bare "UUID()"),
   ("alert_time", "STRING", .literal ctx.compiledAt.text),
   ("rule_id", "STRING", .literal ("rule_" ++ job.id)),
   ("rule_name", "STRING", .literal job.name),
   ("technique", "STRING", .literal job.technique),
   ("severity", "STRING", .literal job.severity),
   ("risk_score", "BIGINT", .bare (toString job.riskScore))]

/-- **The selected values read back**: the columns of the row, then the alert's values; the object
    is what is left. -/
theorem readItems_selectText (job : RuleJob) (ctx : PlanContext) :
    Sql.readItems 8 (job.selectText ctx).toList =
      some (.bare "*" :: (job.alertValues ctx).map (·.2.2),
        (job.object ++ " AS object FROM rule_" ++ job.id ++ "; END;").toList) := by
  let object := (job.object ++ " AS object FROM rule_" ++ job.id ++ "; END;").toList
  have hobject : Sql.readItems 0 object = some ([], object) := rfl
  have hscore := Sql.readItems_bare hobject (Sql.bare_toString_int job.riskScore)
  have hmetadata := Sql.readItems_literal (Sql.readItems_literal (Sql.readItems_literal hscore
    job.severity) job.technique) job.name
  have hvalues := Sql.readItems_literal (Sql.readItems_literal hmetadata ("rule_" ++ job.id))
    ctx.compiledAt.text
  have hrow := Sql.readItems_bare (Sql.readItems_bare hvalues (s := "UUID()") (by simp))
    (s := "*") (by simp)
  have htext : (job.selectText ctx).toList = "*".toList ++ ',' :: ("UUID()".toList ++ ',' ::
      ((Sql.Literal.quote ctx.compiledAt.text).toList ++ ',' ::
      ((Sql.Literal.quote ("rule_" ++ job.id)).toList ++ ',' ::
      ((Sql.Literal.quote job.name).toList ++ ',' ::
      ((Sql.Literal.quote job.technique).toList ++ ',' ::
      ((Sql.Literal.quote job.severity).toList ++ ',' ::
      ((toString job.riskScore).toList ++ ',' :: object))))))) := by
    simp [selectText, alertFields_eq, object]
  rw [htext, hrow]
  rfl

/-! ## 3. The tables -/

/-- The columns of the predictor as items of a column list. -/
def upstreamItems (job : RuleJob) : List String :=
  job.predictor.columns.map fun c => c.1 ++ " " ++ c.2

theorem items_sourceSchema (job : RuleJob) : job.sourceSchema.items = job.upstreamItems := by
  rw [sourceSchema, Sql.Schema.items_addColumns rfl]
  rfl

theorem items_alertSchema (job : RuleJob) (ctx : PlanContext) :
    job.alertSchema.items =
      job.upstreamItems ++ (job.alertValues ctx).map (fun v => v.1 ++ " " ++ v.2.1)
        ++ ["object STRING"] := by
  have hw : job.sourceSchema.watermark = none := (Sql.Schema.watermark_addColumns _ _).1
  rw [alertSchema, Sql.Schema.items_addColumns hw, items_sourceSchema, List.append_assoc]
  simp [alertColumns, alertValues, Sql.stringType, Sql.bigintType]

/-! ## 4. The row and the table -/

/-- The insert around the three literals that the metadata of a rule become. -/
theorem insert_around_metadata (job : RuleJob) (ctx : PlanContext) :
    ∃ before after, ∀ name technique severity,
      "EXECUTE STATEMENT SET BEGIN INSERT INTO rule_sink_" ++ job.id ++ " SELECT "
          ++ selectText { job with name, technique, severity } ctx =
        before ++ Sql.Literal.quote name ++ "," ++ Sql.Literal.quote technique ++ ","
          ++ Sql.Literal.quote severity ++ after := by
  refine ⟨"EXECUTE STATEMENT SET BEGIN INSERT INTO rule_sink_" ++ job.id ++ " SELECT *,UUID(),"
    ++ Sql.Literal.quote ctx.compiledAt.text ++ "," ++ Sql.Literal.quote ("rule_" ++ job.id) ++ ",",
    "," ++ toString job.riskScore ++ "," ++ job.object ++ " AS object FROM rule_" ++ job.id
      ++ "; END;", fun name technique severity => ?_⟩
  apply String.toList_inj.mp
  simp [selectText, alertFields_eq]

/-- **The row that a rule writes fits the table that it writes to, whatever the rule is called.**
    The source has the columns of the predictor, and the sink has the same items followed by the
    columns of an alert. The one insert selects all columns of the source's filtered rows, then a
    value for each column of an alert, of which five are literals that read back to what they
    stand for; what is left after the score is the object. Changing the name, the technique and the
    severity of the rule changes nothing but the three literals. -/
theorem alert_row_fits_sink (job : RuleJob) (ctx : PlanContext) (p : Plan)
    (h : job.plan ctx = .ok p) :
    ∃ source view sink name insert, p.steps = [source, view, sink, name, insert] ∧
      (∃ options, source.sql = "CREATE TABLE profiling_predictor_" ++ job.id ++ "("
        ++ Text.join "," job.upstreamItems ++ ") WITH (" ++ options ++ ")") ∧
      view.sql = "CREATE VIEW rule_" ++ job.id ++ " AS SELECT * FROM profiling_predictor_"
        ++ job.id ++ " WHERE " ++ job.filter ∧
      (∃ options, sink.sql = "CREATE TABLE rule_sink_" ++ job.id ++ "("
        ++ Text.join "," (job.upstreamItems
            ++ (job.alertValues ctx).map (fun v => v.1 ++ " " ++ v.2.1) ++ ["object STRING"])
        ++ ") WITH (" ++ options ++ ")") ∧
      (∃ list, insert.sql = "EXECUTE STATEMENT SET BEGIN INSERT INTO rule_sink_" ++ job.id
          ++ " SELECT " ++ list ∧
        Sql.readItems 8 list.toList =
          some (.bare "*" :: (job.alertValues ctx).map (·.2.2),
            (job.object ++ " AS object FROM rule_" ++ job.id ++ "; END;").toList)) ∧
      ∃ before after,
        insert.sql = before ++ Sql.Literal.quote job.name ++ "," ++ Sql.Literal.quote job.technique
          ++ "," ++ Sql.Literal.quote job.severity ++ after ∧
        ∀ name' technique' severity', ∃ insert' : Step,
          plan { job with name := name', technique := technique', severity := severity' } ctx =
            .ok { p with steps := [source, view, sink, name, insert'] } ∧
          insert'.label = insert.label ∧ insert'.object = insert.object ∧
          insert'.sql = before ++ Sql.Literal.quote name' ++ "," ++ Sql.Literal.quote technique'
            ++ "," ++ Sql.Literal.quote severity' ++ after := by
  obtain ⟨source, view, sink, name, insert, hsteps, hsource, hview, hsink, hname, hinsert⟩ :=
    exists_steps h
  obtain ⟨hid, hobject, hp⟩ := (job.plan_eq_ok_iff ctx p).mp h
  have hsql : insert.sql = "EXECUTE STATEMENT SET BEGIN INSERT INTO rule_sink_" ++ job.id
      ++ " SELECT " ++ job.selectText ctx :=
    (job.render_insert ctx insert.sql).mp hinsert.render_eq
  refine ⟨source, view, sink, name, insert, hsteps, ?_, ?_, ?_, ?_, ?_⟩
  · refine ⟨(Plan.sourceConnector job.predictor ctx).text, ?_⟩
    rw [hsource.sql_eq, Sql.Statement.text_createTable, ← items_sourceSchema]
    simp only [← String.append_assoc]
    rfl
  · rw [hview.sql_eq, Sql.Statement.text_createView, Plan.text_filtered]
    apply String.toList_inj.mp
    simp
  · refine ⟨(Plan.sinkConnector job.sink ctx).text, ?_⟩
    rw [hsink.sql_eq, Sql.Statement.text_createTable, ← job.items_alertSchema ctx]
    simp only [← String.append_assoc]
    rfl
  · exact ⟨_, hsql, job.readItems_selectText ctx⟩
  · obtain ⟨before, after, haround⟩ := job.insert_around_metadata ctx
    refine ⟨before, after, hsql.trans (haround job.name job.technique job.severity),
      fun name' technique' severity' => ?_⟩
    let job' : RuleJob := { job with name := name', technique := technique', severity := severity' }
    let insert' : Step := ⟨insert.label, insert.object, job'.insertStatement ctx,
      before ++ Sql.Literal.quote name' ++ "," ++ Sql.Literal.quote technique' ++ ","
        ++ Sql.Literal.quote severity' ++ after⟩
    have hinsert' : insert'.Writes ("submit statement set", "rule_" ++ job.id,
        job'.insertStatement ctx) := by
      have hentry := hinsert.1
      simp only [Prod.mk.injEq] at hentry
      refine ⟨?_, (job'.render_insert ctx _).mpr (haround name' technique' severity').symm⟩
      rw [hentry.1, hentry.2.1]
    refine ⟨insert', (job'.plan_eq_ok_iff ctx _).mpr ⟨hid, hobject, hp.job, hp.pipeline, ?_⟩, rfl,
      rfl, rfl⟩
    exact .cons hsource (.cons hview (.cons hsink (.cons hname (.cons hinsert' .nil))))

/-- A rule whose metadata are full of quotes, commas and SQL: the literals are closed where they
    should be, and nothing else differs from the rule on rare logins. -/
theorem alert_row_fits_sink_hostile_metadata :
    ∃ p source view sink name insert insert', plan .rareLogin .sample = .ok p ∧
      p.steps = [source, view, sink, name, insert] ∧
      plan { rareLogin with name := "user's, 'rare'", technique := "'); DROP", severity := "'" }
        .sample = .ok { p with steps := [source, view, sink, name, insert'] } ∧
      ∃ list, insert'.sql = "EXECUTE STATEMENT SET BEGIN INSERT INTO rule_sink_r1 SELECT " ++ list ∧
        Sql.readItems 8 list.toList =
          some ([.bare "*", .bare "UUID()", .literal "2024-03-09 14:05:07", .literal "rule_r1",
              .literal "user's, 'rare'", .literal "'); DROP", .literal "'", .bare "70"],
            "entities AS object FROM rule_r1; END;".toList) := by
  obtain ⟨p, hp⟩ := rareLogin_planned
  obtain ⟨source, view, sink, name, insert, hsteps, _, _, _, _, before, after, _, hother⟩ :=
    alert_row_fits_sink rareLogin .sample p hp
  obtain ⟨insert', hplan, _⟩ := hother "user's, 'rare'" "'); DROP" "'"
  obtain ⟨_, _, _, _, _, hsteps', _, _, _, ⟨list, hsql, hread⟩, _⟩ :=
    alert_row_fits_sink _ .sample _ hplan
  cases hsteps'
  refine ⟨p, source, view, sink, name, insert, insert', hp, hsteps, hplan, list, hsql, ?_⟩
  rw [hread]
  decide +kernel

end RuleJob

end JobKeeper
