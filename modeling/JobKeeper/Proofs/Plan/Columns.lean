/-
  File:      JobKeeper/Proofs/Plan/Columns.lean
  Subject:   The columns that a plan renders, and the schema that they come from.

  A schema is an object of a job's document, and the order in which an object is written is not to be
  relied on. Its columns stand in the order of their names instead, so two writings of one schema
  make one plan, and whoever sorts the same columns by name has them in this order.

  * `Form.Reordered`: a schema anywhere in a document, written in another order;
  * `Job.schemaDoc?`: the schema of a job's columns as it is written;
  * `Stream.columns_written`: which columns a written schema makes;
  * `Job.RendersColumns`: the tables of a plan that begin with the columns, two for each kind;
  * `Job.plans_ignore_schema_order`: all of it for the text of a job.
-/
import JobKeeper.Proofs.Job.Forms
import JobKeeper.Proofs.Json.Elements
import JobKeeper.Proofs.Plan.AlertRow
import JobKeeper.Proofs.Plan.BehaviorRow
import JobKeeper.Proofs.Plan.Faults
import JobKeeper.Proofs.Text.ByteOrder
import Mathlib.Data.List.Sort
import Mathlib.Logic.Relation

namespace JobKeeper

open Json (Doc Record)

/-! ## 1. Schemas in another order -/

/-- **A schema at any depth of a document, with different keys and in another order.** -/
def Form.Reordered (whole : Form) (doc doc' : Doc) : Prop :=
  ∃ (around : Doc → Doc) (fields fields' : List (Option String × Doc)),
    Place whole .schema around ∧ fields.Perm fields' ∧ (fields.map (·.1)).Nodup ∧
      doc = around (.object fields) ∧ doc' = around (.object fields')

theorem Form.Reordered.read_eq {whole : Form} {doc doc' : Doc} (h : whole.Reordered doc doc')
    (room : Nat) : whole.read room doc = whole.read room doc' := by
  obtain ⟨around, fields, fields', hplace, hperm, hkeys, rfl, rfl⟩ := h
  have same : ∀ room, Form.schema.read room (.object fields) =
      Form.schema.read room (.object fields') := fun _ => Record.dictOf?_perm hperm hkeys
  exact hplace.read_congr same room

/-- Any number of schemas, one after another. -/
theorem Form.read_of_reordered {whole : Form} {doc doc' : Doc}
    (h : Relation.ReflTransGen whole.Reordered doc doc') (room : Nat) :
    whole.read room doc = whole.read room doc' := by
  induction h with
  | refl => rfl
  | tail _ last ih => exact ih.trans (last.read_eq room)

/-! ## 2. The columns of a written schema -/

/-- The entries of a schema as they are written. -/
def writtenEntries (entries : List (String × String)) : List (Option String × Doc) :=
  entries.map fun e => (some e.1, .string (some e.2))

/-- What a schema is read from. -/
theorem schema_eq_some_iff (doc : Doc) (schema : Dict String) :
    Record.dictOf? Record.textOf? doc = some schema ↔
      ∃ entries, doc = .object (writtenEntries entries) ∧ schema = Dict.ofList entries := by
  rw [Record.dictOf?_eq_some_iff]
  have written : ∀ {fields : List (Option String × Doc)} {entries : List (String × String)},
      List.Forall₂ (Record.Entry Record.textOf?) fields entries ↔
        fields = writtenEntries entries := by
    intro fields entries
    rw [writtenEntries, ← List.forall₂_eq_eq_eq, List.forall₂_map_right_iff]
    refine ⟨fun h => h.imp fun f e hfe => ?_, fun h => h.imp fun f e hfe => ?_⟩
    · exact Prod.ext hfe.1 ((Record.textOf?_eq_some_iff f.2 e.2).mp hfe.2)
    · rw [hfe]
      exact ⟨rfl, rfl⟩
  constructor
  · rintro ⟨fields, entries, rfl, h, rfl⟩
    exact ⟨entries, congrArg Doc.object (written.mp h), rfl⟩
  · rintro ⟨entries, rfl, rfl⟩
    exact ⟨_, entries, rfl, written.mpr rfl, rfl⟩

/-- **The columns of a schema that is written so**: in strictly ascending order of the bytes of
    their names, one for each name that is written, with the type that stands last under it. -/
structure ColumnsOf (entries columns : List (String × String)) : Prop where
  ascending : columns.Pairwise fun a b => Text.utf8Bytes a.1 < Text.utf8Bytes b.1
  /-- A column is the last entry of its name. -/
  last : ∀ name type, (name, type) ∈ columns ↔
    ∃ before after, entries = before ++ (name, type) :: after ∧ ∀ e ∈ after, e.1 ≠ name
  /-- Each name that is written has one column. -/
  once : ∀ e ∈ entries, (columns.map (·.1)).count e.1 = 1
  /-- Whatever order the columns come in, sorted by name they stand in this one. -/
  sorted : ∀ l, l.Perm columns →
    l.Pairwise (fun a b => Text.utf8Bytes a.1 ≤ Text.utf8Bytes b.1) → l = columns

theorem Stream.columns_written {s : Stream} {entries : List (String × String)}
    (h : s.schema = Dict.ofList entries) : ColumnsOf entries s.columns := by
  have hascending : s.columns.Pairwise fun a b => Text.utf8Bytes a.1 < Text.utf8Bytes b.1 :=
    s.schema.ascending.imp fun hab => (Text.lt_iff_utf8Bytes_lt _ _).mp hab
  refine ⟨hascending, fun name type => ?_, fun e he => ?_, fun l hl hsorted => ?_⟩
  · rw [columns, h, Dict.mem_entries_ofList_iff]
  · have hkey : e.1 ∈ s.schema.keys := by
      rw [h, Dict.mem_keys_ofList]
      exact List.mem_map_of_mem he
    exact List.count_eq_one_of_mem s.schema.nodup_keys hkey
  · -- two of the columns that do not come before each other have the same name
    refine hl.eq_of_pairwise (fun a b ha hb hab hba => ?_) hsorted (hascending.imp List.le_of_lt)
    have hname : a.1 = b.1 := by
      refine Dict.eq_of_not_lt (fun hlt => ?_) fun hlt => ?_
      · exact List.not_lt.mpr hba ((Text.lt_iff_utf8Bytes_lt _ _).mp hlt)
      · exact List.not_lt.mpr hab ((Text.lt_iff_utf8Bytes_lt _ _).mp hlt)
    have ha' := (s.schema.get?_eq_some_iff a.1 a.2).mpr (hl.mem_iff.mp ha)
    rw [hname, (s.schema.get?_eq_some_iff b.1 b.2).mpr hb] at ha'
    exact Prod.ext hname (Option.some.inj ha').symm

/-! ## 3. The columns of a job -/

/-- The field of a job's document with the stream that its columns are those of. -/
def JobKind.columnField : JobKind → String
  | .behavior => "source_config"
  | .rule => "profile_predictor_config"

/-- The stream that a job takes its columns from. -/
def Job.columnStream : Job → Stream
  | .behavior job => job.source
  | .rule job => job.predictor

/-- The schema of a job's columns as its document gives it, if it does. -/
def Job.schemaDoc? (kind : JobKind) (doc : Doc) : Option Doc := do
  let job ← Record.ofDoc? kind.form.names doc
  let stream ← Record.ofDoc? Stream.fieldNames (← job.get? kind.columnField)
  stream.get? "schema"

/-- The stream of a job's columns is read from its field. -/
theorem Job.columnStream_of_ofDoc? {kind : JobKind} {room : Nat} {doc : Doc} {job : Job}
    (h : ofDoc? kind room doc = some job) :
    ∃ r, Record.ofDoc? kind.form.names doc = some r ∧
      r.read kind.columnField {} Stream.ofDoc? = some job.columnStream := by
  cases kind with
  | behavior =>
    obtain ⟨job, hjob, rfl⟩ := Option.map_eq_some_iff.mp h
    obtain ⟨r, hr, hfrom⟩ := (BehaviorJob.ofDoc?_eq_some_iff room doc job).mp hjob
    exact ⟨r, hr, hfrom.source⟩
  | rule =>
    obtain ⟨job, hjob, rfl⟩ := Option.map_eq_some_iff.mp h
    obtain ⟨r, hr, hfrom⟩ := (RuleJob.ofDoc?_eq_some_iff doc job).mp hjob
    exact ⟨r, hr, hfrom.predictor⟩

/-- **The schema of a job's columns is the map of what is written**, or empty if nothing is. -/
theorem Job.schema_written {kind : JobKind} {room : Nat} {doc : Doc} {job : Job}
    (h : ofDoc? kind room doc = some job) :
    ∃ entries, job.columnStream.schema = Dict.ofList entries ∧
      (schemaDoc? kind doc = some (.object (writtenEntries entries)) ∨
        schemaDoc? kind doc = none ∧ entries = []) := by
  obtain ⟨r, hr, hstream⟩ := columnStream_of_ofDoc? h
  unfold schemaDoc?
  rw [hr, Option.bind_eq_bind, Option.bind_some]
  unfold Record.read at hstream
  cases hget : r.get? kind.columnField with
  | none =>
    rw [hget] at hstream
    refine ⟨[], ?_, Or.inr ⟨rfl, rfl⟩⟩
    rw [← Option.some.inj hstream]
    rfl
  | some d =>
    rw [hget] at hstream
    obtain ⟨r', hr', hfrom⟩ := (Stream.ofDoc?_eq_some_iff d _).mp hstream
    have hschema := hfrom.schema
    unfold Record.read at hschema
    rw [Option.bind_eq_bind, Option.bind_some, hr', Option.bind_some]
    cases hget' : r'.get? "schema" with
    | none =>
      rw [hget'] at hschema
      exact ⟨[], (Option.some.inj hschema).symm, Or.inr ⟨rfl, rfl⟩⟩
    | some schema =>
      rw [hget'] at hschema
      obtain ⟨entries, rfl, hentries⟩ := (schema_eq_some_iff schema _).mp hschema
      exact ⟨entries, hentries, Or.inl rfl⟩

/-! ## 4. The columns in the tables of a plan -/

/-- The columns as items of a column list. -/
def columnItems (columns : List (String × String)) : List String :=
  columns.map fun c => c.1 ++ " " ++ c.2

/-- The text of a table whose column list begins with the columns. -/
def columnTable (name : String) (columns : List (String × String)) (appended : List String)
    (connector : Sql.Connector) : String :=
  "CREATE TABLE " ++ name ++ "(" ++ Text.join "," (columnItems columns ++ appended) ++ ") WITH ("
    ++ connector.text ++ ")"

/-- **The tables of a plan that have the columns**: the source and one sink. A behavior appends the
    event time to them, and a rule appends the columns of an alert in its sink. -/
def Job.RendersColumns (ctx : PlanContext) (columns : List (String × String)) (p : Plan) :
    Job → Prop
  | .behavior job =>
    ∃ field, job.source.timestampField = some field ∧
      p.statements[0]? = some (columnTable ("source_" ++ job.id) columns
        [BehaviorJob.eventTime ++ " AS CAST(" ++ field ++ " as TIMESTAMP(3))",
         Sql.watermarkText BehaviorJob.eventTime]
        (Plan.sourceConnector job.source ctx)) ∧
      p.statements[3]? = some (columnTable ("behavior_sink_" ++ job.id) columns
        [BehaviorJob.eventTime ++ " TIMESTAMP(3)"] (Plan.sinkConnector job.behaviorOutput ctx))
  | .rule job =>
    p.statements[0]? = some (columnTable ("profiling_predictor_" ++ job.id) columns []
        (Plan.sourceConnector job.predictor ctx)) ∧
      p.statements[2]? = some (columnTable ("rule_sink_" ++ job.id) columns
        (columnItems RuleJob.alertColumns) (Plan.sinkConnector job.sink ctx))

/-- A table whose items are the columns and what is appended to them. -/
theorem Step.Writes.sql_columnTable {label object name : String} {schema : Sql.Schema}
    {connector : Sql.Connector} {s : Step}
    (h : s.Writes (label, object, .createTable name schema connector))
    {columns : List (String × String)} {appended : List String}
    (hitems : schema.items = columnItems columns ++ appended) :
    s.sql = columnTable name columns appended connector := by
  have htext := h.sql_eq.trans (Sql.Statement.text_createTable name schema connector)
  rw [hitems] at htext
  exact htext

theorem RuleJob.items_alertSchema_eq (job : RuleJob) :
    job.alertSchema.items = columnItems job.predictor.columns ++ columnItems alertColumns := by
  rw [alertSchema_eq, Sql.Schema.items, List.map_append, Sql.Column.map_ofPairs,
    Sql.Column.map_ofPairs]
  exact List.append_nil _

/-- **Every plan renders the columns in two of its tables**, in the order of the names. -/
theorem Job.rendersColumns {job : Job} {ctx : PlanContext} {p : Plan} (h : job.plan ctx = .ok p) :
    job.RendersColumns ctx job.columnStream.columns p := by
  cases job with
  | behavior job =>
    obtain ⟨_, field, hfield, hp⟩ := (job.plan_eq_ok_iff ctx p).mp h
    have htexts : p.statements = job.texts ctx field := by
      rw [hp.statements_eq, BehaviorJob.map_text_outline]
    refine ⟨field, BehaviorJob.timestampField_of_sourceTimestamp hfield, ?_, ?_⟩
    · rw [htexts]
      rfl
    · rw [htexts]
      rfl
  | rule job =>
    obtain ⟨source, view, sink, name, insert, hsteps, hsource, _, hsink, _⟩ :=
      RuleJob.exists_steps h
    have hsource_sql : source.sql = columnTable ("profiling_predictor_" ++ job.id)
        job.predictor.columns [] (Plan.sourceConnector job.predictor ctx) :=
      hsource.sql_columnTable (job.items_sourceSchema.trans (List.append_nil _).symm)
    have hsink_sql : sink.sql = columnTable ("rule_sink_" ++ job.id) job.predictor.columns
        (columnItems RuleJob.alertColumns) (Plan.sinkConnector job.sink ctx) :=
      hsink.sql_columnTable job.items_alertSchema_eq
    have hstatements : p.statements = [source, view, sink, name, insert].map (·.sql) := by
      rw [Plan.statements, hsteps]
    constructor
    · rw [hstatements]
      exact congrArg some hsource_sql
    · rw [hstatements]
      exact congrArg some hsink_sql

/-! ## 5. Plans and the order of schemas -/

/-- **Plans do not depend on the order in which schemas are written.** If another text differs in
    nothing but the order of the entries of schemas with different keys, it is read as a job with
    the same plans, text by text. And in the plans of a job that is read, the columns are those of
    the schema as it is written, whether or not its keys are different: in strictly ascending order
    of the bytes of their names, one for each key, with the type that stands last under it. Two
    tables of each plan begin with them. -/
theorem Job.plans_ignore_schema_order {kind : JobKind} {text : String} {doc : Doc}
    (hdoc : Doc.ofText? text = some doc) :
    (∀ text' doc', Doc.ofText? text' = some doc' →
      Relation.ReflTransGen kind.form.Reordered doc doc' →
      ∀ ctx, (ofText? kind text').map (fun job => job.plan ctx) =
        (ofText? kind text).map fun job => job.plan ctx) ∧
    ∀ job, ofText? kind text = some job →
      ∃ entries columns,
        (schemaDoc? kind doc = some (.object (writtenEntries entries)) ∨
          schemaDoc? kind doc = none ∧ entries = []) ∧
        ColumnsOf entries columns ∧
        ∀ ctx p, job.plan ctx = .ok p → job.RendersColumns ctx columns p := by
  constructor
  · intro text' doc' hdoc' h ctx
    rw [ofText?_congr hdoc hdoc' (Form.read_of_reordered h)]
  · intro job hjob
    have hread : ofDoc? kind Json.deepest doc = some job := by
      rw [ofText?, hdoc, Option.bind_some] at hjob
      exact hjob
    obtain ⟨entries, hschema, hwritten⟩ := schema_written hread
    exact ⟨entries, _, hwritten, Stream.columns_written hschema, fun ctx p => rendersColumns⟩

/-- A rule whose predictor has two columns, in either order. -/
theorem Job.plans_ignore_schema_order_two_columns :
    let text (schema : String) := "\x7b\"id\":\"r1\",\"object\":\"host\",\"filter\":\"n > 9\","
      ++ "\"profile_predictor_config\":\x7b\"schema\":\x7b" ++ schema ++ "\x7d\x7d\x7d"
    let plan (schema : String) := (ofText? .rule (text schema)).map fun job => job.plan .sample
    ∃ p columns, plan "\"n\":\"INT\",\"host\":\"STRING\"" = some (.ok p) ∧
      plan "\"host\":\"STRING\",\"n\":\"INT\"" = some (.ok p) ∧
      ColumnsOf [("n", "INT"), ("host", "STRING")] columns ∧
      ∃ connector, p.statements[0]? =
        some (columnTable "profiling_predictor_r1" columns [] connector) := by
  intro text plan
  let doc (schema : List (Option String × Doc)) : Doc :=
    .object [(some "id", .string (some "r1")), (some "object", .string (some "host")),
      (some "filter", .string (some "n > 9")),
      (some "profile_predictor_config", .object [(some "schema", .object schema)])]
  let tokens (schema : List Json.Token) : List Json.Token :=
    [.openObject, .string (some "id"), .colon, .string (some "r1"), .comma,
      .string (some "object"), .colon, .string (some "host"), .comma,
      .string (some "filter"), .colon, .string (some "n > 9"), .comma,
      .string (some "profile_predictor_config"), .colon, .openObject,
      .string (some "schema"), .colon, .openObject] ++ schema
      ++ [.closeObject, .closeObject, .closeObject]
  have hdoc : Doc.ofText? (text "\"n\":\"INT\",\"host\":\"STRING\"") =
      some (doc (writtenEntries [("n", "INT"), ("host", "STRING")])) :=
    Doc.ofText?_of_tokens (tokens [.string (some "n"), .colon, .string (some "INT"), .comma,
      .string (some "host"), .colon, .string (some "STRING")]) (by decide +kernel) rfl
  have hdoc' : Doc.ofText? (text "\"host\":\"STRING\",\"n\":\"INT\"") =
      some (doc (writtenEntries [("host", "STRING"), ("n", "INT")])) :=
    Doc.ofText?_of_tokens (tokens [.string (some "host"), .colon, .string (some "STRING"), .comma,
      .string (some "n"), .colon, .string (some "INT")]) (by decide +kernel) rfl
  have schema : Place .ruleJob .schema fun d =>
      .object [(some "id", .string (some "r1")), (some "object", .string (some "host")),
        (some "filter", .string (some "n > 9")),
        (some "profile_predictor_config", .object [(some "schema", d)])] :=
    .field rfl [_, _, _] [] (.field rfl [] [] (.here .schema))
  have reordered : Form.ruleJob.Reordered (doc (writtenEntries [("n", "INT"), ("host", "STRING")]))
      (doc (writtenEntries [("host", "STRING"), ("n", "INT")])) :=
    ⟨_, _, _, schema, .swap _ _ [], by decide, rfl, rfl⟩
  have planned : ((ofText? .rule (text "\"n\":\"INT\",\"host\":\"STRING\"")).map fun job =>
      (job.kind, job.id, (errorOf? (job.plan .sample)).isNone)) = some (.rule, "r1", true) := by
    rw [ofText?, hdoc, Option.bind_some]
    decide +kernel
  obtain ⟨same, rendered⟩ := @plans_ignore_schema_order .rule _ _ hdoc
  obtain ⟨job, hjob, hfacts⟩ := Option.map_eq_some_iff.mp planned
  obtain ⟨hkind, hid, hnone⟩ : job.kind = .rule ∧ job.id = "r1" ∧
      (errorOf? (job.plan .sample)).isNone = true := by simpa using hfacts
  obtain ⟨p, hp⟩ := errorOf?_eq_none_iff.mp (Option.isNone_iff_eq_none.mp hnone)
  obtain ⟨entries, columns, hwritten, hcolumns, hrenders⟩ := rendered job hjob
  have hplan : plan "\"n\":\"INT\",\"host\":\"STRING\"" = some (.ok p) := by
    show (ofText? .rule _).map _ = _
    rw [hjob, Option.map_some, hp]
  have hentries : entries = [("n", "INT"), ("host", "STRING")] := by
    have hschema : schemaDoc? .rule (doc (writtenEntries [("n", "INT"), ("host", "STRING")])) =
        some (.object (writtenEntries [("n", "INT"), ("host", "STRING")])) := rfl
    rw [hschema] at hwritten
    rcases hwritten with h | ⟨h, _⟩
    · refine List.map_injective_iff.mpr (fun a b hab => ?_) (Doc.object.inj (Option.some.inj h)).symm
      cases a
      cases b
      cases hab
      rfl
    · cases h
  refine ⟨p, columns, hplan, ?_, hentries ▸ hcolumns, ?_⟩
  · rw [← hplan]
    exact same _ _ hdoc' (.single reordered) .sample
  · cases job with
    | behavior job => cases hkind
    | rule job =>
      have hsource := (hrenders .sample p hp).1
      rw [show job.id = "r1" from hid] at hsource
      exact ⟨_, hsource⟩

end JobKeeper
