/-
  File:      JobKeeper/Proofs/Sql/Rendering.lean
  Subject:   When a clause or a statement can be written, and its text.

  One equivalence for each form: on the right stand the parts that must not be blank, the clauses
  that must have a text themselves, and the text of the whole. `Statement.text` is the text alone.
-/
import JobKeeper.Proofs.Except
import JobKeeper.Sql.Statement

namespace JobKeeper.Sql

/-! ## 1. Clauses -/

/-- The text of a selection. -/
def Select.text (q : Select) : String :=
  "SELECT " ++ q.fields ++ " FROM " ++ q.table ++ (q.filter.map (" WHERE " ++ ·)).getD ""

theorem Select.render_eq_ok_iff (q : Select) (sql : String) :
    q.render = .ok sql ↔ Text.isBlank q.fields = false ∧ Text.isBlank q.table = false ∧
      (∀ predicate, q.filter = some predicate → Text.isBlank predicate = false) ∧ sql = q.text := by
  obtain ⟨table, fields, filter⟩ := q
  unfold render text
  simp only [bind_eq_ok_iff, require_eq_ok_iff]
  cases filter with
  | none =>
    constructor
    · rintro ⟨_, ⟨hf, rfl⟩, _, ⟨ht, rfl⟩, h⟩
      cases h
      exact ⟨hf, ht, fun _ h => (nomatch h), by simp⟩
    · rintro ⟨hf, ht, _, rfl⟩
      exact ⟨fields, ⟨hf, rfl⟩, table, ⟨ht, rfl⟩, by simp [pure, Except.pure]⟩
  | some predicate =>
    simp only [bind_eq_ok_iff, require_eq_ok_iff]
    constructor
    · rintro ⟨_, ⟨hf, rfl⟩, _, ⟨ht, rfl⟩, _, ⟨hp, rfl⟩, h⟩
      cases h
      refine ⟨hf, ht, fun _ h => ?_, by simp [String.append_assoc]⟩
      cases h
      exact hp
    · rintro ⟨hf, ht, hp, rfl⟩
      exact ⟨fields, ⟨hf, rfl⟩, table, ⟨ht, rfl⟩, predicate, ⟨hp predicate rfl, rfl⟩,
        by simp [String.append_assoc, pure, Except.pure]⟩

/-- An expression of a select list, and the name that it is given if it is given one. -/
structure Projected where
  expression : String
  named : Option String := none

def Projected.text (i : Projected) : String :=
  match i.named with
  | none => i.expression
  | some name => i.expression ++ " AS " ++ name

/-- The name of the column that an expression becomes. -/
def Projected.column (i : Projected) : String := i.named.getD i.expression

/-- The select list of a window count. -/
def WindowCount.selectList (q : WindowCount) : List Projected :=
  [⟨"window_start", none⟩, ⟨"window_end", none⟩, ⟨"COUNT(*)", "cnt"⟩,
   ⟨keyText q.entities, "entities"⟩, ⟨keyText q.attributes, "attributes"⟩]

/-- The text of a window count. -/
def WindowCount.text (q : WindowCount) : String :=
  "SELECT " ++ Text.join "," (q.selectList.map Projected.text) ++ " FROM TABLE(TUMBLE(TABLE "
    ++ q.table ++ ", DESCRIPTOR(" ++ q.timestampField ++ "), INTERVAL '" ++ toString q.minutes
    ++ "' MINUTES)) GROUP BY " ++ Text.join "," q.groupBy

/-- The text of a window count in one piece. -/
theorem WindowCount.text_eq (q : WindowCount) :
    q.text = "SELECT window_start,window_end,COUNT(*) AS cnt,"
      ++ (keyText q.entities ++ " AS " ++ "entities") ++ ","
      ++ (keyText q.attributes ++ " AS " ++ "attributes") ++ " FROM TABLE(TUMBLE(TABLE "
      ++ q.table ++ ", DESCRIPTOR(" ++ q.timestampField ++ "), INTERVAL '" ++ toString q.minutes
      ++ "' MINUTES)) GROUP BY " ++ Text.join "," q.groupBy := by
  have hselect : Text.join "," (q.selectList.map Projected.text) =
      "window_start,window_end,COUNT(*) AS cnt," ++ (keyText q.entities ++ " AS " ++ "entities")
        ++ "," ++ (keyText q.attributes ++ " AS " ++ "attributes") := by
    simp only [selectList, Projected.text, List.map_cons, List.map_nil, Text.join_cons_cons,
      Text.join_singleton, ← String.append_assoc]
    rfl
  -- The equation that `rw [text]` would make of so long a text takes seconds.
  delta text
  simp only [hselect, ← String.append_assoc]
  rfl

theorem projectGroup_eq_ok_iff (group : String) (fields : List String) (sql : String) :
    projectGroup group fields = .ok sql ↔ fields ≠ [] ∧ sql = keyText fields ++ " AS " ++ group := by
  unfold projectGroup
  cases fields with
  | nil => simp
  | cons field rest => simp [eq_comm]

theorem WindowCount.render_eq_ok_iff (q : WindowCount) (sql : String) :
    q.render = .ok sql ↔ Text.isBlank q.table = false ∧ Text.isBlank q.timestampField = false ∧
      1 ≤ q.minutes ∧ q.entities ≠ [] ∧ q.attributes ≠ [] ∧ sql = q.text := by
  rw [q.text_eq]
  unfold render
  by_cases hminutes : q.minutes < 1
  · simp only [bind_eq_ok_iff, if_pos hminutes]
    constructor
    · rintro ⟨_, _, _, _, _, h, _⟩
      cases h
    · rintro ⟨_, _, h, _⟩
      omega
  · simp only [bind_eq_ok_iff, require_eq_ok_iff, projectGroup_eq_ok_iff, if_neg hminutes]
    constructor
    · rintro ⟨_, ⟨htable, rfl⟩, _, ⟨hts, rfl⟩, _, ⟨hentities, rfl⟩, _, ⟨hattributes, rfl⟩, h⟩
      exact ⟨htable, hts, by omega, hentities, hattributes, (Except.ok.inj h).symm⟩
    · rintro ⟨htable, hts, _, hentities, hattributes, rfl⟩
      exact ⟨q.table, ⟨htable, rfl⟩, q.timestampField, ⟨hts, rfl⟩, _, ⟨hentities, rfl⟩, _,
        ⟨hattributes, rfl⟩, rfl⟩

theorem Schema.render_eq_ok_iff (s : Schema) (sql : String) :
    s.render = .ok sql ↔ (s.watermark = none ∨ s.rejected = none) ∧ s.columns ≠ [] ∧
      sql = Text.join "," s.items := by
  unfold render
  split
  · next hw hr => simp [hw, hr]
  · next hone =>
    have honce : s.watermark = none ∨ s.rejected = none := by
      cases hw : s.watermark with
      | none => exact Or.inl rfl
      | some existing =>
        cases hr : s.rejected with
        | none => exact Or.inr rfl
        | some requested => exact absurd hr (hone existing requested hw)
    by_cases hempty : s.columns = []
    · simp [hempty]
    · have hcolumns : s.columns.isEmpty = false := by simpa using hempty
      rw [hcolumns, if_neg Bool.false_ne_true]
      exact ⟨fun h => ⟨honce, hempty, (Except.ok.inj h).symm⟩, fun h => h.2.2 ▸ rfl⟩

/-- Without an event time, added columns are added items. -/
theorem Schema.items_addColumns {s : Schema} (hs : s.watermark = none)
    (columns : List (String × String)) :
    (s.addColumns columns).items = s.items ++ columns.map fun c => c.1 ++ " " ++ c.2 := by
  have hw : (s.addColumns columns).watermark = none :=
    (watermark_addColumns s columns).1.trans hs
  rw [items, items, hw, hs, columns_addColumns]
  simp [Function.comp_def, Column.text]

/-- The text of a connector: its options in the order of their keys. -/
def Connector.text (c : Connector) : String :=
  Text.join "," (c.options.entries.map fun o => optionText o.1 o.2)

theorem Connector.render_eq_ok_iff (c : Connector) (sql : String) :
    c.render = .ok sql ↔ c.options.isEmpty = false ∧ sql = c.text := by
  unfold render text
  cases hempty : c.options.isEmpty <;> simp [eq_comm]

/-- The text of a connector is never empty: it begins with the quote of its first option. -/
theorem Connector.ne_empty_of_render {c : Connector} {sql : String} (h : c.render = .ok sql) :
    sql ≠ "" := by
  obtain ⟨hempty, rfl⟩ := (c.render_eq_ok_iff sql).mp h
  cases hoptions : c.options.entries with
  | nil => simp [Dict.isEmpty, hoptions] at hempty
  | cons option rest =>
    intro he
    rw [text, hoptions, List.map_cons, Text.join_cons] at he
    have hhead := congrArg String.toList he
    split at hhead <;> simp [optionText, Literal.toList_quote] at hhead

/-! ## 2. Statements -/

theorem Statement.render_createTable (name : String) (schema : Schema) (connector : Connector)
    (sql : String) :
    (Statement.createTable name schema connector).render = .ok sql ↔
      ∃ columns options, schema.render = .ok columns ∧ connector.render = .ok options ∧
        Text.isBlank name = false ∧ Text.isBlank columns = false ∧
        sql = "CREATE TABLE " ++ name ++ "(" ++ columns ++ ") WITH (" ++ options ++ ")" := by
  have written : ∀ columns options, options ≠ "" →
      (Sql.createTable name columns (some options) = .ok sql ↔ Text.isBlank name = false ∧
        Text.isBlank columns = false ∧
        sql = "CREATE TABLE " ++ name ++ "(" ++ columns ++ ") WITH (" ++ options ++ ")") := by
    intro columns options hoptions
    unfold Sql.createTable
    rw [bind_eq_ok_iff]
    simp only [require_eq_ok_iff]
    cases hcolumns : Text.isBlank columns with
    | true =>
      constructor
      · rintro ⟨_, _, h⟩
        cases h
      · rintro ⟨_, h, _⟩
        cases h
    | false =>
      have hsome : (some options).filter (fun o => decide (o ≠ "")) = some options := by
        simp [hoptions]
      rw [hsome]
      constructor
      · rintro ⟨_, ⟨hname, rfl⟩, h⟩
        cases h
        exact ⟨hname, rfl, rfl⟩
      · rintro ⟨hname, _, rfl⟩
        exact ⟨name, ⟨hname, rfl⟩, rfl⟩
  rw [Statement.render, bind_eq_ok_iff]
  constructor
  · rintro ⟨columns, hcolumns, h⟩
    obtain ⟨options, hoptions, h⟩ := bind_eq_ok_iff.mp h
    exact ⟨columns, options, hcolumns, hoptions,
      (written columns options (Connector.ne_empty_of_render hoptions)).mp h⟩
  · rintro ⟨columns, options, hcolumns, hoptions, h⟩
    exact ⟨columns, hcolumns, bind_eq_ok_iff.mpr ⟨options, hoptions,
      (written columns options (Connector.ne_empty_of_render hoptions)).mpr h⟩⟩

theorem Statement.render_createView (name : String) (query : Query) (sql : String) :
    (Statement.createView name query).render = .ok sql ↔
      ∃ text, query.render = .ok text ∧ Text.isBlank name = false ∧ Text.isBlank text = false ∧
        sql = "CREATE VIEW " ++ name ++ " AS " ++ text := by
  rw [Statement.render, bind_eq_ok_iff]
  refine exists_congr fun text => and_congr_right fun _ => ?_
  unfold Sql.createView
  simp only [bind_eq_ok_iff, require_eq_ok_iff]
  constructor
  · rintro ⟨_, ⟨hname, rfl⟩, _, ⟨htext, rfl⟩, h⟩
    cases h
    exact ⟨hname, htext, rfl⟩
  · rintro ⟨hname, htext, rfl⟩
    exact ⟨name, ⟨hname, rfl⟩, text, ⟨htext, rfl⟩, rfl⟩

theorem Statement.render_setOption (key value sql : String) :
    (Statement.setOption key value).render = .ok sql ↔ Text.isBlank key = false ∧
      sql = "SET " ++ Literal.quote key ++ " = " ++ Literal.quote value := by
  unfold Statement.render Sql.setOption
  simp only [bind_eq_ok_iff, require_eq_ok_iff]
  constructor
  · rintro ⟨_, ⟨hkey, rfl⟩, h⟩
    exact ⟨hkey, (Except.ok.inj h).symm⟩
  · rintro ⟨hkey, rfl⟩
    exact ⟨key, ⟨hkey, rfl⟩, rfl⟩

theorem Insert.render_eq_ok_iff (i : Insert) (sql : String) :
    i.render = .ok sql ↔ ∃ query, i.query.render = .ok query ∧
      Text.isBlank i.destination = false ∧ Text.isBlank query = false ∧
      sql = "INSERT INTO " ++ i.destination ++ " " ++ query := by
  unfold render insertInto
  simp only [bind_eq_ok_iff, require_eq_ok_iff]
  constructor
  · rintro ⟨query, hquery, _, ⟨hd, rfl⟩, _, ⟨hq, rfl⟩, h⟩
    cases h
    exact ⟨_, hquery, hd, hq, rfl⟩
  · rintro ⟨query, hquery, hd, hq, rfl⟩
    exact ⟨query, hquery, i.destination, ⟨hd, rfl⟩, query, ⟨hq, rfl⟩, rfl⟩

theorem Statement.render_statementSet (inserts : List Insert) (sql : String) :
    (Statement.statementSet inserts).render = .ok sql ↔
      ∃ texts, List.Forall₂ (fun i text => i.render = .ok text) inserts texts ∧ texts ≠ [] ∧
        sql = "EXECUTE STATEMENT SET BEGIN"
          ++ Text.join "" (texts.map fun text => " " ++ text ++ ";") ++ " END;" := by
  rw [Statement.render, bind_eq_ok_iff]
  simp only [mapM_eq_ok_iff]
  refine exists_congr fun texts => and_congr_right fun _ => ?_
  unfold Sql.statementSet
  cases texts with
  | nil => simp
  | cons text texts => simp [eq_comm]

/-! ## 3. Texts -/

/-- The text of a query. -/
def Query.text : Query → String
  | .select q => q.text
  | .windowCount q => q.text

theorem Query.eq_text_of_render {q : Query} {sql : String} (h : q.render = .ok sql) :
    sql = q.text := by
  cases q with
  | select q => exact ((q.render_eq_ok_iff sql).mp h).2.2.2
  | windowCount q => exact ((q.render_eq_ok_iff sql).mp h).2.2.2.2.2

/-- The text of an insert. -/
def Insert.text (i : Insert) : String :=
  "INSERT INTO " ++ i.destination ++ " " ++ i.query.text

theorem Insert.eq_text_of_render {i : Insert} {sql : String} (h : i.render = .ok sql) :
    sql = i.text := by
  obtain ⟨query, hquery, _, _, rfl⟩ := (i.render_eq_ok_iff sql).mp h
  obtain rfl := Query.eq_text_of_render hquery
  rfl

/-- The text of a statement. -/
def Statement.text : Statement → String
  | .createTable name schema connector =>
    "CREATE TABLE " ++ name ++ "(" ++ Text.join "," schema.items ++ ") WITH (" ++ connector.text
      ++ ")"
  | .createView name query => "CREATE VIEW " ++ name ++ " AS " ++ query.text
  | .setOption key value => "SET " ++ Literal.quote key ++ " = " ++ Literal.quote value
  | .statementSet inserts =>
    "EXECUTE STATEMENT SET BEGIN" ++ Text.join "" (inserts.map fun i => " " ++ i.text ++ ";")
      ++ " END;"

theorem Statement.text_createTable (name : String) (schema : Schema) (connector : Connector) :
    (createTable name schema connector).text =
      "CREATE TABLE " ++ name ++ "(" ++ Text.join "," schema.items ++ ") WITH (" ++ connector.text
        ++ ")" := by
  delta text
  rfl

theorem Statement.text_createView (name : String) (query : Query) :
    (createView name query).text = "CREATE VIEW " ++ name ++ " AS " ++ query.text := by
  delta text
  rfl

theorem Statement.text_setOption (key value : String) :
    (setOption key value).text = "SET " ++ Literal.quote key ++ " = " ++ Literal.quote value := by
  delta text
  rfl

theorem Statement.text_statementSet (inserts : List Insert) :
    (statementSet inserts).text =
      "EXECUTE STATEMENT SET BEGIN" ++ Text.join "" (inserts.map fun i => " " ++ i.text ++ ";")
        ++ " END;" := by
  delta text
  rfl

/-- **A statement that can be written has one text.** -/
theorem Statement.eq_text_of_render {s : Statement} {sql : String} (h : s.render = .ok sql) :
    sql = s.text := by
  cases s with
  | createTable name schema connector =>
    obtain ⟨columns, options, hcolumns, hoptions, _, _, rfl⟩ :=
      (render_createTable name schema connector sql).mp h
    obtain ⟨_, _, rfl⟩ := (schema.render_eq_ok_iff columns).mp hcolumns
    obtain ⟨_, rfl⟩ := (connector.render_eq_ok_iff options).mp hoptions
    exact (text_createTable name schema connector).symm
  | createView name query =>
    obtain ⟨body, hbody, _, _, rfl⟩ := (render_createView name query sql).mp h
    obtain rfl := Query.eq_text_of_render hbody
    exact (text_createView name query).symm
  | setOption key value =>
    rw [text_setOption]
    exact ((render_setOption key value sql).mp h).2
  | statementSet inserts =>
    obtain ⟨texts, htexts, _, rfl⟩ := (render_statementSet inserts sql).mp h
    have hsame : List.Forall₂ (· = ·) texts (inserts.map Insert.text) := by
      rw [List.forall₂_map_right_iff]
      exact (htexts.imp fun _ _ hi => Insert.eq_text_of_render hi).flip
    rw [List.forall₂_eq_eq_eq] at hsame
    rw [hsame, List.map_map, text_statementSet]
    rfl

end JobKeeper.Sql
