/-
  File:      JobKeeper/Proofs/Sql/Faults.lean
  Subject:   Why a clause or a statement cannot be written: the first of its tests that fails.

  One equation for each form, with the tests in the order in which they are made. A test that
  cannot fail in the given form does not appear: the text of a query is never blank, and a table
  with one event time at most and an option at least fails for want of columns only.
-/
import JobKeeper.Proofs.Sql.Rendering

namespace JobKeeper

/-! ## 1. Blank texts -/

namespace Text

theorem isBlank_append_of_left {s : String} (h : isBlank s = false) (t : String) :
    isBlank (s ++ t) = false := by
  rw [isBlank_append, h, Bool.false_and]

/-- **A list of texts is blank** exactly if each of them is, and so is the separator if it stands
    between two of them. -/
theorem isBlank_join (sep : String) (l : List String) :
    isBlank (join sep l) = (l.all isBlank && (decide (l.length ≤ 1) || isBlank sep)) := by
  induction l with
  | nil => rfl
  | cons s l ih =>
    cases l with
    | nil => simp
    | cons t l =>
      have hall : (s :: t :: l).all isBlank = (isBlank s && (t :: l).all isBlank) := rfl
      have hlong : decide ((s :: t :: l).length ≤ 1) = false := by simp
      rw [join_cons_cons, isBlank_append, isBlank_append, ih, hall, hlong]
      cases isBlank s <;> cases isBlank sep <;> cases (t :: l).all isBlank <;> simp

/-- A list with an item that is not blank is not blank. -/
theorem isBlank_join_of_mem {l : List String} {s : String} (hs : s ∈ l) (h : isBlank s = false)
    (sep : String) : isBlank (join sep l) = false := by
  have hall : l.all isBlank = false := List.all_eq_false.mpr ⟨s, hs, by simp [h]⟩
  rw [isBlank_join, hall, Bool.false_and]

end Text

namespace Sql

/-! ## 2. Clauses -/

section Require

variable {α : Type}

theorem errorOf?_require (part value : String) :
    errorOf? (require part value) = if Text.isBlank value then some (.missing part) else none := by
  unfold require
  split <;> rfl

/-- A required part that is blank is what is wrong; otherwise it is used as it stands. -/
theorem errorOf?_require_bind (part value : String) (f : String → Except Error α) :
    errorOf? (require part value >>= f) =
      if Text.isBlank value then some (.missing part) else errorOf? (f value) := by
  unfold require
  split <;> rfl

end Require

theorem Select.errorOf?_render (q : Select) :
    errorOf? q.render =
      if Text.isBlank q.fields then some (.missing "select fields")
      else if Text.isBlank q.table then some (.missing "source table")
      else if q.filter.any Text.isBlank then some (.missing "filter predicate")
      else none := by
  unfold render
  rw [errorOf?_require_bind, errorOf?_require_bind]
  cases q.filter with
  | none => rfl
  | some predicate => rw [errorOf?_require_bind]; rfl

/-- A field group without fields is what is wrong; otherwise it has a text. -/
theorem errorOf?_projectGroup_bind {α : Type} (group : String) (fields : List String)
    (f : String → Except Error α) :
    errorOf? (projectGroup group fields >>= f) =
      if fields.isEmpty then some (.emptyFieldGroup group)
      else errorOf? (f (keyText fields ++ " AS " ++ group)) := by
  unfold projectGroup
  split <;> rfl

theorem WindowCount.errorOf?_render (q : WindowCount) :
    errorOf? q.render =
      if Text.isBlank q.table then some (.missing "source table")
      else if Text.isBlank q.timestampField then some (.missing "window timestamp field")
      else if q.minutes < 1 then some (.invalidWindow q.minutes)
      else if q.entities.isEmpty then some (.emptyFieldGroup "entities")
      else if q.attributes.isEmpty then some (.emptyFieldGroup "attributes")
      else none := by
  unfold render
  rw [errorOf?_require_bind, errorOf?_require_bind]
  by_cases hminutes : q.minutes < 1
  · simp only [if_pos hminutes]
    rfl
  · simp only [if_neg hminutes, errorOf?_projectGroup_bind]
    rfl

/-- A schema with one event time at most fails for want of columns only. -/
theorem Schema.errorOf?_render {s : Schema} (h : s.rejected = none) :
    errorOf? s.render = if s.columns.isEmpty then some .emptySchema else none := by
  unfold render
  rw [h]
  split
  · next heq => cases heq
  · split <;> rfl

theorem Connector.errorOf?_render (c : Connector) :
    errorOf? c.render = if c.options.isEmpty then some .noConnectorOptions else none := by
  unfold render
  split <;> rfl

/-- Only a connector without a single option has none to write. -/
theorem Connector.isEmpty_ofList (options : List (String × String)) :
    (ofList options).options.isEmpty = options.isEmpty := by
  have set_some : ∀ (c : Connector) (k v : String), (c.set k v).options.isEmpty = false := by
    intro c k v
    have hget : (c.set k v).options.get? k = some v := by
      rw [set, Dict.get?_insert, if_pos rfl]
    have hmem := ((c.set k v).options.get?_eq_some_iff k v).mp hget
    rw [Dict.isEmpty, List.isEmpty_eq_false_iff]
    exact List.ne_nil_of_mem hmem
  have fold_some : ∀ (options : List (String × String)) (c : Connector),
      c.options.isEmpty = false →
        (options.foldl (fun c o => c.set o.1 o.2) c).options.isEmpty = false := by
    intro options
    induction options with
    | nil => exact fun c hc => hc
    | cons o options ih => exact fun c _ => ih (c.set o.1 o.2) (set_some c o.1 o.2)
  cases options with
  | nil => rfl
  | cons o options => exact fold_some options _ (set_some {} o.1 o.2)

/-! ## 3. Queries and statements -/

/-- The text of a query is never blank. -/
theorem Query.not_blank_of_render {q : Query} {sql : String} (h : q.render = .ok sql) :
    Text.isBlank sql = false := by
  have begins : ∃ rest, sql = "SELECT " ++ rest := by
    cases q with
    | select q =>
      obtain ⟨_, _, _, rfl⟩ := (q.render_eq_ok_iff sql).mp h
      exact ⟨_, by rw [Select.text, String.append_assoc, String.append_assoc, String.append_assoc]⟩
    | windowCount q =>
      obtain ⟨_, _, _, _, _, rfl⟩ := (q.render_eq_ok_iff sql).mp h
      exact ⟨_, by delta WindowCount.text; simp only [String.append_assoc]; rfl⟩
  obtain ⟨rest, rfl⟩ := begins
  exact Text.isBlank_append_of_left rfl rest

/-- A table with a name, an option and one event time at most lacks columns, or columns that are
    more than blanks, or nothing. -/
theorem Statement.errorOf?_createTable {name : String} {schema : Schema} {connector : Connector}
    (hname : Text.isBlank name = false) (honce : schema.rejected = none)
    (hoptions : connector.options.isEmpty = false) :
    errorOf? (Statement.createTable name schema connector).render =
      if schema.columns.isEmpty then some .emptySchema
      else if Text.isBlank (Text.join "," schema.items) then some (.missingSchema name)
      else none := by
  rw [Statement.render]
  cases hempty : schema.columns.isEmpty with
  | true =>
    have hschema : schema.render = .error .emptySchema :=
      errorOf?_eq_some_iff.mp (by rw [Schema.errorOf?_render honce, hempty]; rfl)
    rw [errorOf?_bind_error hschema]
    rfl
  | false =>
    have hschema : schema.render = .ok (Text.join "," schema.items) :=
      (schema.render_eq_ok_iff _).mpr ⟨Or.inr honce, by simpa using hempty, rfl⟩
    obtain ⟨options, hrender⟩ : ∃ options, connector.render = .ok options :=
      errorOf?_eq_none_iff.mp (by rw [Connector.errorOf?_render, hoptions]; rfl)
    rw [errorOf?_bind_ok hschema, errorOf?_bind_ok hrender, Sql.createTable, errorOf?_require_bind,
      hname]
    cases hblank : Text.isBlank (Text.join "," schema.items) with
    | true => rfl
    | false =>
      simp only [Bool.false_eq_true, if_false]
      split <;> rfl

theorem Column.not_blank_text {c : Column} (h : Text.isBlank c.name = false) :
    Text.isBlank c.text = false := by
  cases c with
  | physical name type =>
    exact Text.isBlank_append_of_left (Text.isBlank_append_of_left h _) _
  | computed name source =>
    have hleft : Text.isBlank (name ++ " AS CAST(") = false := Text.isBlank_append_of_left h _
    exact Text.isBlank_append_of_left (Text.isBlank_append_of_left hleft _) _

/-- A table that has a column with a name lacks nothing. -/
theorem Statement.errorOf?_createTable_of_column {name : String} {schema : Schema}
    {connector : Connector} (hname : Text.isBlank name = false) (honce : schema.rejected = none)
    (hoptions : connector.options.isEmpty = false) {c : Column} (hc : c ∈ schema.columns)
    (hcolumn : Text.isBlank c.name = false) :
    errorOf? (Statement.createTable name schema connector).render = none := by
  have hsome : schema.columns.isEmpty = false :=
    List.isEmpty_eq_false_iff.mpr (List.ne_nil_of_mem hc)
  have hitem : c.text ∈ schema.items := List.mem_append_left _ (List.mem_map_of_mem hc)
  have htext := Text.isBlank_join_of_mem hitem (Column.not_blank_text hcolumn) ","
  rw [Statement.errorOf?_createTable hname honce hoptions, hsome, htext]
  rfl

/-- A view with a name lacks what its query lacks. -/
theorem Statement.errorOf?_createView {name : String} (hname : Text.isBlank name = false)
    (query : Query) :
    errorOf? (Statement.createView name query).render = errorOf? query.render := by
  rw [Statement.render]
  cases hquery : query.render with
  | error e => rfl
  | ok sql =>
    rw [errorOf?_bind_ok rfl, Sql.createView, errorOf?_require_bind, errorOf?_require_bind, hname,
      Query.not_blank_of_render hquery]
    rfl

theorem Statement.errorOf?_setOption (key value : String) :
    errorOf? (Statement.setOption key value).render =
      if Text.isBlank key then some (.missing "config key") else none := by
  rw [Statement.render, Sql.setOption, errorOf?_require_bind]
  rfl

/-- An insert with a destination lacks what its query lacks. -/
theorem Insert.errorOf?_render {destination : String} (h : Text.isBlank destination = false)
    (query : Query) : errorOf? (Insert.render ⟨destination, query⟩) = errorOf? query.render := by
  rw [render]
  cases hquery : query.render with
  | error e => rfl
  | ok sql =>
    rw [errorOf?_bind_ok rfl, insertInto, errorOf?_require_bind, errorOf?_require_bind, h,
      Query.not_blank_of_render hquery]
    rfl

/-- A statement set with an insert lacks what the first of its inserts does that lacks something. -/
theorem Statement.errorOf?_statementSet {inserts : List Insert} (h : inserts ≠ []) :
    errorOf? (Statement.statementSet inserts).render =
      inserts.findSome? fun i => errorOf? i.render := by
  rw [Statement.render, ← errorOf?_mapM]
  cases htexts : inserts.mapM Insert.render with
  | error e => rfl
  | ok texts =>
    have hlength := (mapM_eq_ok_iff.mp htexts).length_eq
    have hsome : texts.isEmpty = false := by
      rw [List.isEmpty_eq_false_iff, ← List.length_pos_iff, ← hlength]
      exact List.length_pos_iff.mpr h
    rw [errorOf?_bind_ok rfl, Sql.statementSet, hsome]
    rfl

end Sql

end JobKeeper
