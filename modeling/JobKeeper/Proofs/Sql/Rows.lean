/-
  File:      JobKeeper/Proofs/Sql/Rows.lean
  Subject:   The rows of tables, views and queries, and the names that a statement may use.

  A table has the row of its schema and a view has the row of its query. The statements of a
  program are gone through in order, with the tables and views that there are so far. A statement
  that uses a name that nobody has created yet is refused.

  * `Statement.uses`, `Statement.define`: the names that a statement uses, and what there is after
    it;
  * `known_of_define`: what one accepted statement says of the names;
  * `created_of_defineAll`: in an accepted program each name is created before it is used.
-/
import JobKeeper.Proofs.Sql.Rendering

namespace JobKeeper.Sql

/-! ## 1. Rows -/

/-- The columns of a row in order, each with its type where that is known. -/
abbrev Row := List (String × Option String)

/-- The tables and views that there are, each with its row; the newest stands first. -/
abbrev Catalog := List (String × Row)

/-- The type of a column; an event time is a point in time to the millisecond. -/
def Column.type : Column → String
  | .physical _ type => type
  | .computed _ _ => timestampType 3

/-- The row of a table: a computed column is a column, a watermark is none. -/
def Schema.row (s : Schema) : Row := s.columns.map fun c => (c.name, some c.type)

/-- The table or view that a query reads. -/
def Query.table : Query → String
  | .select q => q.table
  | .windowCount q => q.table

/-- The row of a query. All columns of a table are the row of the table; a window count has a
    column for each expression that it selects. Of another selection the row is not known. -/
def Query.row? (catalog : Catalog) : Query → Option Row
  | .select q => if q.fields = "*" then catalog.lookup q.table else none
  | .windowCount q =>
    (catalog.lookup q.table).map fun _ => q.selectList.map fun i => (i.column, none)

/-- **The row fits the table**: it has the table's columns in the table's order, and where its types
    are known they are the table's. -/
def Row.Fits (row table : Row) : Prop :=
  List.Forall₂ (fun c t => c.1 = t.1 ∧ (c.2 = none ∨ c.2 = t.2)) row table

theorem Row.fits_self (row : Row) : row.Fits row :=
  List.forall₂_same.mpr fun _ _ => ⟨rfl, Or.inr rfl⟩

/-- The rows that the insert reads fit the table that it writes to. -/
def Insert.Fits (catalog : Catalog) (i : Insert) : Prop :=
  ∃ row table, i.query.row? catalog = some row ∧ catalog.lookup i.destination = some table ∧
    row.Fits table

/-! ## 2. Names -/

/-- The tables and views that a statement reads or writes to. -/
def Statement.uses : Statement → List String
  | .createTable _ _ _ => []
  | .createView _ query => [query.table]
  | .setOption _ _ => []
  | .statementSet inserts => inserts.flatMap fun i => [i.destination, i.query.table]

/-- What a statement leaves of the catalog: what there was, and what it creates. -/
def Statement.addTo (catalog : Catalog) : Statement → Option Catalog
  | .createTable name schema _ => some ((name, schema.row) :: catalog)
  | .createView name query => (query.row? catalog).map fun row => (name, row) :: catalog
  | .setOption _ _ => some catalog
  | .statementSet _ => some catalog

/-- The catalog after a statement, unless the statement uses what is not in the catalog. -/
def Statement.define (catalog : Catalog) (s : Statement) : Option Catalog :=
  if ∀ name ∈ s.uses, name ∈ catalog.map Prod.fst then s.addTo catalog else none

/-- The catalog after a program that begins with nothing there. -/
def defineAll (statements : List Statement) : Option Catalog :=
  statements.foldlM Statement.define []

/-- An accepted statement uses names that there are, and adds the name that it creates. -/
theorem known_of_define {catalog after : Catalog} {s : Statement}
    (h : s.define catalog = some after) :
    (∀ name ∈ s.uses, name ∈ catalog.map Prod.fst) ∧
      after.map Prod.fst = s.creates.toList ++ catalog.map Prod.fst := by
  unfold Statement.define at h
  split at h
  next huses =>
    refine ⟨huses, ?_⟩
    cases s with
    | createTable name schema connector =>
      cases h
      rfl
    | createView name query =>
      obtain ⟨row, _, rfl⟩ := Option.map_eq_some_iff.mp h
      rfl
    | setOption key value =>
      cases h
      rfl
    | statementSet inserts =>
      cases h
      rfl
  next => cases h

theorem mem_of_lookup {catalog : Catalog} {name : String} {row : Row}
    (h : catalog.lookup name = some row) : name ∈ catalog.map Prod.fst := by
  obtain ⟨before, after, rfl, _⟩ := List.lookup_eq_some_iff.mp h
  rw [List.map_append, List.map_cons]
  exact List.mem_append_right _ List.mem_cons_self

/-- A query whose row is known reads what is in the catalog. -/
theorem Query.table_mem_of_row? {catalog : Catalog} {q : Query} {row : Row}
    (h : q.row? catalog = some row) : q.table ∈ catalog.map Prod.fst := by
  cases q with
  | select q =>
    obtain ⟨_, hlookup⟩ := Option.ite_none_right_eq_some.mp h
    exact mem_of_lookup hlookup
  | windowCount q =>
    obtain ⟨_, hlookup, _⟩ := Option.map_eq_some_iff.mp h
    exact mem_of_lookup hlookup

theorem Statement.define_createTable (catalog : Catalog) (name : String) (schema : Schema)
    (connector : Connector) :
    (createTable name schema connector).define catalog = some ((name, schema.row) :: catalog) :=
  if_pos fun _ h => absurd h List.not_mem_nil

theorem Statement.define_createView {catalog : Catalog} {query : Query} {row : Row}
    (h : query.row? catalog = some row) (name : String) :
    (createView name query).define catalog = some ((name, row) :: catalog) := by
  have huses : ∀ name' ∈ (createView name query).uses, name' ∈ catalog.map Prod.fst := by
    intro name' hname
    obtain rfl := List.mem_singleton.mp hname
    exact query.table_mem_of_row? h
  rw [define, if_pos huses, addTo, h, Option.map_some]

theorem Statement.define_setOption (catalog : Catalog) (key value : String) :
    (setOption key value).define catalog = some catalog :=
  if_pos fun _ h => absurd h List.not_mem_nil

theorem Statement.define_statementSet {catalog : Catalog} {inserts : List Insert}
    (h : ∀ i ∈ inserts, i.Fits catalog) :
    (statementSet inserts).define catalog = some catalog := by
  refine if_pos fun name hname => ?_
  obtain ⟨i, hi, hused⟩ := List.mem_flatMap.mp hname
  obtain ⟨row, table, hrow, hdestination, _⟩ := h i hi
  rcases List.mem_pair.mp hused with rfl | rfl
  · exact mem_of_lookup hdestination
  · exact i.query.table_mem_of_row? hrow

/-- Whatever a program uses was there at the start or is created by an earlier statement. -/
theorem created_of_foldlM {statements : List Statement} {catalog after : Catalog}
    (h : statements.foldlM Statement.define catalog = some after) :
    ∀ before s rest, statements = before ++ s :: rest → ∀ name ∈ s.uses,
      name ∈ catalog.map Prod.fst ∨ ∃ s' ∈ before, s'.creates = some name := by
  induction statements generalizing catalog with
  | nil =>
    intro before s rest hsplit
    cases before <;> cases hsplit
  | cons first statements ih =>
    rw [List.foldlM_cons, Option.bind_eq_bind, Option.bind_eq_some_iff] at h
    obtain ⟨next, hfirst, hrest⟩ := h
    obtain ⟨huses, hnext⟩ := known_of_define hfirst
    intro before s rest hsplit name hname
    rcases List.append_eq_cons_iff.mp hsplit.symm with ⟨rfl, hs⟩ | ⟨before', rfl, hstatements⟩
    · obtain ⟨rfl, _⟩ := List.cons.inj hs
      exact Or.inl (huses name hname)
    · rcases ih hrest before' s rest hstatements name hname with hknown | ⟨s', hs', hcreates⟩
      · rw [hnext] at hknown
        rcases List.mem_append.mp hknown with hcreated | hknown
        · exact Or.inr ⟨first, List.mem_cons_self, Option.mem_toList.mp hcreated⟩
        · exact Or.inl hknown
      · exact Or.inr ⟨s', List.mem_cons_of_mem _ hs', hcreates⟩

/-- **In an accepted program each name is created before it is used.** -/
theorem created_of_defineAll {statements : List Statement} {catalog : Catalog}
    (h : defineAll statements = some catalog) {before rest : List Statement} {s : Statement}
    (hsplit : statements = before ++ s :: rest) {name : String} (hname : name ∈ s.uses) :
    ∃ s' ∈ before, s'.creates = some name := by
  rcases created_of_foldlM h before s rest hsplit name hname with hknown | hcreated
  · exact absurd hknown List.not_mem_nil
  · exact hcreated

end JobKeeper.Sql
