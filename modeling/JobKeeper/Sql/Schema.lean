/-
  File:      JobKeeper/Sql/Schema.lean
  Subject:   The column list of a table, with at most one derived event time and its watermark.
-/
import JobKeeper.Sql.Error
import JobKeeper.Text.Join

namespace JobKeeper.Sql

/-! ## 1. Column types -/

/-- Text of any length. -/
def stringType : String := "STRING"

/-- Whole numbers of 64 bits. -/
def bigintType : String := "BIGINT"

/-- Points in time with so many digits after the second. -/
def timestampType (precision : Nat) : String := "TIMESTAMP(" ++ toString precision ++ ")"

/-! ## 2. Columns -/

/-- A column of a table. -/
inductive Column where
  /-- A column that the records carry. -/
  | physical (name type : String)
  /-- A column computed from the column `source` as an event time. -/
  | computed (name source : String)
  deriving DecidableEq, Repr

def Column.name : Column → String
  | .physical name _ => name
  | .computed name _ => name

/-- The column as an item of the column list. -/
def Column.text : Column → String
  | .physical name type => name ++ " " ++ type
  | .computed name source => name ++ " AS CAST(" ++ source ++ " as TIMESTAMP(3))"

/-- The clause that lets the event time `column` run one minute late. -/
def watermarkText (column : String) : String :=
  "WATERMARK FOR " ++ column ++ " AS " ++ column ++ " - INTERVAL '1' minute"

/-! ## 3. Schemas -/

/-- The columns in the order they were added, the event time that carries the watermark, and the
    first event time that was asked for when there already was one. -/
structure Schema where
  columns : List Column := []
  watermark : Option String := none
  rejected : Option String := none
  deriving DecidableEq, Repr

namespace Schema

/-- Adds a column that the records carry. -/
def addColumn (s : Schema) (name type : String) : Schema :=
  { s with columns := s.columns ++ [.physical name type] }

/-- Adds columns in the order given. -/
def addColumns (s : Schema) (columns : List (String × String)) : Schema :=
  columns.foldl (fun s c => s.addColumn c.1 c.2) s

/-- Adds the event time `target`, computed from `raw`, with its watermark. A schema has one event
    time: of the later ones only the first is remembered, as the reason to refuse the schema. -/
def addEventTime (s : Schema) (raw target : String) : Schema :=
  match s.watermark with
  | some _ => { s with rejected := s.rejected <|> some target }
  | none =>
    { s with columns := s.columns ++ [.computed target raw], watermark := some target }

/-- The items of the column list: the columns, then the watermark if there is an event time. -/
def items (s : Schema) : List String :=
  s.columns.map Column.text ++ (s.watermark.map watermarkText).toList

/-- The text of the column list. A second event time is the first thing refused. -/
def render (s : Schema) : Except Error String :=
  match s.watermark, s.rejected with
  | some existing, some requested => .error (.duplicateWatermark existing requested)
  | _, _ =>
    if s.columns.isEmpty then .error .emptySchema else .ok (Text.join "," s.items)

@[simp] theorem columns_addColumn (s : Schema) (name type : String) :
    (s.addColumn name type).columns = s.columns ++ [.physical name type] := rfl

/-- Adding columns in one call adds them at the end, in order. -/
theorem columns_addColumns (s : Schema) (cs : List (String × String)) :
    (s.addColumns cs).columns = s.columns ++ cs.map fun c => .physical c.1 c.2 := by
  induction cs generalizing s with
  | nil => simp [addColumns]
  | cons c rest ih =>
    show ((s.addColumn c.1 c.2).addColumns rest).columns = _
    rw [ih]
    simp

/-- Physical columns leave the event time and the refusal alone. -/
theorem watermark_addColumns (s : Schema) (cs : List (String × String)) :
    (s.addColumns cs).watermark = s.watermark ∧ (s.addColumns cs).rejected = s.rejected := by
  induction cs generalizing s with
  | nil => exact ⟨rfl, rfl⟩
  | cons c rest ih => exact ih (s.addColumn c.1 c.2)

end Schema

end JobKeeper.Sql
