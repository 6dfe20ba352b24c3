/-
  File:      JobKeeper/Sql/Query.lean
  Subject:   Queries: a selection with an optional filter, and a row count per tumbling window.
-/
import JobKeeper.Sql.Error
import JobKeeper.Text.Join

namespace JobKeeper.Sql

/-! ## 1. Selections -/

/-- Fields of one table, of all its rows or of those that pass a filter. -/
structure Select where
  table : String := ""
  fields : String := ""
  filter : Option String := none
  deriving DecidableEq, Repr

/-- The text of a selection. The fields are checked before the table, the filter last. -/
def Select.render (q : Select) : Except Error String := do
  let fields ← require "select fields" q.fields
  let table ← require "source table" q.table
  match q.filter with
  | none => return "SELECT " ++ fields ++ " FROM " ++ table
  | some predicate =>
    let predicate ← require "filter predicate" predicate
    return "SELECT " ++ fields ++ " FROM " ++ table ++ " WHERE " ++ predicate

/-! ## 2. Window counts -/

/-- A row count per tumbling window, per combination of entities and per combination of
    attributes. -/
structure WindowCount where
  table : String := ""
  entities : List String := []
  attributes : List String := []
  timestampField : String := ""
  minutes : Int := 0
  deriving DecidableEq, Repr

/-- Several fields as one key, or a single field as it stands. -/
def keyText : List String → String
  | [field] => field
  | fields => "concat_ws('_'," ++ Text.join "," fields ++ ")"

/-- A field group as one projected column under the name `group`. -/
def projectGroup (group : String) (fields : List String) : Except Error String :=
  if fields.isEmpty then .error (.emptyFieldGroup group)
  else .ok (keyText fields ++ " AS " ++ group)

/-- What a window count groups by: its window, then each field. -/
def WindowCount.groupBy (q : WindowCount) : List String :=
  ["window_start", "window_end"] ++ q.entities ++ q.attributes

/-- The text of a window count. -/
def WindowCount.render (q : WindowCount) : Except Error String := do
  let table ← require "source table" q.table
  let timestampField ← require "window timestamp field" q.timestampField
  if q.minutes < 1 then
    throw (.invalidWindow q.minutes)
  let entities ← projectGroup "entities" q.entities
  let attributes ← projectGroup "attributes" q.attributes
  return "SELECT window_start,window_end,COUNT(*) AS cnt," ++ entities ++ "," ++ attributes
    ++ " FROM TABLE(TUMBLE(TABLE " ++ table ++ ", DESCRIPTOR(" ++ timestampField
    ++ "), INTERVAL '" ++ toString q.minutes ++ "' MINUTES)) GROUP BY "
    ++ Text.join "," q.groupBy

end JobKeeper.Sql
