/-
  File:      JobKeeper/Sql/Connector.lean
  Subject:   The option list of a connector clause, written in ascending order of the keys.
-/
import JobKeeper.Dict
import JobKeeper.Sql.Error
import JobKeeper.Sql.Literal
import JobKeeper.Text.Join

namespace JobKeeper.Sql

/-- The options of a connector; a key set twice has its last value. -/
structure Connector where
  options : Dict String := .empty

namespace Connector

/-- Sets an option. -/
def set (c : Connector) (key value : String) : Connector := ⟨c.options.insert key value⟩

/-- The connector with exactly these options. -/
def ofList (options : List (String × String)) : Connector :=
  options.foldl (fun c o => c.set o.1 o.2) {}

/-- One option as two literals. -/
def optionText (key value : String) : String :=
  Literal.quote key ++ " = " ++ Literal.quote value

/-- The text of the option list; equal options give equal text, whatever order they were set in. -/
def render (c : Connector) : Except Error String :=
  if c.options.isEmpty then .error .noConnectorOptions
  else .ok (Text.join "," (c.options.entries.map fun o => optionText o.1 o.2))

end Connector

end JobKeeper.Sql
