/-
  File:      JobKeeper/Sql/Statement.lean
  Subject:   The statements themselves, from clause texts, and the statements of a program, from
             their structure.

  The first section writes each kind of statement from the texts of its clauses. The second holds
  statements as data: tables with their columns, views and inserts with their queries. `render`
  writes the clauses and then the statement, and reports the first clause that cannot be written.
-/
import JobKeeper.Sql.Connector
import JobKeeper.Sql.Query
import JobKeeper.Sql.Schema

namespace JobKeeper.Sql

/-! ## 1. Statements from clause texts -/

/-- A table with its column list and, unless that is empty, its connector options. -/
def createTable (name schema : String) (connector : Option String) : Except Error String := do
  let name ← require "table name" name
  if Text.isBlank schema then
    throw (.missingSchema name)
  match connector.filter (· ≠ "") with
  | none => return "CREATE TABLE " ++ name ++ "(" ++ schema ++ ")"
  | some options => return "CREATE TABLE " ++ name ++ "(" ++ schema ++ ") WITH (" ++ options ++ ")"

/-- A view on a query. -/
def createView (name query : String) : Except Error String := do
  let name ← require "view name" name
  let query ← require "view expression" query
  return "CREATE VIEW " ++ name ++ " AS " ++ query

/-- An insert of the rows of a query. -/
def insertInto (destination query : String) : Except Error String := do
  let destination ← require "insert destination" destination
  let query ← require "insert expression" query
  return "INSERT INTO " ++ destination ++ " " ++ query

/-- Several inserts that run as one job. -/
def statementSet (inserts : List String) : Except Error String :=
  if inserts.isEmpty then .error .emptyStatementSet
  else .ok ("EXECUTE STATEMENT SET BEGIN"
    ++ Text.join "" (inserts.map fun insert => " " ++ insert ++ ";") ++ " END;")

/-- A session option. -/
def setOption (key value : String) : Except Error String := do
  let key ← require "config key" key
  return "SET " ++ Literal.quote key ++ " = " ++ Literal.quote value

/-! ## 2. Statements as data -/

/-- A query of either form. -/
inductive Query where
  | select (q : Select)
  | windowCount (q : WindowCount)
  deriving DecidableEq, Repr

def Query.render : Query → Except Error String
  | .select q => q.render
  | .windowCount q => q.render

/-- An insert as data. -/
structure Insert where
  destination : String
  query : Query
  deriving DecidableEq, Repr

def Insert.render (i : Insert) : Except Error String := do
  insertInto i.destination (← i.query.render)

/-- A statement as data. -/
inductive Statement where
  | createTable (name : String) (schema : Schema) (connector : Connector)
  | createView (name : String) (query : Query)
  | setOption (key value : String)
  | statementSet (inserts : List Insert)

/-- The text of a statement. -/
def Statement.render : Statement → Except Error String
  | .createTable name schema connector => do
    let schema ← schema.render
    let connector ← connector.render
    Sql.createTable name schema (some connector)
  | .createView name query => do
    Sql.createView name (← query.render)
  | .setOption key value => Sql.setOption key value
  | .statementSet inserts => do
    Sql.statementSet (← inserts.mapM Insert.render)

/-- The object that a statement leaves on the cluster, if it leaves one. -/
def Statement.creates : Statement → Option String
  | .createTable name _ _ => some name
  | .createView name _ => some name
  | .setOption _ _ => none
  | .statementSet _ => none

end JobKeeper.Sql
