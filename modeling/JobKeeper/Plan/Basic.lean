/-
  File:      JobKeeper/Plan/Basic.lean
  Subject:   Plans: the statements that one job submits, in order, all written before the first
             one is submitted.
-/
import JobKeeper.Job.Basic
import JobKeeper.Sql.Statement
import JobKeeper.Time

namespace JobKeeper

/-! ## 1. Steps and plans -/

/-- What a plan depends on besides the job's definition. -/
structure PlanContext where
  /-- The consumer group of every table. -/
  groupId : String := ""
  /-- When the job is compiled. -/
  compiledAt : DateTime

/-- One statement of a plan: what it is for, the object it is about, and its text. -/
structure Step where
  label : String
  object : String
  statement : Sql.Statement
  sql : String

/-- The statements of a job in the order in which they are submitted. -/
structure Plan where
  jobId : String
  pipelineName : String
  steps : List Step

namespace Step

/-- A step with the text of its statement. -/
def write (label object : String) (statement : Sql.Statement) : Except Sql.Error Step := do
  return ⟨label, object, statement, ← statement.render⟩

/-- Whether the step leaves its object on the cluster. -/
def createsObject (s : Step) : Bool := s.statement.creates.isSome

/-- Whether the step starts a job on the cluster. -/
def startsJob (s : Step) : Bool :=
  match s.statement with
  | .statementSet _ => true
  | _ => false

end Step

/-- The texts of the statements. -/
def Plan.statements (p : Plan) : List String := p.steps.map (·.sql)

/-! ## 2. Parts that both kinds of jobs share -/

namespace Plan

/-- The options by which every table finds its topic. -/
def connectorOptions (stream : Stream) (ctx : PlanContext) : List (String × String) :=
  [("connector", "kafka"), ("topic", stream.topic),
   ("properties.bootstrap.servers", stream.bootstrapServers),
   ("properties.group.id", ctx.groupId), ("format", "json")]

/-- A source reads from the earliest record on and puts up with malformed or partial ones. -/
def sourceConnector (stream : Stream) (ctx : PlanContext) : Sql.Connector :=
  .ofList <| connectorOptions stream ctx ++
    [("scan.startup.mode", "earliest-offset"), ("json.timestamp-format.standard", "ISO-8601"),
     ("json.ignore-parse-errors", "true"), ("json.fail-on-missing-field", "false")]

def sinkConnector (stream : Stream) (ctx : PlanContext) : Sql.Connector :=
  .ofList (connectorOptions stream ctx)

/-- All rows of a table or view as they are. -/
def copyOf (table : String) : Sql.Query := .select { table, fields := "*" }

/-- The rows of a table that pass a filter. -/
def filtered (table predicate : String) : Sql.Query :=
  .select { table, fields := "*", filter := some predicate }

end Plan

end JobKeeper
