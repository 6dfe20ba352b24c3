/-
  File:      JobKeeper/Plan/Rule.lean
  Subject:   The plan of a rule job: filter the rows of a predictor and write one alert per row.
-/
import JobKeeper.Plan.Basic
import JobKeeper.Plan.Objects

namespace JobKeeper.RuleJob

/-! ## 1. Alerts -/

/-- What an alert carries after the columns of the row it is raised on. -/
def alertColumns : List (String × String) :=
  [("alert_id", Sql.stringType), ("alert_time", Sql.stringType), ("rule_id", Sql.stringType),
   ("rule_name", Sql.stringType), ("technique", Sql.stringType), ("severity", Sql.stringType),
   ("risk_score", Sql.bigintType), ("object", Sql.stringType)]

/-- The columns of the predictor. -/
def sourceSchema (job : RuleJob) : Sql.Schema := Sql.Schema.addColumns {} job.predictor.columns

/-- The columns of the predictor, then those of an alert. -/
def alertSchema (job : RuleJob) : Sql.Schema := job.sourceSchema.addColumns alertColumns

/-- One alert per row: the row itself, then a value for each of the alert's columns in order. -/
def alertFields (job : RuleJob) (ctx : PlanContext) (object : String) : String :=
  Text.join ","
    ["*", "UUID()", Sql.Literal.quote ctx.compiledAt.text,
     Sql.Literal.quote (RuleObjects.ofId job.id).filterView, Sql.Literal.quote job.name,
     Sql.Literal.quote job.technique, Sql.Literal.quote job.severity, toString job.riskScore,
     object ++ " AS object"]

/-! ## 2. The plan -/

/-- The steps in order: label, object and statement of each. -/
def outline (job : RuleJob) (ctx : PlanContext) (object : String) :
    List (String × String × Sql.Statement) :=
  let names := RuleObjects.ofId job.id
  [("create predictor source", names.sourceTable,
     .createTable names.sourceTable job.sourceSchema (Plan.sourceConnector job.predictor ctx)),
   ("create rule view", names.filterView,
     .createView names.filterView (Plan.filtered names.sourceTable job.filter)),
   ("create rule sink", names.ruleSink,
     .createTable names.ruleSink job.alertSchema (Plan.sinkConnector job.sink ctx)),
   ("set pipeline name", names.pipelineName, .setOption "pipeline.name" names.pipelineName),
   ("submit statement set", names.pipelineName,
     .statementSet
       [⟨names.ruleSink,
         .select { table := names.filterView, fields := job.alertFields ctx object }⟩])]

/-- The plan of the job, or the first reason why there is none. -/
def plan (job : RuleJob) (ctx : PlanContext) : Except Sql.Error Plan := do
  let _ ← Sql.require "job id" job.id
  let object ← Sql.require "rule object column" job.object
  let steps ← (job.outline ctx object).mapM fun s => Step.write s.1 s.2.1 s.2.2
  return { jobId := job.id, pipelineName := (RuleObjects.ofId job.id).pipelineName, steps }

end JobKeeper.RuleJob
