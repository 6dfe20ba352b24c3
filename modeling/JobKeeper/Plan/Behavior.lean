/-
  File:      JobKeeper/Plan/Behavior.lean
  Subject:   The plan of a behavior job: filter a source, count its rows per window, and write both
             to their sinks.
-/
import JobKeeper.Plan.Basic
import JobKeeper.Plan.Objects

namespace JobKeeper.BehaviorJob

/-- The event time that is derived from the source's own timestamp field. -/
def eventTime : String := "converted_ts"

/-! ## 1. The tables and the window -/

/-- The source's columns, then the event time computed from `timestampField`. -/
def sourceSchema (job : BehaviorJob) (timestampField : String) : Sql.Schema :=
  (Sql.Schema.addColumns {} job.source.columns).addEventTime timestampField eventTime

/-- A row of the filter view: the source's columns, then the event time. -/
def behaviorSchema (job : BehaviorJob) : Sql.Schema :=
  (Sql.Schema.addColumns {} job.source.columns).addColumn eventTime (Sql.timestampType 3)

/-- A row of the profile view. -/
def profilingSchema : Sql.Schema :=
  Sql.Schema.addColumns {}
    [("window_start", Sql.timestampType 3), ("window_end", Sql.timestampType 3),
     ("cnt", Sql.bigintType), ("entities", Sql.stringType), ("attributes", Sql.stringType)]

/-- The rows of the filter view, counted per window, entities and attributes. -/
def windowCount (job : BehaviorJob) (names : BehaviorObjects) : Sql.WindowCount where
  table := names.filterView
  entities := job.profile.entityNames
  attributes := job.profile.attributeNames
  timestampField := eventTime
  minutes := job.profile.savingDurationMinutes

/-! ## 2. The plan -/

/-- The steps in order: label, object and statement of each. -/
def outline (job : BehaviorJob) (ctx : PlanContext) (timestampField : String) :
    List (String × String × Sql.Statement) :=
  let names := BehaviorObjects.ofId job.id
  [("create source table", names.sourceTable,
     .createTable names.sourceTable (job.sourceSchema timestampField)
       (Plan.sourceConnector job.source ctx)),
   ("create filter view", names.filterView,
     .createView names.filterView (Plan.filtered names.sourceTable job.filter)),
   ("create profile view", names.profileView,
     .createView names.profileView (.windowCount (job.windowCount names))),
   ("create behavior sink", names.behaviorSink,
     .createTable names.behaviorSink job.behaviorSchema
       (Plan.sinkConnector job.behaviorOutput ctx)),
   ("create profiling sink", names.profilingSink,
     .createTable names.profilingSink profilingSchema
       (Plan.sinkConnector job.profileOutput ctx)),
   ("set pipeline name", names.pipelineName, .setOption "pipeline.name" names.pipelineName),
   ("submit statement set", names.pipelineName,
     .statementSet
       [⟨names.behaviorSink, Plan.copyOf names.filterView⟩,
        ⟨names.profilingSink, Plan.copyOf names.profileView⟩])]

/-- The source's own timestamp field, if it names one. -/
def sourceTimestamp (job : BehaviorJob) : Except Sql.Error String :=
  match job.source.timestampField with
  | none => .error (.missing "source timestamp field")
  | some field => Sql.require "source timestamp field" field

/-- The plan of the job, or the first reason why there is none. -/
def plan (job : BehaviorJob) (ctx : PlanContext) : Except Sql.Error Plan := do
  let _ ← Sql.require "job id" job.id
  let timestampField ← job.sourceTimestamp
  let steps ← (job.outline ctx timestampField).mapM fun s => Step.write s.1 s.2.1 s.2.2
  return { jobId := job.id, pipelineName := (BehaviorObjects.ofId job.id).pipelineName, steps }

end JobKeeper.BehaviorJob
