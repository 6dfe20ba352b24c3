/-
  File:      JobKeeper/Plan/Objects.lean
  Subject:   The names of what a job creates on the cluster.
-/
import JobKeeper.Job.Basic

namespace JobKeeper

/-- The names of what a behavior job creates, and of the pipeline it runs as. -/
structure BehaviorObjects where
  sourceTable : String
  filterView : String
  profileView : String
  behaviorSink : String
  profilingSink : String
  pipelineName : String
  deriving DecidableEq, Repr

/-- The names for the job with this id. -/
def BehaviorObjects.ofId (id : String) : BehaviorObjects where
  sourceTable := "source_" ++ id
  filterView := "behavior_" ++ id
  profileView := "profile_" ++ id
  behaviorSink := "behavior_sink_" ++ id
  profilingSink := "profiling_sink_" ++ id
  pipelineName := JobKind.behavior.namespaced id

/-- The names of what a rule job creates, and of the pipeline it runs as. -/
structure RuleObjects where
  sourceTable : String
  filterView : String
  ruleSink : String
  pipelineName : String
  deriving DecidableEq, Repr

/-- The names for the job with this id. -/
def RuleObjects.ofId (id : String) : RuleObjects where
  sourceTable := "profiling_predictor_" ++ id
  filterView := "rule_" ++ id
  ruleSink := "rule_sink_" ++ id
  pipelineName := JobKind.rule.namespaced id

end JobKeeper
