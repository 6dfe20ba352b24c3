/-
  File:      JobKeeper/Job/Wire.lean
  Subject:   Job definitions as JSON: reading them from documents, and writing them.

  Every field may be left out and then has its empty value. What is written has every field but
  the optional texts that are absent. `room` is how many levels of nesting the document may hold.
-/
import JobKeeper.Job.Basic
import JobKeeper.Json.Record

namespace JobKeeper

open Json (Doc Record)

/-! ## 1. Streams -/

namespace Stream

/-- The fields in the order of their declaration. -/
def fieldNames : List String :=
  ["bootstrap.servers", "topic", "authen_type", "keytab", "principal", "schema",
   "timestamp_field"]

def ofDoc? (doc : Doc) : Option Stream := do
  let r ← Record.ofDoc? fieldNames doc
  return {
    bootstrapServers := ← r.text? "bootstrap.servers"
    topic := ← r.text? "topic"
    authType := ← r.optionalText? "authen_type"
    keytab := ← r.optionalText? "keytab"
    principal := ← r.optionalText? "principal"
    schema := ← r.read "schema" .empty (Record.dictOf? Record.textOf?)
    timestampField := ← r.optionalText? "timestamp_field" }

/-- A field with a text that may be absent; absent it is not written. -/
def optionalField (name : String) (value : Option String) : List (String × Json) :=
  match value with
  | none => []
  | some s => [(name, .string s)]

def toJson (s : Stream) : Json :=
  .fields <|
    [("bootstrap.servers", .string s.bootstrapServers), ("topic", .string s.topic),
     ("schema", .ofDict (s.schema.map .string))]
    ++ optionalField "authen_type" s.authType ++ optionalField "keytab" s.keytab
    ++ optionalField "principal" s.principal ++ optionalField "timestamp_field" s.timestampField

end Stream

/-! ## 2. Profiles -/

namespace ProfileField

def fieldNames : List String := ["field_name", "type", "extra_data"]

def ofDoc? (room : Nat) (doc : Doc) : Option ProfileField := do
  let r ← Record.ofDoc? fieldNames doc
  return {
    name := ← r.text? "field_name"
    kind := ← r.text? "type"
    extraData := ← r.read "extra_data" .empty (Record.dictOf? (Doc.keep (room - 2))) }

def toJson (f : ProfileField) : Json :=
  .fields [("field_name", .string f.name), ("type", .string f.kind),
    ("extra_data", .ofDict f.extraData)]

end ProfileField

namespace Profile

def fieldNames : List String :=
  ["id", "name", "status", "profile_type", "entity", "attribute", "profile_time",
   "saving_duration_minute", "threshold"]

def ofDoc? (room : Nat) (doc : Doc) : Option Profile := do
  let r ← Record.ofDoc? fieldNames doc
  return {
    id := ← r.text? "id"
    name := ← r.text? "name"
    status := ← r.int? "status"
    profileType := ← r.text? "profile_type"
    entities := ← r.read "entity" [] (Record.listOf? (ProfileField.ofDoc? (room - 2)))
    attributes := ← r.read "attribute" [] (Record.listOf? (ProfileField.ofDoc? (room - 2)))
    profileTime := ← r.text? "profile_time"
    savingDurationMinutes := ← r.int? "saving_duration_minute"
    threshold := ← r.double? "threshold" }

def toJson (p : Profile) : Json :=
  .fields [("id", .string p.id), ("name", .string p.name), ("status", .int p.status),
    ("profile_type", .string p.profileType),
    ("entity", .array (p.entities.map ProfileField.toJson)),
    ("attribute", .array (p.attributes.map ProfileField.toJson)),
    ("profile_time", .string p.profileTime),
    ("saving_duration_minute", .int p.savingDurationMinutes),
    ("threshold", .number (.double p.threshold))]

end Profile

/-! ## 3. Jobs -/

namespace BehaviorJob

def fieldNames : List String :=
  ["id", "source_config", "profile_config", "profile_output_config", "behavior_output_config",
   "filter"]

def ofDoc? (room : Nat) (doc : Doc) : Option BehaviorJob := do
  let r ← Record.ofDoc? fieldNames doc
  return {
    id := ← r.text? "id"
    source := ← r.read "source_config" {} Stream.ofDoc?
    profile := ← r.read "profile_config" {} (Profile.ofDoc? (room - 1))
    profileOutput := ← r.read "profile_output_config" {} Stream.ofDoc?
    behaviorOutput := ← r.read "behavior_output_config" {} Stream.ofDoc?
    filter := ← r.text? "filter" }

def toJson (job : BehaviorJob) : Json :=
  .fields [("id", .string job.id), ("source_config", job.source.toJson),
    ("profile_config", job.profile.toJson), ("profile_output_config", job.profileOutput.toJson),
    ("behavior_output_config", job.behaviorOutput.toJson), ("filter", .string job.filter)]

end BehaviorJob

namespace RuleJob

def fieldNames : List String :=
  ["id", "name", "filter", "object", "technique", "severity", "risk_score",
   "profile_predictor_config", "rule_output_config"]

def ofDoc? (doc : Doc) : Option RuleJob := do
  let r ← Record.ofDoc? fieldNames doc
  return {
    id := ← r.text? "id"
    name := ← r.text? "name"
    filter := ← r.text? "filter"
    object := ← r.text? "object"
    technique := ← r.text? "technique"
    severity := ← r.text? "severity"
    riskScore := ← r.int? "risk_score"
    predictor := ← r.read "profile_predictor_config" {} Stream.ofDoc?
    sink := ← r.read "rule_output_config" {} Stream.ofDoc? }

def toJson (job : RuleJob) : Json :=
  .fields [("id", .string job.id), ("name", .string job.name), ("filter", .string job.filter),
    ("object", .string job.object), ("technique", .string job.technique),
    ("severity", .string job.severity), ("risk_score", .int job.riskScore),
    ("profile_predictor_config", job.predictor.toJson), ("rule_output_config", job.sink.toJson)]

end RuleJob

namespace Job

/-- A job of a kind from its document. -/
def ofDoc? (kind : JobKind) (room : Nat) (doc : Doc) : Option Job :=
  match kind with
  | .behavior => (BehaviorJob.ofDoc? room doc).map .behavior
  | .rule => (RuleJob.ofDoc? doc).map .rule

/-- A job of a kind from its text. -/
def ofText? (kind : JobKind) (text : String) : Option Job :=
  (Doc.ofText? text).bind (ofDoc? kind Json.deepest)

def toJson : Job → Json
  | .behavior job => job.toJson
  | .rule job => job.toJson

/-- The jobs of a kind that a hub's answer lists, in order; `null` lists none. One job that cannot
    be read makes the whole list unreadable. -/
def listOfDoc? (kind : JobKind) : Doc → Option (List Job)
  | .null => some []
  | doc => Record.listOf? (ofDoc? kind (Json.deepest - 1)) doc

end Job

end JobKeeper
