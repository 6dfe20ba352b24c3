/-
  File:      JobKeeper/Job/Basic.lean
  Subject:   Job definitions: what a behavior job and a rule job are made of.
-/
import JobKeeper.Json.Value

namespace JobKeeper

/-! ## 1. Streams -/

/-- A topic together with the columns that its records carry. -/
structure Stream where
  bootstrapServers : String := ""
  topic : String := ""
  authType : Option String := none
  keytab : Option String := none
  principal : Option String := none
  /-- The type of each column. -/
  schema : Dict String := .empty
  timestampField : Option String := none

/-- The columns with their types, in ascending order of the names. -/
def Stream.columns (s : Stream) : List (String × String) := s.schema.entries

/-! ## 2. Profiles -/

/-- A field that a profile counts by. -/
structure ProfileField where
  name : String := ""
  kind : String := ""
  extraData : Dict Json := .empty

/-- What a behavior job counts, and over how long a window. -/
structure Profile where
  id : String := ""
  name : String := ""
  status : Int := 0
  profileType : String := ""
  entities : List ProfileField := []
  attributes : List ProfileField := []
  profileTime : String := ""
  savingDurationMinutes : Int := 0
  threshold : Json.Binary64 := .zero

def Profile.entityNames (p : Profile) : List String := p.entities.map (·.name)

def Profile.attributeNames (p : Profile) : List String := p.attributes.map (·.name)

/-! ## 3. Jobs -/

/-- A job that filters a source and counts its rows per window. -/
structure BehaviorJob where
  id : String := ""
  source : Stream := {}
  profile : Profile := {}
  profileOutput : Stream := {}
  behaviorOutput : Stream := {}
  filter : String := ""

/-- A job that turns the rows of a predictor that pass its filter into alerts. -/
structure RuleJob where
  id : String := ""
  name : String := ""
  filter : String := ""
  object : String := ""
  technique : String := ""
  severity : String := ""
  riskScore : Int := 0
  predictor : Stream := {}
  sink : Stream := {}

/-- The two kinds of jobs. -/
inductive JobKind where
  | behavior
  | rule
  deriving DecidableEq, Repr

namespace JobKind

def name : JobKind → String
  | .behavior => "behavior"
  | .rule => "rule"

/-- The kind of a name, spelt exactly. -/
def ofName? (name : String) : Option JobKind :=
  if name = "behavior" then some .behavior else if name = "rule" then some .rule else none

/-- The id under which a job of the kind is tracked and runs as a pipeline. -/
def namespaced (kind : JobKind) (id : String) : String := kind.name ++ "_" ++ id

end JobKind

/-- One desired job of either kind. -/
inductive Job where
  | behavior (job : BehaviorJob)
  | rule (job : RuleJob)

namespace Job

def kind : Job → JobKind
  | .behavior _ => .behavior
  | .rule _ => .rule

/-- The id that the job's definition gives. -/
def id : Job → String
  | .behavior job => job.id
  | .rule job => job.id

/-- The id under which the job is tracked. -/
def trackingId (job : Job) : String := job.kind.namespaced job.id

end Job

end JobKeeper
