/-
  File:      JobKeeper/Proofs/Job/Forms.lean
  Subject:   The parts of a job's document, and what it takes to read each of them.

  A job is read from an object, some fields of which are read from objects again. All that is said
  about one of these objects and its fields is said once, for the table of its fields; and what is
  said about a part holds wherever in a job the part stands.

  * `Form`: the forms of parts, with what each is read as (`Form.Value`, `Form.read`) and the
    fields of those that are records (`Form.fields`);
  * `Form.read_eq_some_iff`: a record is read field by field, each field into its own component;
  * `Place`: where in a part another part stands;
  * `Place.read_congr`, `Place.read_eq_none`: a part that is read as before leaves the whole as
    before, and one that cannot be read makes the whole unreadable.
-/
import JobKeeper.Job.Wire
import JobKeeper.Proofs.Dict
import JobKeeper.Proofs.Json.Records

namespace JobKeeper

open Json (Doc Record)

/-! ## 1. Forms -/

/-- What a part of a job's document may have to be. -/
inductive Form where
  | behaviorJob
  | ruleJob
  | stream
  | profile
  | profileField
  /-- A list of profile fields. -/
  | profileFields
  /-- The types of columns. -/
  | schema
  /-- Values of any kind, under any keys. -/
  | extraData
  | text
  | optionalText
  | wholeNumber
  | number
  deriving DecidableEq

namespace Form

/-- What a part is read as. -/
abbrev Value : Form → Type
  | behaviorJob => BehaviorJob
  | ruleJob => RuleJob
  | stream => Stream
  | profile => Profile
  | profileField => ProfileField
  | profileFields => List ProfileField
  | schema => Dict String
  | extraData => Dict Json
  | text => String
  | optionalText => Option String
  | wholeNumber => Int
  | number => Json.Binary64

/-- The reader of a part that may be nested so deep. -/
def read (room : Nat) : (f : Form) → Doc → Option f.Value
  | behaviorJob => BehaviorJob.ofDoc? room
  | ruleJob => RuleJob.ofDoc?
  | stream => Stream.ofDoc?
  | profile => Profile.ofDoc? room
  | profileField => ProfileField.ofDoc? room
  | profileFields => Record.listOf? (ProfileField.ofDoc? room)
  | schema => Record.dictOf? Record.textOf?
  | extraData => Record.dictOf? (Doc.keep room)
  | text => Record.textOf?
  | optionalText => Record.nullable Record.textOf?
  | wholeNumber => Record.intOf?
  | number => Record.doubleOf?

/-- What a part is taken for where it is left out. -/
def missing : (f : Form) → f.Value
  | behaviorJob => {}
  | ruleJob => {}
  | stream => {}
  | profile => {}
  | profileField => {}
  | profileFields => []
  | schema => .empty
  | extraData => .empty
  | text => ""
  | optionalText => none
  | wholeNumber => 0
  | number => .zero

/-- The fields of a record, each with its form, in the order of their declaration. -/
def fields : Form → List (String × Form)
  | behaviorJob =>
    [("id", text), ("source_config", stream), ("profile_config", profile),
     ("profile_output_config", stream), ("behavior_output_config", stream), ("filter", text)]
  | ruleJob =>
    [("id", text), ("name", text), ("filter", text), ("object", text), ("technique", text),
     ("severity", text), ("risk_score", wholeNumber), ("profile_predictor_config", stream),
     ("rule_output_config", stream)]
  | stream =>
    [("bootstrap.servers", text), ("topic", text), ("authen_type", optionalText),
     ("keytab", optionalText), ("principal", optionalText), ("schema", schema),
     ("timestamp_field", optionalText)]
  | profile =>
    [("id", text), ("name", text), ("status", wholeNumber), ("profile_type", text),
     ("entity", profileFields), ("attribute", profileFields), ("profile_time", text),
     ("saving_duration_minute", wholeNumber), ("threshold", number)]
  | profileField => [("field_name", text), ("type", text), ("extra_data", extraData)]
  | _ => []

/-- Whether a part is a record. -/
def IsRecord (f : Form) : Prop := f.fields ≠ []

instance (f : Form) : Decidable f.IsRecord := inferInstanceAs (Decidable (_ ≠ _))

/-- The names of the fields of a record. -/
def names (f : Form) : List String := f.fields.map (·.1)

/-- How deep the fields of a part may be nested that itself may be nested so deep. -/
def inner : Form → Nat → Nat
  | behaviorJob, room => room - 1
  | profile, room => room - 2
  | profileField, room => room - 2
  | _, room => room

theorem nodup_names (f : Form) : f.names.Nodup := by
  cases f <;> decide

theorem mem_names {f p : Form} {n : String} (h : Dict.look n f.fields = some p) : n ∈ f.names := by
  rw [names, ← Dict.isSome_look_iff, h]
  rfl

theorem mem_fields {f p : Form} {n : String} (h : Dict.look n f.fields = some p) :
    (n, p) ∈ f.fields := (Dict.look_eq_some_iff_of_nodup f.nodup_names n p).mp h

theorem isRecord_of_look {f p : Form} {n : String} (h : Dict.look n f.fields = some p) :
    f.IsRecord := by
  intro hnil
  rw [hnil] at h
  cases h

/-- A part that may be left out. -/
def readOr (room : Nat) (f : Form) : Option Doc → Option f.Value
  | none => some f.missing
  | some d => f.read room d

/-- A field of a record. -/
def readField (room : Nat) (f : Form) (r : Record) (n : String) : Option f.Value :=
  r.read n f.missing (f.read room)

theorem readField_eq (room : Nat) (f : Form) (r : Record) (n : String) :
    f.readField room r n = f.readOr room (r.get? n) := by
  unfold readField Record.read
  cases r.get? n <;> rfl

end Form

/-! ## 2. Records field by field -/

/-- The components of a stream are read from the fields of a record. -/
structure Stream.ReadFrom (r : Record) (s : Stream) : Prop where
  bootstrapServers : r.text? "bootstrap.servers" = some s.bootstrapServers
  topic : r.text? "topic" = some s.topic
  authType : r.optionalText? "authen_type" = some s.authType
  keytab : r.optionalText? "keytab" = some s.keytab
  principal : r.optionalText? "principal" = some s.principal
  schema : r.read "schema" .empty (Record.dictOf? Record.textOf?) = some s.schema
  timestampField : r.optionalText? "timestamp_field" = some s.timestampField

theorem Stream.ofDoc?_eq_some_iff (doc : Doc) (s : Stream) :
    ofDoc? doc = some s ↔ ∃ r, Record.ofDoc? fieldNames doc = some r ∧ s.ReadFrom r := by
  simp only [ofDoc?, Option.bind_eq_bind, Option.bind_eq_some_iff]
  refine exists_congr fun r => and_congr_right fun _ => ⟨?_, ?_⟩
  · rintro ⟨_, h₁, _, h₂, _, h₃, _, h₄, _, h₅, _, h₆, _, h₇, hs⟩
    cases hs
    exact ⟨h₁, h₂, h₃, h₄, h₅, h₆, h₇⟩
  · rintro ⟨h₁, h₂, h₃, h₄, h₅, h₆, h₇⟩
    exact ⟨_, h₁, _, h₂, _, h₃, _, h₄, _, h₅, _, h₆, _, h₇, rfl⟩

/-- The components of a field of a profile are read from the fields of a record. -/
structure ProfileField.ReadFrom (room : Nat) (r : Record) (f : ProfileField) : Prop where
  name : r.text? "field_name" = some f.name
  kind : r.text? "type" = some f.kind
  extraData : r.read "extra_data" .empty (Record.dictOf? (Doc.keep room)) = some f.extraData

theorem ProfileField.ofDoc?_eq_some_iff (room : Nat) (doc : Doc) (f : ProfileField) :
    ofDoc? room doc = some f ↔
      ∃ r, Record.ofDoc? fieldNames doc = some r ∧ f.ReadFrom (room - 2) r := by
  simp only [ofDoc?, Option.bind_eq_bind, Option.bind_eq_some_iff]
  refine exists_congr fun r => and_congr_right fun _ => ⟨?_, ?_⟩
  · rintro ⟨_, h₁, _, h₂, _, h₃, hf⟩
    cases hf
    exact ⟨h₁, h₂, h₃⟩
  · rintro ⟨h₁, h₂, h₃⟩
    exact ⟨_, h₁, _, h₂, _, h₃, rfl⟩

/-- The components of a profile are read from the fields of a record. -/
structure Profile.ReadFrom (room : Nat) (r : Record) (p : Profile) : Prop where
  id : r.text? "id" = some p.id
  name : r.text? "name" = some p.name
  status : r.int? "status" = some p.status
  profileType : r.text? "profile_type" = some p.profileType
  entities : r.read "entity" [] (Record.listOf? (ProfileField.ofDoc? room)) = some p.entities
  attributes : r.read "attribute" [] (Record.listOf? (ProfileField.ofDoc? room)) =
    some p.attributes
  profileTime : r.text? "profile_time" = some p.profileTime
  savingDurationMinutes : r.int? "saving_duration_minute" = some p.savingDurationMinutes
  threshold : r.double? "threshold" = some p.threshold

theorem Profile.ofDoc?_eq_some_iff (room : Nat) (doc : Doc) (p : Profile) :
    ofDoc? room doc = some p ↔
      ∃ r, Record.ofDoc? fieldNames doc = some r ∧ p.ReadFrom (room - 2) r := by
  simp only [ofDoc?, Option.bind_eq_bind, Option.bind_eq_some_iff]
  refine exists_congr fun r => and_congr_right fun _ => ⟨?_, ?_⟩
  · rintro ⟨_, h₁, _, h₂, _, h₃, _, h₄, _, h₅, _, h₆, _, h₇, _, h₈, _, h₉, hp⟩
    cases hp
    exact ⟨h₁, h₂, h₃, h₄, h₅, h₆, h₇, h₈, h₉⟩
  · rintro ⟨h₁, h₂, h₃, h₄, h₅, h₆, h₇, h₈, h₉⟩
    exact ⟨_, h₁, _, h₂, _, h₃, _, h₄, _, h₅, _, h₆, _, h₇, _, h₈, _, h₉, rfl⟩

/-- The components of a behavior job are read from the fields of a record. -/
structure BehaviorJob.ReadFrom (room : Nat) (r : Record) (job : BehaviorJob) : Prop where
  id : r.text? "id" = some job.id
  source : r.read "source_config" {} Stream.ofDoc? = some job.source
  profile : r.read "profile_config" {} (Profile.ofDoc? room) = some job.profile
  profileOutput : r.read "profile_output_config" {} Stream.ofDoc? = some job.profileOutput
  behaviorOutput : r.read "behavior_output_config" {} Stream.ofDoc? = some job.behaviorOutput
  filter : r.text? "filter" = some job.filter

theorem BehaviorJob.ofDoc?_eq_some_iff (room : Nat) (doc : Doc) (job : BehaviorJob) :
    ofDoc? room doc = some job ↔
      ∃ r, Record.ofDoc? fieldNames doc = some r ∧ job.ReadFrom (room - 1) r := by
  simp only [ofDoc?, Option.bind_eq_bind, Option.bind_eq_some_iff]
  refine exists_congr fun r => and_congr_right fun _ => ⟨?_, ?_⟩
  · rintro ⟨_, h₁, _, h₂, _, h₃, _, h₄, _, h₅, _, h₆, hjob⟩
    cases hjob
    exact ⟨h₁, h₂, h₃, h₄, h₅, h₆⟩
  · rintro ⟨h₁, h₂, h₃, h₄, h₅, h₆⟩
    exact ⟨_, h₁, _, h₂, _, h₃, _, h₄, _, h₅, _, h₆, rfl⟩

/-- The components of a rule job are read from the fields of a record. -/
structure RuleJob.ReadFrom (r : Record) (job : RuleJob) : Prop where
  id : r.text? "id" = some job.id
  name : r.text? "name" = some job.name
  filter : r.text? "filter" = some job.filter
  object : r.text? "object" = some job.object
  technique : r.text? "technique" = some job.technique
  severity : r.text? "severity" = some job.severity
  riskScore : r.int? "risk_score" = some job.riskScore
  predictor : r.read "profile_predictor_config" {} Stream.ofDoc? = some job.predictor
  sink : r.read "rule_output_config" {} Stream.ofDoc? = some job.sink

theorem RuleJob.ofDoc?_eq_some_iff (doc : Doc) (job : RuleJob) :
    ofDoc? doc = some job ↔ ∃ r, Record.ofDoc? fieldNames doc = some r ∧ job.ReadFrom r := by
  simp only [ofDoc?, Option.bind_eq_bind, Option.bind_eq_some_iff]
  refine exists_congr fun r => and_congr_right fun _ => ⟨?_, ?_⟩
  · rintro ⟨_, h₁, _, h₂, _, h₃, _, h₄, _, h₅, _, h₆, _, h₇, _, h₈, _, h₉, hjob⟩
    cases hjob
    exact ⟨h₁, h₂, h₃, h₄, h₅, h₆, h₇, h₈, h₉⟩
  · rintro ⟨h₁, h₂, h₃, h₄, h₅, h₆, h₇, h₈, h₉⟩
    exact ⟨_, h₁, _, h₂, _, h₃, _, h₄, _, h₅, _, h₆, _, h₇, _, h₈, _, h₉, rfl⟩

namespace Form

/-- The components of a record are read from its fields, which may be nested so deep. -/
def ReadFrom (room : Nat) : (f : Form) → Record → f.Value → Prop
  | behaviorJob => BehaviorJob.ReadFrom room
  | ruleJob => RuleJob.ReadFrom
  | stream => Stream.ReadFrom
  | profile => Profile.ReadFrom room
  | profileField => ProfileField.ReadFrom room
  | _ => fun _ _ => False

/-- **A record is read field by field.** -/
theorem read_eq_some_iff {f : Form} (hf : f.IsRecord) (room : Nat) (doc : Doc) (v : f.Value) :
    f.read room doc = some v ↔
      ∃ r, Record.ofDoc? f.names doc = some r ∧ f.ReadFrom (f.inner room) r v := by
  cases f with
  | behaviorJob => exact BehaviorJob.ofDoc?_eq_some_iff room doc v
  | ruleJob => exact RuleJob.ofDoc?_eq_some_iff doc v
  | stream => exact Stream.ofDoc?_eq_some_iff doc v
  | profile => exact Profile.ofDoc?_eq_some_iff room doc v
  | profileField => exact ProfileField.ofDoc?_eq_some_iff room doc v
  | _ => exact absurd rfl hf

/-- Two records whose fields are read alike. -/
def Alike (f : Form) (room : Nat) (r r' : Record) : Prop :=
  ∀ n p, Dict.look n f.fields = some p → p.readField room r n = p.readField room r' n

/-- **Nothing but the fields is read from a record.** -/
theorem ReadFrom.congr {f : Form} {room : Nat} {r r' : Record} (h : f.Alike room r r')
    {v : f.Value} (hv : f.ReadFrom room r v) : f.ReadFrom room r' v := by
  cases f with
  | behaviorJob =>
    obtain ⟨h₁, h₂, h₃, h₄, h₅, h₆⟩ := hv
    exact ⟨(h "id" text rfl).symm.trans h₁, (h "source_config" stream rfl).symm.trans h₂,
      (h "profile_config" profile rfl).symm.trans h₃,
      (h "profile_output_config" stream rfl).symm.trans h₄,
      (h "behavior_output_config" stream rfl).symm.trans h₅,
      (h "filter" text rfl).symm.trans h₆⟩
  | ruleJob =>
    obtain ⟨h₁, h₂, h₃, h₄, h₅, h₆, h₇, h₈, h₉⟩ := hv
    exact ⟨(h "id" text rfl).symm.trans h₁, (h "name" text rfl).symm.trans h₂,
      (h "filter" text rfl).symm.trans h₃, (h "object" text rfl).symm.trans h₄,
      (h "technique" text rfl).symm.trans h₅, (h "severity" text rfl).symm.trans h₆,
      (h "risk_score" wholeNumber rfl).symm.trans h₇,
      (h "profile_predictor_config" stream rfl).symm.trans h₈,
      (h "rule_output_config" stream rfl).symm.trans h₉⟩
  | stream =>
    obtain ⟨h₁, h₂, h₃, h₄, h₅, h₆, h₇⟩ := hv
    exact ⟨(h "bootstrap.servers" text rfl).symm.trans h₁, (h "topic" text rfl).symm.trans h₂,
      (h "authen_type" optionalText rfl).symm.trans h₃,
      (h "keytab" optionalText rfl).symm.trans h₄,
      (h "principal" optionalText rfl).symm.trans h₅, (h "schema" schema rfl).symm.trans h₆,
      (h "timestamp_field" optionalText rfl).symm.trans h₇⟩
  | profile =>
    obtain ⟨h₁, h₂, h₃, h₄, h₅, h₆, h₇, h₈, h₉⟩ := hv
    exact ⟨(h "id" text rfl).symm.trans h₁, (h "name" text rfl).symm.trans h₂,
      (h "status" wholeNumber rfl).symm.trans h₃, (h "profile_type" text rfl).symm.trans h₄,
      (h "entity" profileFields rfl).symm.trans h₅,
      (h "attribute" profileFields rfl).symm.trans h₆,
      (h "profile_time" text rfl).symm.trans h₇,
      (h "saving_duration_minute" wholeNumber rfl).symm.trans h₈,
      (h "threshold" number rfl).symm.trans h₉⟩
  | profileField =>
    obtain ⟨h₁, h₂, h₃⟩ := hv
    exact ⟨(h "field_name" text rfl).symm.trans h₁, (h "type" text rfl).symm.trans h₂,
      (h "extra_data" extraData rfl).symm.trans h₃⟩
  | _ => exact absurd hv id

/-- **Every field of a record has to be readable.** -/
theorem ReadFrom.isSome {f : Form} {room : Nat} {r : Record} {v : f.Value}
    (hv : f.ReadFrom room r v) : ∀ e ∈ f.fields, (e.2.readField room r e.1).isSome := by
  cases f with
  | behaviorJob =>
    obtain ⟨h₁, h₂, h₃, h₄, h₅, h₆⟩ := hv
    simp only [fields, List.forall_mem_cons]
    exact ⟨Option.isSome_of_eq_some h₁, Option.isSome_of_eq_some h₂, Option.isSome_of_eq_some h₃,
      Option.isSome_of_eq_some h₄, Option.isSome_of_eq_some h₅, Option.isSome_of_eq_some h₆, nofun⟩
  | ruleJob =>
    obtain ⟨h₁, h₂, h₃, h₄, h₅, h₆, h₇, h₈, h₉⟩ := hv
    simp only [fields, List.forall_mem_cons]
    exact ⟨Option.isSome_of_eq_some h₁, Option.isSome_of_eq_some h₂, Option.isSome_of_eq_some h₃,
      Option.isSome_of_eq_some h₄, Option.isSome_of_eq_some h₅, Option.isSome_of_eq_some h₆,
      Option.isSome_of_eq_some h₇, Option.isSome_of_eq_some h₈, Option.isSome_of_eq_some h₉, nofun⟩
  | stream =>
    obtain ⟨h₁, h₂, h₃, h₄, h₅, h₆, h₇⟩ := hv
    simp only [fields, List.forall_mem_cons]
    exact ⟨Option.isSome_of_eq_some h₁, Option.isSome_of_eq_some h₂, Option.isSome_of_eq_some h₃,
      Option.isSome_of_eq_some h₄, Option.isSome_of_eq_some h₅, Option.isSome_of_eq_some h₆,
      Option.isSome_of_eq_some h₇, nofun⟩
  | profile =>
    obtain ⟨h₁, h₂, h₃, h₄, h₅, h₆, h₇, h₈, h₉⟩ := hv
    simp only [fields, List.forall_mem_cons]
    exact ⟨Option.isSome_of_eq_some h₁, Option.isSome_of_eq_some h₂, Option.isSome_of_eq_some h₃,
      Option.isSome_of_eq_some h₄, Option.isSome_of_eq_some h₅, Option.isSome_of_eq_some h₆,
      Option.isSome_of_eq_some h₇, Option.isSome_of_eq_some h₈, Option.isSome_of_eq_some h₉, nofun⟩
  | profileField =>
    obtain ⟨h₁, h₂, h₃⟩ := hv
    simp only [fields, List.forall_mem_cons]
    exact ⟨Option.isSome_of_eq_some h₁, Option.isSome_of_eq_some h₂, Option.isSome_of_eq_some h₃,
      nofun⟩
  | _ => exact absurd hv id

/-- Documents with records whose fields are read alike are read alike. -/
theorem read_congr {f : Form} (hf : f.IsRecord) {room : Nat} {doc doc' : Doc} {r r' : Record}
    (hr : Record.ofDoc? f.names doc = some r) (hr' : Record.ofDoc? f.names doc' = some r')
    (h : f.Alike (f.inner room) r r') : f.read room doc = f.read room doc' := by
  refine Option.ext fun v => ?_
  rw [read_eq_some_iff hf, read_eq_some_iff hf, hr, hr']
  constructor
  · rintro ⟨_, hsame, hv⟩
    cases hsame
    exact ⟨r', rfl, hv.congr h⟩
  · rintro ⟨_, hsame, hv⟩
    cases hsame
    exact ⟨r, rfl, hv.congr fun n p hp => (h n p hp).symm⟩

theorem read_eq_none {f : Form} (hf : f.IsRecord) (room : Nat) {doc : Doc}
    (h : Record.ofDoc? f.names doc = none) : f.read room doc = none := by
  rw [Option.eq_none_iff_forall_ne_some]
  intro v hv
  obtain ⟨r, hr, _⟩ := (read_eq_some_iff hf room doc v).mp hv
  rw [h] at hr
  cases hr

/-- **Documents that differ in one field are read alike if that field is.** -/
theorem read_of_differ {f p : Form} {n : String} (hp : Dict.look n f.fields = some p) (room : Nat)
    {o o' : Option Doc} {doc doc' : Doc} (h : Record.Differ f.names n o o' doc doc')
    (hfield : p.readOr (f.inner room) o = p.readOr (f.inner room) o') :
    f.read room doc = f.read room doc' := by
  have hf := isRecord_of_look hp
  rcases h with ⟨hnone, hnone'⟩ | ⟨r, r', hr, hr', rfl, rfl, hothers⟩
  · rw [read_eq_none hf room hnone, read_eq_none hf room hnone']
  · refine read_congr hf hr hr' fun m q hq => ?_
    rw [readField_eq, readField_eq]
    by_cases hm : m = n
    · subst hm
      obtain rfl : p = q := Option.some.inj (hp.symm.trans hq)
      exact hfield
    · rw [hothers m (mem_names hq) hm]

/-- A document with a field that cannot be read cannot be read. -/
theorem read_eq_none_of_differ {f p : Form} {n : String} (hp : Dict.look n f.fields = some p)
    (room : Nat) {o o' : Option Doc} {doc doc' : Doc}
    (h : Record.Differ f.names n o o' doc doc') (hfield : p.readOr (f.inner room) o = none) :
    f.read room doc = none := by
  have hf := isRecord_of_look hp
  rcases h with ⟨hnone, _⟩ | ⟨r, _, hr, _, rfl, _⟩
  · exact read_eq_none hf room hnone
  · rw [Option.eq_none_iff_forall_ne_some]
    intro v hv
    obtain ⟨r', hr', hfrom⟩ := (read_eq_some_iff hf room doc v).mp hv
    rw [hr] at hr'
    cases hr'
    have hsome := hfrom.isSome (n, p) (mem_fields hp)
    rw [readField_eq, hfield] at hsome
    cases hsome

end Form

/-! ## 3. Parts of parts -/

/-- **Where in a part another part stands**: the document of the whole, made of the document of the
    part, with all the rest of it as it may be. -/
inductive Place : Form → Form → (Doc → Doc) → Prop where
  /-- The part is the whole. -/
  | here (f : Form) : Place f f fun d => d
  /-- In a field of an object. -/
  | field {f p part : Form} {n : String} {inside : Doc → Doc}
      (hp : Dict.look n f.fields = some p) (before after : List (Option String × Doc))
      (deeper : Place p part inside) :
      Place f part fun d => .object (before ++ (some n, inside d) :: after)
  /-- In a field that is given by its position. -/
  | position {f p part : Form} {n : String} {inside : Doc → Doc}
      (hp : Dict.look n f.fields = some p) {before : List Doc}
      (hn : f.names[before.length]? = some n) (after : List Doc) (deeper : Place p part inside) :
      Place f part fun d => .array (before ++ inside d :: after)
  /-- In an item of a list. -/
  | item {part : Form} {inside : Doc → Doc} (before after : List Doc)
      (deeper : Place .profileField part inside) :
      Place .profileFields part fun d => .array (before ++ inside d :: after)

namespace Place

variable {whole part : Form} {around : Doc → Doc}

/-- An item of a list that is read as before leaves the list as before. -/
theorem listOf?_congr {α : Type} {read : Doc → Option α} (before after : List Doc) {d d' : Doc}
    (h : read d = read d') :
    Record.listOf? read (.array (before ++ d :: after)) =
      Record.listOf? read (.array (before ++ d' :: after)) := by
  show (before ++ d :: after).mapM read = (before ++ d' :: after).mapM read
  rw [List.mapM_append, List.mapM_append, List.mapM_cons, List.mapM_cons, h]

theorem listOf?_eq_none {α : Type} {read : Doc → Option α} (before after : List Doc) {d : Doc}
    (h : read d = none) : Record.listOf? read (.array (before ++ d :: after)) = none := by
  show (before ++ d :: after).mapM read = none
  rw [List.mapM_append, List.mapM_cons, h]
  cases before.mapM read <;> rfl

/-- **A part that is read as before leaves the whole as before**, read or unreadable. -/
theorem read_congr (h : Place whole part around) {d d' : Doc}
    (hread : ∀ room, part.read room d = part.read room d') (room : Nat) :
    whole.read room (around d) = whole.read room (around d') := by
  induction h generalizing room with
  | here => exact hread room
  | field hp before after _ ih =>
    exact Form.read_of_differ hp room
      (Record.differ_field (Form.mem_names hp) before after _ _) (ih hread _)
  | position hp hn after _ ih =>
    exact Form.read_of_differ hp room
      (Record.differ_position (Form.nodup_names _) hn after _ _) (ih hread _)
  | item before after _ ih => exact listOf?_congr before after (ih hread room)

/-- **A part that cannot be read makes the whole unreadable.** -/
theorem read_eq_none (h : Place whole part around) {d : Doc}
    (hread : ∀ room, part.read room d = none) (room : Nat) :
    whole.read room (around d) = none := by
  induction h generalizing room with
  | here => exact hread room
  | field hp before after _ ih =>
    exact Form.read_eq_none_of_differ hp room
      (Record.differ_field (Form.mem_names hp) before after _ .null) (ih hread _)
  | position hp hn after _ ih =>
    exact Form.read_eq_none_of_differ hp room
      (Record.differ_position (Form.nodup_names _) hn after _ .null) (ih hread _)
  | item before after _ ih => exact listOf?_eq_none before after (ih hread room)

end Place

/-! ## 4. Jobs -/

/-- The form of a job of a kind. -/
def JobKind.form : JobKind → Form
  | .behavior => .behaviorJob
  | .rule => .ruleJob

/-- **What the text of a job is read as depends on how its document is read.** -/
theorem Job.ofText?_congr {kind : JobKind} {text text' : String} {doc doc' : Doc}
    (hdoc : Doc.ofText? text = some doc) (hdoc' : Doc.ofText? text' = some doc')
    (h : ∀ room, kind.form.read room doc = kind.form.read room doc') :
    ofText? kind text = ofText? kind text' := by
  rw [ofText?, ofText?, hdoc, hdoc', Option.bind_some, Option.bind_some]
  cases kind with
  | behavior => exact congrArg (Option.map Job.behavior) (h Json.deepest)
  | rule => exact congrArg (Option.map Job.rule) (h Json.deepest)

theorem Job.ofText?_eq_none {kind : JobKind} {text : String} {doc : Doc}
    (hdoc : Doc.ofText? text = some doc) (h : ∀ room, kind.form.read room doc = none) :
    ofText? kind text = none := by
  rw [ofText?, hdoc, Option.bind_some]
  cases kind with
  | behavior => exact congrArg (Option.map Job.behavior) (h Json.deepest)
  | rule => exact congrArg (Option.map Job.rule) (h Json.deepest)

end JobKeeper
