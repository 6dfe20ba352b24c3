/-
  File:      JobKeeper/Proofs/Job/RoundTrip.lean
  Subject:   Job definitions survive their own wire format.

  What is written for a job that has been read is read as this job again, and so is every other
  document that spells the same out. The printer and the readers meet at `Doc.Spells`: the text that
  is printed spells out what is written, and each component is read from what it is spelled as.

  * `Form.Full`: what is written has every field of its form, but for optional texts;
  * `Stream.ofDoc?_of_spells` and its like: one part after another is read back;
  * `Job.survives_wire_format`: so is every job that any text has been read as.
-/
import JobKeeper.Proofs.Job.Tolerance
import JobKeeper.Proofs.Json.Printed
import JobKeeper.Proofs.Json.Spelled

namespace JobKeeper

open Json (Doc Record)

variable {room : Nat} {doc doc' : Doc} {r : Record} {n : String}

/-! ## 1. What is written -/

/-- **Written in full**: an object has a value for every field of its form, except that an optional
    text may be left out, and nothing besides. -/
inductive Form.Full : Form → Json → Prop
  | record {f : Form} {fields : List (String × Json)} (hf : f.IsRecord)
      (known : ∀ n v, Dict.look n fields = some v → n ∈ f.names)
      (present : ∀ n p, Dict.look n f.fields = some p → p ≠ optionalText →
        (Dict.look n fields).isSome)
      (parts : ∀ n p v, Dict.look n f.fields = some p → Dict.look n fields = some v → Full p v) :
      Full f (.object fields)
  | profileFields {items : List Json} (h : ∀ item ∈ items, Full profileField item) :
      Full profileFields (.array items)
  | schema (types : Dict String) : Full schema (.ofDict (types.map .string))
  | extraData (values : Dict Json) : Full extraData (.ofDict values)
  | text (s : String) : Full text (.string s)
  | optionalText (s : String) : Full optionalText (.string s)
  | wholeNumber (i : Int) : Full wholeNumber (.int i)
  | number (d : Json.Binary64) : Full number (.number (.double d))

open Form (Full)

namespace Form.Full

/-- Fields that are written in full, in whatever order. -/
theorem of_fields {f : Form} {fields : List (String × Json)} (hf : f.IsRecord)
    (present : ∀ e ∈ f.fields, e.2 ≠ .optionalText → e.1 ∈ fields.map (·.1))
    (parts : ∀ e ∈ fields, ∃ p, Dict.look e.1 f.fields = some p ∧ Full p e.2) :
    Full f (.fields fields) := by
  have entry : ∀ {n v}, Dict.look n (Dict.ofList fields).entries = some v → (n, v) ∈ fields := by
    intro n v h
    obtain ⟨before, after, rfl, _⟩ :=
      (Dict.look_reverse_eq_some_iff fields n v).mp ((Dict.get?_ofList fields n).symm.trans h)
    exact List.mem_append_right _ List.mem_cons_self
  refine .record hf (fun n v h => ?_) (fun n p hp hne => ?_) (fun n p v hp h => ?_)
  · obtain ⟨p, hp, _⟩ := parts _ (entry h)
    exact mem_names hp
  · rw [Dict.isSome_look_iff]
    exact (Dict.mem_keys_ofList fields n).mpr (present (n, p) (mem_fields hp) hne)
  · obtain ⟨q, hq, hfull⟩ := parts _ (entry h)
    obtain rfl : p = q := Option.some.inj (hp.symm.trans hq)
    exact hfull

/-- All the fields, in the order of their declaration. -/
theorem of_forall₂ {f : Form} {fields : List (String × Json)} (hf : f.IsRecord)
    (h : List.Forall₂ (fun d e => d.1 = e.1 ∧ Full d.2 e.2) f.fields fields) :
    Full f (.fields fields) := by
  refine of_fields hf (fun d hd _ => ?_) fun e he => ?_
  · obtain ⟨i, hi, rfl⟩ := List.mem_iff_getElem.mp hd
    have hi' := h.length_eq ▸ hi
    exact List.mem_map.mpr ⟨_, List.getElem_mem hi', (h.get hi hi').1.symm⟩
  · obtain ⟨i, hi, rfl⟩ := List.mem_iff_getElem.mp he
    have hi' := h.length_eq.symm ▸ hi
    obtain ⟨hname, hfull⟩ := h.get hi' hi
    refine ⟨_, ?_, hfull⟩
    exact (Dict.look_eq_some_iff_of_nodup f.nodup_names _ _).mpr (hname ▸ List.getElem_mem hi')

end Form.Full

/-- A text that is absent is not written, and one that is present is written as a text. -/
theorem Stream.optionalField_full {name : String}
    (hname : Dict.look name Form.stream.fields = some .optionalText) (value : Option String) :
    ∀ e ∈ optionalField name value,
      ∃ p, Dict.look e.1 Form.stream.fields = some p ∧ Full p e.2 := by
  cases value with
  | none => exact nofun
  | some s => exact List.forall_mem_singleton.mpr ⟨_, hname, .optionalText s⟩

theorem Stream.toJson_full (s : Stream) : Full .stream s.toJson := by
  refine .of_fields (by decide) ?_ ?_
  · simp [Form.fields]
  · simp only [List.forall_mem_append, List.forall_mem_cons]
    exact ⟨⟨⟨⟨⟨⟨_, rfl, .text _⟩, ⟨_, rfl, .text _⟩, ⟨_, rfl, .schema _⟩, List.forall_mem_nil _⟩,
      optionalField_full rfl _⟩, optionalField_full rfl _⟩, optionalField_full rfl _⟩,
      optionalField_full rfl _⟩

theorem ProfileField.toJson_full (f : ProfileField) : Full .profileField f.toJson :=
  .of_forall₂ (by decide) <| .cons ⟨rfl, .text _⟩ <| .cons ⟨rfl, .text _⟩ <|
    .cons ⟨rfl, .extraData _⟩ .nil

theorem ProfileField.list_full (fs : List ProfileField) :
    Full .profileFields (.array (fs.map toJson)) :=
  .profileFields <| List.forall_mem_map.mpr fun f _ => f.toJson_full

theorem Profile.toJson_full (p : Profile) : Full .profile p.toJson :=
  .of_forall₂ (by decide) <| .cons ⟨rfl, .text _⟩ <| .cons ⟨rfl, .text _⟩ <|
    .cons ⟨rfl, .wholeNumber _⟩ <| .cons ⟨rfl, .text _⟩ <|
    .cons ⟨rfl, ProfileField.list_full _⟩ <| .cons ⟨rfl, ProfileField.list_full _⟩ <|
    .cons ⟨rfl, .text _⟩ <| .cons ⟨rfl, .wholeNumber _⟩ <| .cons ⟨rfl, .number _⟩ .nil

theorem BehaviorJob.toJson_full (job : BehaviorJob) : Full .behaviorJob job.toJson :=
  .of_forall₂ (by decide) <| .cons ⟨rfl, .text _⟩ <| .cons ⟨rfl, job.source.toJson_full⟩ <|
    .cons ⟨rfl, job.profile.toJson_full⟩ <| .cons ⟨rfl, job.profileOutput.toJson_full⟩ <|
    .cons ⟨rfl, job.behaviorOutput.toJson_full⟩ <| .cons ⟨rfl, .text _⟩ .nil

theorem RuleJob.toJson_full (job : RuleJob) : Full .ruleJob job.toJson :=
  .of_forall₂ (by decide) <| .cons ⟨rfl, .text _⟩ <| .cons ⟨rfl, .text _⟩ <|
    .cons ⟨rfl, .text _⟩ <| .cons ⟨rfl, .text _⟩ <| .cons ⟨rfl, .text _⟩ <|
    .cons ⟨rfl, .text _⟩ <| .cons ⟨rfl, .wholeNumber _⟩ <|
    .cons ⟨rfl, job.predictor.toJson_full⟩ <| .cons ⟨rfl, job.sink.toJson_full⟩ .nil

/-- **A job is written in full.** -/
theorem Job.toJson_full (job : Job) : Full job.kind.form job.toJson := by
  cases job with
  | behavior job => exact job.toJson_full
  | rule job => exact job.toJson_full

/-! ## 2. What has been read -/

/-- What a field is read as, its form is read as of some document. -/
theorem Form.exists_of_readField {p : Form} {v : p.Value} (h : p.readField room r n = some v) :
    ∃ d, p.read room d = some v := by
  rw [readField_eq] at h
  cases hget : r.get? n with
  | none =>
    rw [hget] at h
    exact ⟨p.blank, (p.read_blank room).trans h⟩
  | some d =>
    rw [hget] at h
    exact ⟨d, h⟩

/-- A field that is read as a whole number has 64 bits with a sign. -/
theorem Json.Record.int?_range {i : Int} (h : r.int? n = some i) :
    -0x8000000000000000 ≤ i ∧ i < 0x8000000000000000 := by
  have hfield : Form.wholeNumber.readField 0 r n = some i := h
  obtain ⟨d, hd⟩ := Form.exists_of_readField hfield
  exact intOf?_range hd

/-- Each field of a list of them has been read of some document. -/
theorem ProfileField.exists_of_mem {fs : List ProfileField}
    (h : Form.profileFields.readField room r n = some fs) :
    ∀ f ∈ fs, ∃ d, ofDoc? room d = some f := by
  obtain ⟨d, hd⟩ := Form.exists_of_readField h
  cases d with
  | array docs =>
    have hall := (Record.mapM_eq_some_iff _ docs fs).mp hd
    intro f hf
    obtain ⟨i, hi, rfl⟩ := List.mem_iff_getElem.mp hf
    exact ⟨_, hall.get (hall.length_eq ▸ hi) hi⟩
  | _ => cases hd

/-! ## 3. Parts that are read back -/

@[simp] theorem Stream.look_optionalField (n name : String) (value : Option String) :
    Dict.look n (optionalField name value).reverse =
      if name = n then value.map .string else none := by
  cases value <;> simp [optionalField, Dict.look]

/-- **A stream is read back**, with the optional texts that it has and without those that it does
    not have. -/
theorem Stream.ofDoc?_of_spells {s : Stream} (h : doc.Spells s.toJson) : ofDoc? doc = some s := by
  obtain ⟨r, hr, hfields⟩ := Record.exists_spelled fieldNames (show doc.Spells (.fields _) from h)
  exact (ofDoc?_eq_some_iff doc s).mpr ⟨r, hr, {
    bootstrapServers := hfields.text? (by decide) (by simp [Dict.look_append, Dict.look])
    topic := hfields.text? (by decide) (by simp [Dict.look_append, Dict.look])
    authType := hfields.optionalText? (by decide) (by simp [Dict.look_append, Dict.look])
    keytab := hfields.optionalText? (by decide) (by simp [Dict.look_append, Dict.look])
    principal := hfields.optionalText? (by decide) (by simp [Dict.look_append, Dict.look])
    schema := hfields.read (v := .ofDict (s.schema.map .string)) (by decide)
      (by simp [Dict.look_append, Dict.look]) _ fun _ => Record.dictOf?_textOf?_of_spells
    timestampField := hfields.optionalText? (by decide)
      (by simp [Dict.look_append, Dict.look]) }⟩

/-- **A field of a profile that has been read is read back**, with all its data. -/
theorem ProfileField.ofDoc?_of_spells {f : ProfileField} (hread : ofDoc? room doc' = some f)
    (h : doc.Spells f.toJson) : ofDoc? room doc = some f := by
  obtain ⟨_, _, hfrom⟩ := (ofDoc?_eq_some_iff room doc' f).mp hread
  obtain ⟨d, hd⟩ := Form.exists_of_readField (p := .extraData) hfrom.extraData
  have hkept := Record.kept_of_dictOf? hd
  obtain ⟨r, hr, hfields⟩ := Record.exists_spelled fieldNames (show doc.Spells (.fields _) from h)
  exact (ofDoc?_eq_some_iff room doc f).mpr ⟨r, hr, {
    name := hfields.text? (by decide) rfl
    kind := hfields.text? (by decide) rfl
    extraData := hfields.read (by decide) rfl _ fun _ hd =>
      Record.dictOf?_keep_of_spells hd hkept }⟩

/-- **The fields of a profile that have been read are read back**, in order. -/
theorem ProfileField.listOf?_of_spells {fs : List ProfileField}
    (hread : Form.profileFields.readField room r n = some fs)
    (h : doc.Spells (.array (fs.map toJson))) : Record.listOf? (ofDoc? room) doc = some fs := by
  refine Record.listOf?_of_spells h fun f hf d hd => ?_
  obtain ⟨d', hread⟩ := exists_of_mem hread f hf
  exact ofDoc?_of_spells hread hd

/-- **A profile that has been read is read back.** -/
theorem Profile.ofDoc?_of_spells {p : Profile} (hread : ofDoc? room doc' = some p)
    (h : doc.Spells p.toJson) : ofDoc? room doc = some p := by
  obtain ⟨_, _, hfrom⟩ := (ofDoc?_eq_some_iff room doc' p).mp hread
  obtain ⟨hlow, hhigh⟩ := Record.int?_range hfrom.status
  obtain ⟨hlow', hhigh'⟩ := Record.int?_range hfrom.savingDurationMinutes
  obtain ⟨r, hr, hfields⟩ := Record.exists_spelled fieldNames (show doc.Spells (.fields _) from h)
  exact (ofDoc?_eq_some_iff room doc p).mpr ⟨r, hr, {
    id := hfields.text? (by decide) rfl
    name := hfields.text? (by decide) rfl
    status := hfields.read (by decide) rfl _ fun _ hd =>
      Record.intOf?_of_spells hd hlow hhigh
    profileType := hfields.text? (by decide) rfl
    entities := hfields.read (by decide) rfl _ fun _ =>
      ProfileField.listOf?_of_spells hfrom.entities
    attributes := hfields.read (by decide) rfl _ fun _ =>
      ProfileField.listOf?_of_spells hfrom.attributes
    profileTime := hfields.text? (by decide) rfl
    savingDurationMinutes := hfields.read (by decide) rfl _ fun _ hd =>
      Record.intOf?_of_spells hd hlow' hhigh'
    threshold := hfields.read (by decide) rfl _ fun _ => Record.doubleOf?_of_spells }⟩

theorem BehaviorJob.ofDoc?_of_spells {job : BehaviorJob} (hread : ofDoc? room doc' = some job)
    (h : doc.Spells job.toJson) : ofDoc? room doc = some job := by
  obtain ⟨_, _, hfrom⟩ := (ofDoc?_eq_some_iff room doc' job).mp hread
  obtain ⟨d, hd⟩ := Form.exists_of_readField (p := .profile) hfrom.profile
  obtain ⟨r, hr, hfields⟩ := Record.exists_spelled fieldNames (show doc.Spells (.fields _) from h)
  exact (ofDoc?_eq_some_iff room doc job).mpr ⟨r, hr, {
    id := hfields.text? (by decide) rfl
    source := hfields.read (by decide) rfl _ fun _ => Stream.ofDoc?_of_spells
    profile := hfields.read (by decide) rfl _ fun _ => Profile.ofDoc?_of_spells hd
    profileOutput := hfields.read (by decide) rfl _ fun _ => Stream.ofDoc?_of_spells
    behaviorOutput := hfields.read (by decide) rfl _ fun _ => Stream.ofDoc?_of_spells
    filter := hfields.text? (by decide) rfl }⟩

theorem RuleJob.ofDoc?_of_spells {job : RuleJob} (hread : ofDoc? doc' = some job)
    (h : doc.Spells job.toJson) : ofDoc? doc = some job := by
  obtain ⟨_, _, hfrom⟩ := (ofDoc?_eq_some_iff doc' job).mp hread
  obtain ⟨hlow, hhigh⟩ := Record.int?_range hfrom.riskScore
  obtain ⟨r, hr, hfields⟩ := Record.exists_spelled fieldNames (show doc.Spells (.fields _) from h)
  exact (ofDoc?_eq_some_iff doc job).mpr ⟨r, hr, {
    id := hfields.text? (by decide) rfl
    name := hfields.text? (by decide) rfl
    filter := hfields.text? (by decide) rfl
    object := hfields.text? (by decide) rfl
    technique := hfields.text? (by decide) rfl
    severity := hfields.text? (by decide) rfl
    riskScore := hfields.read (by decide) rfl _ fun _ hd =>
      Record.intOf?_of_spells hd hlow hhigh
    predictor := hfields.read (by decide) rfl _ fun _ => Stream.ofDoc?_of_spells
    sink := hfields.read (by decide) rfl _ fun _ => Stream.ofDoc?_of_spells }⟩

/-! ## 4. Jobs -/

namespace Job

variable {kind : JobKind} {text : String} {job : Job}

theorem kind_of_ofDoc? (hread : ofDoc? kind room doc = some job) : job.kind = kind := by
  cases kind with
  | behavior =>
    obtain ⟨_, _, rfl⟩ := Option.map_eq_some_iff.mp hread
    rfl
  | rule =>
    obtain ⟨_, _, rfl⟩ := Option.map_eq_some_iff.mp hread
    rfl

/-- **A job that has been read is read back of every document that spells it out.** -/
theorem ofDoc?_of_spells (hread : ofDoc? kind room doc' = some job) (h : doc.Spells job.toJson) :
    ofDoc? kind room doc = some job := by
  cases kind with
  | behavior =>
    obtain ⟨job, hjob, rfl⟩ := Option.map_eq_some_iff.mp hread
    exact congrArg (Option.map Job.behavior) (BehaviorJob.ofDoc?_of_spells hjob h)
  | rule =>
    obtain ⟨job, hjob, rfl⟩ := Option.map_eq_some_iff.mp hread
    exact congrArg (Option.map Job.rule) (RuleJob.ofDoc?_of_spells hjob h)

/-- **A job that has been read survives its own wire format.** It is written in full; the text that
    is printed for it is read as the same job, if its doubles are read back from what is printed for
    them; and so is every other text that spells the same out. -/
theorem survives_wire_format (h : ofText? kind text = some job) :
    Full kind.form job.toJson ∧
      ((∀ d ∈ job.toJson.doubles, d.ReadsBack) → ofText? kind (Json.text job.toJson) = some job) ∧
      ∀ text' doc', Doc.ofText? text' = some doc' → doc'.Spells job.toJson →
        ofText? kind text' = some job := by
  obtain ⟨doc, _, hread⟩ := Option.bind_eq_some_iff.mp h
  have again : ∀ text' doc', Doc.ofText? text' = some doc' → doc'.Spells job.toJson →
      ofText? kind text' = some job := by
    intro text' doc' hdoc' hspells
    rw [ofText?, hdoc', Option.bind_some]
    exact ofDoc?_of_spells hread hspells
  refine ⟨kind_of_ofDoc? hread ▸ job.toJson_full, fun hdoubles => ?_, again⟩
  exact again _ _ (Json.ofText?_text job.toJson) (Json.toDoc_spells job.toJson hdoubles)

/-- A threshold, a double and a `null` in the data of a field that is given by position, and an
    empty keytab but no other optional text. -/
theorem survives_wire_format_keytab :
    let text := "\x7b\"source_config\":\x7b\"topic\":\"logs\",\"keytab\":\"\"\x7d," ++
      "\"profile_config\":\x7b\"entity\":[[\"user\",\"STRING\",\x7b\"note\":null," ++
      "\"weights\":[0.25]\x7d]],\"threshold\":7.5\x7d\x7d"
    ∃ job, ofText? .behavior text = some job ∧
      job.toJson.doubles.map (·.code) = [0x3FD0000000000000, 0x401E000000000000] ∧
      (∀ d ∈ job.toJson.doubles, d.ReadsBack) ∧
      ofText? .behavior (Json.text job.toJson) = some job := by
  intro text
  have hread : (ofText? .behavior text).map (fun job => job.toJson.doubles) =
      some [⟨false, 0x3FD0000000000000, by decide⟩, ⟨false, 0x401E000000000000, by decide⟩] := by
    decide +kernel
  obtain ⟨job, hjob, hdoubles⟩ := Option.map_eq_some_iff.mp hread
  have hback : ∀ d ∈ job.toJson.doubles, d.ReadsBack := by
    rw [hdoubles]
    decide +kernel
  exact ⟨job, hjob, by rw [hdoubles]; rfl, hback, (survives_wire_format hjob).2.1 hback⟩

end Job

end JobKeeper
