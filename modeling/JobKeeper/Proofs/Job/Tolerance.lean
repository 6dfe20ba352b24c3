/-
  File:      JobKeeper/Proofs/Job/Tolerance.lean
  Subject:   How the document of a job may be written without making a difference.

  Hubs of different versions write their jobs in different ways. None of them counts on an order of
  keys, a newer one adds keys, and an older one leaves keys out. What such a change does is said for
  one object, and it holds at any depth by where the object stands.

  * `Form.Harmless`: the changes of one object, `Form.Harmless.read_eq`: they make no difference;
  * `Form.Changed`: one of them at any depth;
  * `Form.read_null`: `null` is refused wherever it is no optional text;
  * `Job.decoding_is_tolerant`: all of it for the text of a job.
-/
import JobKeeper.Proofs.Job.Forms
import JobKeeper.Proofs.Json.Elements
import Mathlib.Logic.Relation

namespace JobKeeper

open Json (Doc Record)

/-! ## 1. Changes of one object -/

namespace Form

/-- The empty value of a part as it is written: `""`, `null` for an optional text, `0`, `[]`
    or `{}`. -/
def blank : Form → Doc
  | text => .string (some "")
  | optionalText => .null
  | wholeNumber | number => .number { whole := Json.Digits.zeros 1 }
  | profileFields => .array []
  | _ => .object []

/-- **The empty value is what a part is taken for where it is left out.** -/
theorem read_blank (f : Form) (room : Nat) : f.read room f.blank = some f.missing := by
  cases f with
  | number =>
    show Record.doubleOf? (.number { whole := Json.Digits.zeros 1 }) = some .zero
    decide
  | wholeNumber =>
    show Record.intOf? (.number { whole := Json.Digits.zeros 1 }) = some 0
    decide
  | _ => rfl

/-- **The changes of an object that make no difference.** -/
inductive Harmless (f : Form) : Doc → Doc → Prop where
  /-- Its keys are put in another order. -/
  | reordered {fields fields' : List (Option String × Doc)} (h : fields.Perm fields') :
      Harmless f (.object fields) (.object fields')
  /-- A key that names no field is added, with whatever value. -/
  | unknown {key : String} (hkey : key ∉ f.names) (value : Doc)
      (fields : List (Option String × Doc)) :
      Harmless f (.object fields) (.object ((some key, value) :: fields))
  /-- A field that is left out is given its empty value. -/
  | blank {n : String} {p : Form} (hp : Dict.look n f.fields = some p)
      {fields : List (Option String × Doc)} (habsent : ∀ e ∈ fields, e.1 ≠ some n) :
      Harmless f (.object fields) (.object ((some n, p.blank) :: fields))

/-- Documents with the same record, or both without one, are read alike. -/
theorem read_of_record_eq {f : Form} (hf : f.IsRecord) (room : Nat) {doc doc' : Doc}
    (h : Record.ofDoc? f.names doc = Record.ofDoc? f.names doc') :
    f.read room doc = f.read room doc' := by
  refine Option.ext fun v => ?_
  rw [read_eq_some_iff hf, read_eq_some_iff hf, h]

theorem Harmless.read_eq {f : Form} (hf : f.IsRecord) {doc doc' : Doc} (h : f.Harmless doc doc')
    (room : Nat) : f.read room doc = f.read room doc' := by
  cases h with
  | reordered h => exact read_of_record_eq hf room (Record.ofDoc?_perm h)
  | unknown hkey value fields =>
    exact read_of_record_eq hf room (Record.ofDoc?_unknown hkey value fields).symm
  | @blank n p hp fields habsent =>
    exact read_of_differ hp room (Record.differ_absent (mem_names hp) habsent p.blank)
      (p.read_blank _).symm

/-- Nothing but an optional text may be `null`. -/
theorem read_null {f : Form} (hf : f ≠ optionalText) (room : Nat) : f.read room .null = none := by
  cases f with
  | optionalText => exact absurd rfl hf
  | _ => rfl

/-! ## 2. Changes at any depth -/

/-- **One of these changes in one object, at any depth.** -/
def Changed (whole : Form) (doc doc' : Doc) : Prop :=
  ∃ (f : Form) (around : Doc → Doc) (d d' : Doc), Place whole f around ∧ f.IsRecord ∧
    f.Harmless d d' ∧ doc = around d ∧ doc' = around d'

theorem Changed.read_eq {whole : Form} {doc doc' : Doc} (h : whole.Changed doc doc')
    (room : Nat) : whole.read room doc = whole.read room doc' := by
  obtain ⟨f, around, d, d', hplace, hf, hchange, rfl, rfl⟩ := h
  exact hplace.read_congr (fun room => hchange.read_eq hf room) room

/-- Any number of them, made or unmade. -/
theorem read_of_eqvGen {whole : Form} {doc doc' : Doc}
    (h : Relation.EqvGen whole.Changed doc doc') (room : Nat) :
    whole.read room doc = whole.read room doc' := by
  induction h with
  | rel doc doc' h => exact h.read_eq room
  | refl doc => rfl
  | symm doc doc' _ ih => exact ih.symm
  | trans doc doc' doc'' _ _ ih ih' => exact ih.trans ih'

end Form

/-! ## 3. Texts of jobs -/

namespace Job

/-- **What the text of a job is read as does not depend on how it is written.** Reorder the keys
    of any of the objects of a job at any depth: the job itself, its streams, its profile and the
    fields of the profile. Add keys that are text and name no field, with whatever values, or take
    them away. Give fields that are left out their empty values, or leave out those that have them.
    The text is read as the same job, or refused as before. But `null` is refused wherever it
    stands for anything but an optional text. -/
theorem decoding_is_tolerant {kind : JobKind} {text : String} {doc : Doc}
    (hdoc : Doc.ofText? text = some doc) :
    (∀ text' doc', Doc.ofText? text' = some doc' → Relation.EqvGen kind.form.Changed doc doc' →
      ofText? kind text' = ofText? kind text) ∧
    (∀ f around, Place kind.form f around → f ≠ .optionalText → doc = around .null →
      ofText? kind text = none) := by
  constructor
  · intro text' doc' hdoc' h
    exact (ofText?_congr hdoc hdoc' (Form.read_of_eqvGen h)).symm
  · intro f around hplace hf hnull
    refine ofText?_eq_none hdoc fun room => ?_
    rw [hnull]
    exact hplace.read_eq_none (Form.read_null hf) room

/-- The only entity of a profile, with its type left out, empty, or `null`. -/
theorem decoding_is_tolerant_entity :
    let absent := "\x7b\"profile_config\":\x7b\"entity\":[\x7b\x7d]\x7d\x7d"
    let empty := "\x7b\"profile_config\":\x7b\"entity\":[\x7b\"type\":\"\"\x7d]\x7d\x7d"
    let null := "\x7b\"profile_config\":\x7b\"entity\":[\x7b\"type\":null\x7d]\x7d\x7d"
    (ofText? .behavior absent).isSome = true ∧
      ofText? .behavior empty = ofText? .behavior absent ∧ ofText? .behavior null = none := by
  intro absent empty null
  let job (entity : List (Option String × Doc)) : Doc :=
    .object [(some "profile_config", .object [(some "entity", .array [.object entity])])]
  have entity : Place .behaviorJob .profileField fun d =>
      .object [(some "profile_config", .object [(some "entity", .array [d])])] :=
    .field rfl [] [] (.field rfl [] [] (.item [] [] (.here .profileField)))
  have kind : Place .behaviorJob .text fun d => job [(some "type", d)] :=
    .field rfl [] [] (.field rfl [] [] (.item [] [] (.field rfl [] [] (.here .text))))
  have habsent : Doc.ofText? absent = some (job []) :=
    Doc.ofText?_of_tokens [.openObject, .string (some "profile_config"), .colon,
      .openObject, .string (some "entity"), .colon, .openArray, .openObject, .closeObject,
      .closeArray, .closeObject, .closeObject] (by decide +kernel) rfl
  have hempty : Doc.ofText? empty = some (job [(some "type", .string (some ""))]) :=
    Doc.ofText?_of_tokens [.openObject, .string (some "profile_config"), .colon,
      .openObject, .string (some "entity"), .colon, .openArray, .openObject,
      .string (some "type"), .colon, .string (some ""), .closeObject, .closeArray, .closeObject,
      .closeObject] (by decide +kernel) rfl
  have hnull : Doc.ofText? null = some (job [(some "type", .null)]) :=
    Doc.ofText?_of_tokens [.openObject, .string (some "profile_config"), .colon,
      .openObject, .string (some "entity"), .colon, .openArray, .openObject,
      .string (some "type"), .colon, .null, .closeObject, .closeArray, .closeObject,
      .closeObject] (by decide +kernel) rfl
  have changed : Form.behaviorJob.Changed (job []) (job [(some "type", .string (some ""))]) :=
    ⟨_, _, .object [], .object [(some "type", .string (some ""))], entity, by decide,
      .blank (n := "type") (p := .text) rfl (by simp), rfl, rfl⟩
  exact ⟨by decide +kernel,
    (decoding_is_tolerant habsent).1 empty _ hempty (.rel _ _ changed),
    (decoding_is_tolerant hnull).2 _ _ kind (by decide) rfl⟩

/-- A key that is half a surrogate pair is no text, so it is not passed over like other unknown
    keys: with it the job is refused. -/
theorem unpaired_key_is_refused :
    let text := "\x7b\"id\":\"r1\"\x7d"
    let text' := "\x7b\"id\":\"r1\",\"\\ud800\":1\x7d"
    Doc.ofText? text = some (.object [(some "id", .string (some "r1"))]) ∧
      Doc.ofText? text' = some (.object [(some "id", .string (some "r1")),
        (none, .number { whole := [1] })]) ∧
      (ofText? .rule text).isSome = true ∧ ofText? .rule text' = none := by
  refine ⟨?_, ?_, by decide +kernel, Option.isNone_iff_eq_none.mp (by decide +kernel)⟩
  · exact Doc.ofText?_of_tokens [.openObject, .string (some "id"), .colon,
      .string (some "r1"), .closeObject] (by decide +kernel) rfl
  · exact Doc.ofText?_of_tokens [.openObject, .string (some "id"), .colon,
      .string (some "r1"), .comma, .string none, .colon, .number { whole := [1] }, .closeObject]
      (by decide +kernel) rfl

end Job

end JobKeeper
