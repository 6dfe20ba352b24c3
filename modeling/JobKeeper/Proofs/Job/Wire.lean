/-
  File:      JobKeeper/Proofs/Job/Wire.lean
  Subject:   A job definition in a list and the same definition by itself.

  A document that stands by itself may be nested one level deeper than one in a list. More room never
  makes a document unreadable, and it never changes what is read:

  * `Doc.keep_mono`: a value that is kept is kept in more room;
  * `Job.ofDoc?_mono`: a job that is read is read in more room;
  * `Job.ofText?_of_listed`: what a list of jobs is read as, each element is read as by itself.
-/
import JobKeeper.Job.Wire
import JobKeeper.Proofs.Json.Elements

namespace JobKeeper

open Json (Doc Record ArrayText)

/-! ## 1. Readings that agree -/

/-- What the first reading makes of something, if anything, the second one makes of it as well. -/
def Extends {α : Type} (o o' : Option α) : Prop := ∀ a, o = some a → o' = some a

namespace Extends

variable {α β : Type}

theorem refl (o : Option α) : Extends o o := fun _ h => h

theorem bind {o o' : Option α} (h : Extends o o') {f f' : α → Option β}
    (hf : ∀ a, Extends (f a) (f' a)) : Extends (o >>= f) (o' >>= f') := by
  intro b hb
  obtain ⟨a, ha, hfa⟩ := Option.bind_eq_some_iff.mp hb
  exact Option.bind_eq_some_iff.mpr ⟨a, h a ha, hf a b hfa⟩

theorem map {o o' : Option α} (h : Extends o o') (f : α → β) :
    Extends (o.map f) (o'.map f) := by
  intro b hb
  obtain ⟨a, ha, rfl⟩ := Option.map_eq_some_iff.mp hb
  rw [h a ha, Option.map_some]

theorem mapM {f f' : α → Option β} (hf : ∀ a, Extends (f a) (f' a)) (as : List α) :
    Extends (as.mapM f) (as.mapM f') := by
  induction as with
  | nil => exact refl _
  | cons a as ih =>
    rw [List.mapM_cons, List.mapM_cons]
    exact (hf a).bind fun _ => ih.bind fun _ => refl _

end Extends

/-! ## 2. Values -/

namespace Json

mutual

/-- **A value that is kept is kept in more room.** -/
theorem Doc.keep_mono {room room' : Nat} (hle : room ≤ room') :
    ∀ doc : Doc, Extends (doc.keep room) (doc.keep room')
  | .null => .refl _
  | .bool _ => .refl _
  | .number _ => .refl _
  | .string _ => .refl _
  | .array items => by
    cases room with
    | zero => exact fun _ h => nomatch h
    | succ room =>
      cases room' with
      | zero => cases hle
      | succ room' => exact Extends.map (Doc.keepItems_mono (Nat.le_of_succ_le_succ hle) items) _
  | .object fields => by
    cases room with
    | zero => exact fun _ h => nomatch h
    | succ room =>
      cases room' with
      | zero => cases hle
      | succ room' => exact Extends.map (Doc.keepFields_mono (Nat.le_of_succ_le_succ hle) fields) _

theorem Doc.keepItems_mono {room room' : Nat} (hle : room ≤ room') :
    ∀ items : List Doc, Extends (Doc.keepItems room items) (Doc.keepItems room' items)
  | [] => .refl _
  | item :: rest =>
    (Doc.keep_mono hle item).bind fun _ => (Doc.keepItems_mono hle rest).bind fun _ => .refl _

theorem Doc.keepFields_mono {room room' : Nat} (hle : room ≤ room') :
    ∀ fields : List (Option String × Doc),
      Extends (Doc.keepFields room fields) (Doc.keepFields room' fields)
  | [] => .refl _
  | (key, doc) :: rest =>
    (Extends.refl key).bind fun _ => (Doc.keep_mono hle doc).bind fun _ =>
      (Doc.keepFields_mono hle rest).bind fun _ => .refl _

end

namespace Record

variable {α : Type} {value value' : Doc → Option α}

theorem listOf?_extends (h : ∀ doc, Extends (value doc) (value' doc)) (doc : Doc) :
    Extends (listOf? value doc) (listOf? value' doc) := by
  cases doc with
  | array items => exact Extends.mapM h items
  | _ => exact .refl _

theorem dictOf?_extends (h : ∀ doc, Extends (value doc) (value' doc)) (doc : Doc) :
    Extends (dictOf? value doc) (dictOf? value' doc) := by
  cases doc with
  | object fields =>
    refine (Extends.mapM (fun field => ?_) fields).bind fun _ => .refl _
    exact (Extends.refl field.1).bind fun _ => (h field.2).bind fun _ => .refl _
  | _ => exact .refl _

theorem read_extends (h : ∀ doc, Extends (value doc) (value' doc)) (r : Record) (name : String)
    (missing : α) : Extends (r.read name missing value) (r.read name missing value') := by
  unfold read
  cases r.get? name with
  | none => exact .refl _
  | some doc => exact h doc

end Record

end Json

/-! ## 3. Jobs -/

section Room

variable {room room' : Nat} (hle : room ≤ room') (doc : Doc)

include hle

theorem ProfileField.ofDoc?_mono : Extends (ofDoc? room doc) (ofDoc? room' doc) := by
  have extra (r : Record) := Record.read_extends
    (Record.dictOf?_extends (Json.Doc.keep_mono (Nat.sub_le_sub_right hle 2))) r "extra_data" .empty
  exact (Extends.refl _).bind fun r => (Extends.refl _).bind fun _ => (Extends.refl _).bind fun _ =>
    (extra r).bind fun _ => .refl _

theorem Profile.ofDoc?_mono : Extends (ofDoc? room doc) (ofDoc? room' doc) := by
  have list (r : Record) (name : String) := Record.read_extends
    (Record.listOf?_extends (ProfileField.ofDoc?_mono (Nat.sub_le_sub_right hle 2))) r name []
  exact (Extends.refl _).bind fun r => (Extends.refl _).bind fun _ => (Extends.refl _).bind fun _ =>
    (Extends.refl _).bind fun _ => (Extends.refl _).bind fun _ => (list r "entity").bind fun _ =>
    (list r "attribute").bind fun _ => .refl _

theorem BehaviorJob.ofDoc?_mono : Extends (ofDoc? room doc) (ofDoc? room' doc) := by
  have profile (r : Record) := Record.read_extends
    (Profile.ofDoc?_mono (Nat.sub_le_sub_right hle 1)) r "profile_config" {}
  exact (Extends.refl _).bind fun r => (Extends.refl _).bind fun _ => (Extends.refl _).bind fun _ =>
    (profile r).bind fun _ => .refl _

/-- **A job that is read is read in more room**, as the same job. -/
theorem Job.ofDoc?_mono (kind : JobKind) : Extends (ofDoc? kind room doc) (ofDoc? kind room' doc) := by
  cases kind with
  | behavior => exact (BehaviorJob.ofDoc?_mono hle doc).map Job.behavior
  | rule => exact .refl _

end Room

/-! ## 4. Lists of jobs -/

namespace Job

variable {kind : JobKind}

/-- A job that is read is of the kind asked for. -/
theorem kind_of_ofText? {text : String} {job : Job} (h : ofText? kind text = some job) :
    job.kind = kind := by
  obtain ⟨doc, _, hjob⟩ := Option.bind_eq_some_iff.mp h
  cases kind with
  | behavior =>
    obtain ⟨_, _, rfl⟩ := Option.map_eq_some_iff.mp hjob
    rfl
  | rule =>
    obtain ⟨_, _, rfl⟩ := Option.map_eq_some_iff.mp hjob
    rfl

/-- A list of jobs is read from `null`, or from an array whose items are read one by one. -/
theorem listOfDoc?_cases {doc : Doc} {jobs : List Job} (h : listOfDoc? kind doc = some jobs) :
    (doc = .null ∧ jobs = []) ∨
      ∃ docs, doc = .array docs ∧ docs.mapM (ofDoc? kind (Json.deepest - 1)) = some jobs := by
  cases doc with
  | null => exact Or.inl ⟨rfl, (Option.some.inj h).symm⟩
  | array docs => exact Or.inr ⟨docs, rfl, h⟩
  | _ => cases h

/-- **Each element of a list of jobs is read as the same job by itself**, however the text of the
    list is cut into its elements; and unless it is `null` it can be cut. -/
theorem ofText?_of_listed {body : String} {jobs : List Job}
    (h : (Doc.ofText? body).bind (listOfDoc? kind) = some jobs) :
    ((Doc.ofText? body = some .null ∧ jobs = []) ∨ ∃ elements, ArrayText body elements) ∧
      ∀ elements, ArrayText body elements →
        List.Forall₂ (fun e job => ofText? kind e = some job) elements jobs := by
  obtain ⟨doc, hdoc, hlist⟩ := Option.bind_eq_some_iff.mp h
  rcases listOfDoc?_cases hlist with ⟨rfl, hjobs⟩ | ⟨docs, rfl, hjobs⟩
  · refine ⟨Or.inl ⟨hdoc, hjobs⟩, fun elements hcut => ?_⟩
    obtain ⟨docs, hdocs, _⟩ := hcut.docs
    rw [hdoc] at hdocs
    cases hdocs
  · refine ⟨Or.inr (Json.exists_arrayText hdoc), fun elements hcut => ?_⟩
    obtain ⟨docs', hdocs, hread⟩ := hcut.docs
    rw [hdoc] at hdocs
    cases hdocs
    clear hcut h hdoc hlist
    induction hread generalizing jobs with
    | nil =>
      cases hjobs
      exact .nil
    | @cons e doc elements docs he _ ih =>
      rw [List.mapM_cons] at hjobs
      obtain ⟨job, hjob, hjobs⟩ := Option.bind_eq_some_iff.mp hjobs
      obtain ⟨jobs', hjobs', hall⟩ := Option.bind_eq_some_iff.mp hjobs
      cases hall
      refine .cons ?_ (ih hjobs')
      show (Doc.ofText? e).bind _ = _
      rw [he]
      exact ofDoc?_mono (Nat.sub_le _ 1) doc kind job hjob

end Job

end JobKeeper
