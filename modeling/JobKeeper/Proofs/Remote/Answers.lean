/-
  File:      JobKeeper/Proofs/Remote/Answers.lean
  Subject:   What the client makes of an answer: when it can be used, and what it then says.

  Each reader of answers is described by a relation with one case for each form that an answer can
  take, and shown to be exactly that relation.

  * `Readable`, `Unusable`: an answer with a body of the form asked for, and the error of any other;
  * `Submission`: the answer to a statement, a handle or an error;
  * `NotReady`, `Settles`: an answer to a look at a result, which leaves it open or decides it.
-/
import JobKeeper.Proofs.Except
import JobKeeper.Remote.Gateway

namespace JobKeeper

open Json (Doc Record)

/-! ## 1. Answers that can be used -/

section Read

variable {α : Type} {endpoint : String} {read : Doc → Option α} {answer : Transport.Answer}

/-- The answer has status 200 and a body that the reader can read. -/
def Readable (read : Doc → Option α) (answer : Transport.Answer) (a : α) : Prop :=
  ∃ body, answer = .ok ⟨200, body⟩ ∧ (Doc.ofText? body).bind read = some a

/-- The error of an answer that the reader cannot read. -/
inductive Unusable (endpoint : String) (read : Doc → Option α) :
    Transport.Answer → RemoteError → Prop where
  | transport (failure : TransportFailure) :
    Unusable endpoint read (.error failure) (.transport endpoint failure)
  | status {status : Nat} {body : String} (h : status ≠ 200) :
    Unusable endpoint read (.ok ⟨status, body⟩) (.status endpoint status body)
  | decode {body : String} (h : (Doc.ofText? body).bind read = none) :
    Unusable endpoint read (.ok ⟨200, body⟩) (.decode endpoint unreadable)

/-- What a reader makes of an answer. -/
def decoded (endpoint : String) (read : Doc → Option α) (answer : Transport.Answer) :
    Except RemoteError α :=
  bodyOf endpoint answer >>= fun body => readBody endpoint body read

theorem decoded_eq_ok_iff {a : α} :
    decoded endpoint read answer = .ok a ↔ Readable read answer a := by
  unfold decoded Readable
  rw [bind_eq_ok_iff]
  refine exists_congr fun body => and_congr ?_ ?_
  · cases answer with
    | error failure => simp [bodyOf]
    | ok response =>
      obtain ⟨status, body'⟩ := response
      by_cases hs : status = 200 <;> simp [bodyOf, hs]
  · unfold readBody
    cases (Doc.ofText? body).bind read <;> simp

theorem decoded_eq_error_iff {error : RemoteError} :
    decoded endpoint read answer = .error error ↔ Unusable endpoint read answer error := by
  cases answer with
  | error failure =>
    constructor
    · intro h
      cases h
      exact .transport failure
    · intro h
      cases h
      rfl
  | ok response =>
    obtain ⟨status, body⟩ := response
    by_cases hs : status = 200
    · subst hs
      show readBody endpoint body read = .error error ↔ _
      unfold readBody
      cases hb : (Doc.ofText? body).bind read with
      | none =>
        constructor
        · intro h
          cases h
          exact .decode hb
        · intro h
          cases h with
          | status hs => exact absurd rfl hs
          | decode _ => rfl
      | some a =>
        refine ⟨fun h => (nomatch h), fun h => ?_⟩
        cases h with
        | status hs => exact absurd rfl hs
        | decode hn => rw [hb] at hn; cases hn
    · have hstatus : decoded endpoint read (.ok ⟨status, body⟩) =
          .error (.status endpoint status body) := by
        simp [decoded, bodyOf, hs, bind, Except.bind]
      rw [hstatus]
      constructor
      · intro h
        cases h
        exact .status hs
      · intro h
        cases h with
        | status _ => rfl
        | decode _ => exact absurd rfl hs

end Read

/-! ## 2. The answer to a statement -/

/-- **What the answer to a submitted statement comes to**: an error, or the handle in its field
    operationHandle, which may neither be missing nor null. -/
inductive Submission (endpoint : String) (answer : Transport.Answer) :
    Except RemoteError String → Prop where
  | unusable {error : RemoteError} (h : Unusable endpoint (Doc.keep Json.deepest) answer error) :
    Submission endpoint answer (.error error)
  | missing {value : Json} (h : Readable (Doc.keep Json.deepest) answer value)
      (hfield : value.get? "operationHandle" = none ∨ value.get? "operationHandle" = some .null) :
    Submission endpoint answer (.error (.missingField endpoint "operationHandle"))
  | handle {value field : Json} (h : Readable (Doc.keep Json.deepest) answer value)
      (hfield : value.get? "operationHandle" = some field) (hnull : field ≠ .null) :
    Submission endpoint answer (.ok field.plainText)

/-- The handle that is read of an answer to a statement. -/
def handleOf (endpoint : String) (answer : Transport.Answer) : Except RemoteError String :=
  bodyOf endpoint answer >>= fun body => readHandle body "operationHandle" endpoint

theorem handleOf_eq (endpoint : String) (answer : Transport.Answer) :
    handleOf endpoint answer = (decoded endpoint (Doc.keep Json.deepest) answer >>= fun value =>
      handleField value "operationHandle" endpoint) := by
  unfold handleOf decoded readHandle
  cases bodyOf endpoint answer <;> rfl

theorem handleOf_eq_iff {endpoint : String} {answer : Transport.Answer}
    {result : Except RemoteError String} :
    handleOf endpoint answer = result ↔ Submission endpoint answer result := by
  have sound : Submission endpoint answer (handleOf endpoint answer) := by
    rw [handleOf_eq]
    cases hd : decoded endpoint (Doc.keep Json.deepest) answer with
    | error error => exact .unusable (decoded_eq_error_iff.mp hd)
    | ok value =>
      have hread := decoded_eq_ok_iff.mp hd
      show Submission endpoint answer (handleField value "operationHandle" endpoint)
      unfold handleField
      split
      · next hnone => exact .missing hread (Or.inl hnone)
      · next hnull => exact .missing hread (Or.inr hnull)
      · next field hnull hfield => exact .handle hread hfield hnull
  constructor
  · intro h
    rw [← h]
    exact sound
  · intro h
    rw [handleOf_eq]
    cases h with
    | unusable h =>
      rw [decoded_eq_error_iff.mpr h]
      rfl
    | missing h hfield =>
      rw [decoded_eq_ok_iff.mpr h]
      show handleField _ _ _ = _
      rcases hfield with hfield | hfield <;> simp only [handleField, hfield]
    | handle h hfield hnull =>
      rw [decoded_eq_ok_iff.mpr h]
      show handleField _ _ _ = _
      unfold handleField
      rw [hfield]
      split
      · next hn => cases hn
      · next hn => exact absurd (Option.some.inj hn) hnull
      · next hn => rw [Option.some.inj hn]

/-! ## 3. The answer to a look at a result -/

/-- A field of a record is missing or null. -/
def Lacks (r : Record) (name : String) : Prop := r.get? name = none ∨ r.get? name = some .null

theorem eq_none_iff_lacks {α : Type} {r : Record} {name : String} {value : Doc → Option α}
    {field : Option α} (h : r.read name none (Record.nullable value) = some field) :
    field = none ↔ Lacks r name := by
  unfold Record.read at h
  unfold Lacks
  cases hd : r.get? name with
  | none =>
    rw [hd] at h
    simp [← Option.some.inj h]
  | some doc =>
    rw [hd] at h
    by_cases hnull : doc = .null
    · subst hnull
      simp [← Option.some.inj h]
    · have hvalue : (value doc).map some = some field := by
        cases doc <;> first | exact h | exact absurd rfl hnull
      obtain ⟨a, _, rfl⟩ := Option.map_eq_some_iff.mp hvalue
      simp [hnull]

/-- **A field of a result counts as absent** exactly if it is missing or null. -/
theorem absent_iff_lacks {doc : Doc} {body : ResultBody} (h : ResultBody.ofDoc? doc = some body) :
    ∃ r, Record.ofDoc? ["resultType", "results", "jobID"] doc = some r ∧
      (body.resultType = none ↔ Lacks r "resultType") ∧
      (body.results = none ↔ Lacks r "results") ∧ (body.jobId = none ↔ Lacks r "jobID") := by
  unfold ResultBody.ofDoc? at h
  obtain ⟨r, hr, h⟩ := Option.bind_eq_some_iff.mp h
  have hfields : (do
      let resultType ← r.optionalText? "resultType"
      let results ← r.read "results" none ResultBody.optionalValue
      let jobId ← r.read "jobID" none ResultBody.optionalValue
      return ({ resultType, results, jobId } : ResultBody)) = some body := by
    cases doc with
    | array items =>
      dsimp only at h
      split at h
      · cases h
      · exact h
    | _ => exact h
  obtain ⟨resultType, htype, hfields⟩ := Option.bind_eq_some_iff.mp hfields
  obtain ⟨results, hresults, hfields⟩ := Option.bind_eq_some_iff.mp hfields
  obtain ⟨jobId, hjobId, hfields⟩ := Option.bind_eq_some_iff.mp hfields
  cases hfields
  exact ⟨r, hr, eq_none_iff_lacks htype, eq_none_iff_lacks hresults, eq_none_iff_lacks hjobId⟩

/-- The answer says that the result is not ready. Nothing else of it matters. -/
def NotReady (answer : Transport.Answer) : Prop :=
  ∃ body, Readable ResultBody.ofDoc? answer body ∧ body.resultType = some "NOT_READY"

theorem notReady_iff (answer : Transport.Answer) :
    NotReady answer ↔
      (decoded "" ResultBody.ofDoc? answer).toOption.bind (·.resultType) = some "NOT_READY" := by
  cases hd : decoded "" ResultBody.ofDoc? answer with
  | error error =>
    refine ⟨fun h => ?_, fun h => (nomatch h)⟩
    obtain ⟨body, hread, _⟩ := h
    rw [decoded_eq_ok_iff.mpr hread] at hd
    cases hd
  | ok body =>
    constructor
    · intro h
      obtain ⟨body', hread, htype⟩ := h
      rw [decoded_eq_ok_iff.mpr hread] at hd
      cases hd
      exact htype
    · exact fun htype => ⟨body, decoded_eq_ok_iff.mp hd, htype⟩

instance : DecidablePred NotReady := fun answer => decidable_of_iff _ (notReady_iff answer).symm

/-- **What an answer comes to that decides a result**: an error, or the result that is ready, with
    no job id if there was none, the text of one that is text, and the JSON of any other. -/
inductive Settles (endpoint : String) (answer : Transport.Answer) :
    Except RemoteError OperationResult → Prop where
  | unusable {error : RemoteError} (h : Unusable endpoint ResultBody.ofDoc? answer error) :
    Settles endpoint answer (.error error)
  | noType {body : ResultBody} (h : Readable ResultBody.ofDoc? answer body)
      (htype : body.resultType = none) :
    Settles endpoint answer (.error (.missingField endpoint "resultType"))
  | noResults {body : ResultBody} {type : String} (h : Readable ResultBody.ofDoc? answer body)
      (htype : body.resultType = some type) (hne : type ≠ "NOT_READY")
      (hresults : body.results = none) :
    Settles endpoint answer (.error (.missingField endpoint "results"))
  | ready {body : ResultBody} {type : String} {results : Json}
      (h : Readable ResultBody.ofDoc? answer body) (htype : body.resultType = some type)
      (hne : type ≠ "NOT_READY") (hresults : body.results = some results) :
    Settles endpoint answer (.ok
      { resultType := type
        results := results
        jobId := match body.jobId with
          | none => none
          | some (.string s) => some s
          | some value => some value.text })

/-- What a look at a result makes of the answer. -/
def pollOf (endpoint : String) (answer : Transport.Answer) : Except RemoteError Poll :=
  decoded endpoint ResultBody.ofDoc? answer >>= Poll.ofBody endpoint

theorem pollOf_of_readable {endpoint : String} {answer : Transport.Answer} {body : ResultBody}
    (h : Readable ResultBody.ofDoc? answer body) :
    pollOf endpoint answer = Poll.ofBody endpoint body := by
  rw [pollOf, decoded_eq_ok_iff.mpr h]
  rfl

theorem pollOf_of_notReady (endpoint : String) {answer : Transport.Answer} (h : NotReady answer) :
    pollOf endpoint answer = .ok .notReady := by
  obtain ⟨body, hread, htype⟩ := h
  rw [pollOf_of_readable hread, Poll.ofBody, htype]
  rfl

theorem pollOf_of_settles {endpoint : String} {answer : Transport.Answer}
    {result : Except RemoteError OperationResult} (h : Settles endpoint answer result) :
    pollOf endpoint answer = result.map Poll.ready := by
  have ready : ∀ {type : String}, type ≠ "NOT_READY" → ¬ type = notReadyType := fun h => h
  cases h with
  | unusable h =>
    rw [pollOf, decoded_eq_error_iff.mpr h]
    rfl
  | noType h htype =>
    rw [pollOf_of_readable h, Poll.ofBody, htype]
    rfl
  | noResults h htype hne hresults =>
    rw [pollOf_of_readable h, Poll.ofBody, htype, hresults]
    dsimp only
    rw [if_neg (ready hne)]
    rfl
  | @ready body _ _ h htype hne hresults =>
    rw [pollOf_of_readable h, Poll.ofBody, htype, hresults]
    dsimp only
    rw [if_neg (ready hne)]
    cases body.jobId with
    | none => rfl
    | some jobId => cases jobId <;> rfl

/-- An answer that does not leave the result open decides it. -/
theorem exists_settles (endpoint : String) {answer : Transport.Answer} (h : ¬ NotReady answer) :
    ∃ result, Settles endpoint answer result := by
  cases hd : decoded endpoint ResultBody.ofDoc? answer with
  | error error => exact ⟨_, .unusable (decoded_eq_error_iff.mp hd)⟩
  | ok body =>
    have hread := decoded_eq_ok_iff.mp hd
    cases htype : body.resultType with
    | none => exact ⟨_, .noType hread htype⟩
    | some type =>
      have hne : type ≠ "NOT_READY" := fun he => h ⟨body, hread, he ▸ htype⟩
      cases hresults : body.results with
      | none => exact ⟨_, .noResults hread htype hne hresults⟩
      | some results => exact ⟨_, .ready hread htype hne hresults⟩

end JobKeeper
