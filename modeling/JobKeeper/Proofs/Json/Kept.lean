/-
  File:      JobKeeper/Proofs/Json/Kept.lean
  Subject:   Which values are kept of documents.

  A kept value is canonical: its objects have their keys in order, its whole numbers have 64 bits,
  and it is not nested deeper than there was room for.

  * `Json.Kept`: canonical values;
  * `Doc.kept_of_keep`: every value that is kept is canonical.
-/
import JobKeeper.Proofs.Json.Records

namespace JobKeeper

open Json (Doc Record Binary64)

/-! ## 1. Canonical values -/

/-- A whole number of 64 bits, with a sign or without, or any double. -/
def Json.Number.InRange : Json.Number → Prop
  | .integer n => -0x8000000000000000 ≤ n ∧ n < 0x10000000000000000
  | .double _ => True

namespace Json

mutual

/-- **A canonical value that is nested so deep at most.** -/
def Kept (room : Nat) : Json → Prop
  | .null | .bool _ | .string _ => True
  | .number n => n.InRange
  | .array items => match room with
    | 0 => False
    | room + 1 => KeptItems room items
  | .object fields => match room with
    | 0 => False
    | room + 1 => Dict.Ascending fields ∧ KeptFields room fields

/-- Canonical values, one after another. -/
def KeptItems (room : Nat) : List Json → Prop
  | [] => True
  | item :: rest => Kept room item ∧ KeptItems room rest

/-- Fields with canonical values. -/
def KeptFields (room : Nat) : List (String × Json) → Prop
  | [] => True
  | (_, value) :: rest => Kept room value ∧ KeptFields room rest

end

theorem keptFields_iff (room : Nat) (fields : List (String × Json)) :
    KeptFields room fields ↔ ∀ e ∈ fields, Kept room e.2 := by
  induction fields with
  | nil => exact ⟨fun _ e he => absurd he List.not_mem_nil, fun _ => trivial⟩
  | cons e fields ih =>
    rw [List.forall_mem_cons, ← ih]
    exact Iff.rfl

/-! ## 2. What is kept is canonical -/

theorem Numeral.inRange_of_toNumber? {n : Numeral} {m : Number} (h : n.toNumber? = some m) :
    m.InRange := by
  unfold toNumber? at h
  dsimp only at h
  split at h
  next hwhole =>
    cases h
    exact ⟨by omega, by omega⟩
  next =>
    split at h
    next hnegative =>
      cases h
      exact ⟨by omega, by omega⟩
    next =>
      obtain ⟨d, _, rfl⟩ := Option.map_eq_some_iff.mp h
      trivial

mutual

/-- **What is kept of a document is canonical.** -/
theorem Doc.kept_of_keep {room : Nat} :
    ∀ (doc : Doc) {v : Json}, doc.keep room = some v → Kept room v
  | .null, _, h => by
    cases h
    trivial
  | .bool _, _, h => by
    cases h
    trivial
  | .number n, _, h => by
    obtain ⟨m, hm, rfl⟩ := Option.map_eq_some_iff.mp h
    exact Numeral.inRange_of_toNumber? hm
  | .string s, _, h => by
    obtain ⟨_, _, rfl⟩ := Option.map_eq_some_iff.mp h
    trivial
  | .array items, _, h => by
    cases room with
    | zero => cases h
    | succ room =>
      obtain ⟨values, hvalues, rfl⟩ := Option.map_eq_some_iff.mp h
      exact Doc.keptItems_of_keepItems items hvalues
  | .object fields, _, h => by
    cases room with
    | zero => cases h
    | succ room =>
      obtain ⟨values, hvalues, rfl⟩ := Option.map_eq_some_iff.mp h
      have hkept := (keptFields_iff room values).mp (Doc.keptFields_of_keepFields fields hvalues)
      refine ⟨(Dict.ofList values).ascending, (keptFields_iff room _).mpr fun e he => ?_⟩
      obtain ⟨before, after, hentries, _⟩ := (Dict.mem_entries_ofList_iff values e.1 e.2).mp he
      exact hkept e (hentries ▸ List.mem_append_right _ List.mem_cons_self)

theorem Doc.keptItems_of_keepItems {room : Nat} :
    ∀ (items : List Doc) {values : List Json}, Doc.keepItems room items = some values →
      KeptItems room values
  | [], _, h => by
    cases h
    trivial
  | item :: rest, _, h => by
    obtain ⟨value, hvalue, h⟩ := Option.bind_eq_some_iff.mp h
    obtain ⟨values, hvalues, h⟩ := Option.bind_eq_some_iff.mp h
    cases h
    exact ⟨Doc.kept_of_keep item hvalue, Doc.keptItems_of_keepItems rest hvalues⟩

theorem Doc.keptFields_of_keepFields {room : Nat} :
    ∀ (fields : List (Option String × Doc)) {values : List (String × Json)},
      Doc.keepFields room fields = some values → KeptFields room values
  | [], _, h => by
    cases h
    trivial
  | (key, doc) :: rest, _, h => by
    obtain ⟨_, _, h⟩ := Option.bind_eq_some_iff.mp h
    obtain ⟨value, hvalue, h⟩ := Option.bind_eq_some_iff.mp h
    obtain ⟨values, hvalues, h⟩ := Option.bind_eq_some_iff.mp h
    cases h
    exact ⟨Doc.kept_of_keep doc hvalue, Doc.keptFields_of_keepFields rest hvalues⟩

end

namespace Record

/-- What is read as a whole number has 64 bits with a sign. -/
theorem intOf?_range {doc : Doc} {n : Int} (h : intOf? doc = some n) :
    -0x8000000000000000 ≤ n ∧ n < 0x8000000000000000 := by
  cases doc with
  | number m =>
    unfold intOf? at h
    dsimp only at h
    split at h
    next i hi =>
      split at h
      next hsmall =>
        cases h
        exact ⟨(Numeral.inRange_of_toNumber? hi).1, hsmall⟩
      next => cases h
    next => cases h
  | _ => cases h

/-- The values of a map of anything are canonical. -/
theorem kept_of_dictOf? {room : Nat} {doc : Doc} {d : Dict Json}
    (h : dictOf? (Doc.keep room) doc = some d) : ∀ e ∈ d.entries, Kept room e.2 := by
  obtain ⟨fields, entries, _, hread, rfl⟩ := (dictOf?_eq_some_iff doc d).mp h
  intro e he
  obtain ⟨before, after, hentries, _⟩ := (Dict.mem_entries_ofList_iff entries e.1 e.2).mp he
  have hmem : e ∈ entries := hentries ▸ List.mem_append_right _ List.mem_cons_self
  obtain ⟨i, hi, rfl⟩ := List.mem_iff_getElem.mp hmem
  exact Doc.kept_of_keep _ (hread.get (hread.length_eq ▸ hi) hi).2

end Record

end Json

end JobKeeper
