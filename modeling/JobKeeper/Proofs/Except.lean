/-
  File:      JobKeeper/Proofs/Except.lean
  Subject:   When a result made of several results succeeds, and what is wrong with it otherwise.

  * `bind_eq_ok_iff`, `mapM_eq_ok_iff`: it succeeds exactly if each of the several does;
  * `errorOf?_bind`, `errorOf?_mapM`: otherwise it has the error of the first that does not.
-/
import Mathlib.Data.List.Forall2

namespace JobKeeper

variable {ε α β : Type}

/-! ## 1. Success -/

/-- One step after another succeeds exactly if both do. -/
theorem bind_eq_ok_iff {x : Except ε α} {f : α → Except ε β} {b : β} :
    (x >>= f) = .ok b ↔ ∃ a, x = .ok a ∧ f a = .ok b := by
  cases x with
  | error e => exact ⟨fun h => (nomatch h), fun ⟨_, h, _⟩ => (nomatch h)⟩
  | ok a =>
    constructor
    · exact fun h => ⟨a, rfl, h⟩
    · rintro ⟨_, ⟨⟩, h⟩
      exact h

theorem exists_ok_of_isOk {x : Except ε α} (h : x.isOk = true) : ∃ a, x = .ok a := by
  cases x with
  | error e => cases h
  | ok a => exact ⟨a, rfl⟩

/-- A whole list succeeds exactly if each of its items does, with the results in order. -/
theorem mapM_eq_ok_iff {f : α → Except ε β} {as : List α} {bs : List β} :
    as.mapM f = .ok bs ↔ List.Forall₂ (fun a b => f a = .ok b) as bs := by
  induction as generalizing bs with
  | nil =>
    rw [List.mapM_nil, List.forall₂_nil_left_iff]
    exact ⟨fun h => by cases h; rfl, fun h => h ▸ rfl⟩
  | cons a as ih =>
    rw [List.mapM_cons, bind_eq_ok_iff, List.forall₂_cons_left_iff]
    constructor
    · rintro ⟨b, hb, hrest⟩
      obtain ⟨bs', hbs', hbs⟩ := bind_eq_ok_iff.mp hrest
      cases hbs
      exact ⟨b, bs', hb, ih.mp hbs', rfl⟩
    · rintro ⟨b, bs', hb, hbs', rfl⟩
      exact ⟨b, hb, bind_eq_ok_iff.mpr ⟨bs', ih.mpr hbs', rfl⟩⟩

/-! ## 2. Failure -/

/-- The error of a result, if it is one. -/
def errorOf? : Except ε α → Option ε
  | .ok _ => none
  | .error e => some e

@[simp] theorem errorOf?_ok (a : α) : errorOf? (.ok a : Except ε α) = none := rfl

@[simp] theorem errorOf?_error (e : ε) : errorOf? (.error e : Except ε α) = some e := rfl

theorem errorOf?_eq_some_iff {x : Except ε α} {e : ε} : errorOf? x = some e ↔ x = .error e := by
  cases x <;> simp

theorem errorOf?_eq_none_iff {x : Except ε α} : errorOf? x = none ↔ ∃ a, x = .ok a := by
  cases x <;> simp

/-- One step after another fails with the error of the first, or else with that of the second. -/
theorem errorOf?_bind_ok {x : Except ε α} {a : α} (h : x = .ok a) (f : α → Except ε β) :
    errorOf? (x >>= f) = errorOf? (f a) := by
  rw [h]
  rfl

theorem errorOf?_bind_error {x : Except ε α} {e : ε} (h : x = .error e) (f : α → Except ε β) :
    errorOf? (x >>= f) = some e := by
  rw [h]
  rfl

/-- What is made of a result without a further test has its error. -/
@[simp] theorem errorOf?_bind_pure (x : Except ε α) (f : α → β) :
    errorOf? (x >>= fun a => pure (f a)) = errorOf? x := by
  cases x <;> rfl

/-- **A list fails with the error of its first item that does.** -/
theorem errorOf?_mapM (f : α → Except ε β) (as : List α) :
    errorOf? (as.mapM f) = as.findSome? fun a => errorOf? (f a) := by
  induction as with
  | nil => rfl
  | cons a as ih =>
    rw [List.mapM_cons, List.findSome?_cons]
    cases ha : f a with
    | error e => rfl
    | ok b =>
      rw [errorOf?_bind_ok rfl, errorOf?_bind_pure, ih]
      rfl

end JobKeeper
