/-
  File:      JobKeeper/Sql/Literal.lean
  Subject:   Single-quoted string literals: writing one, and reading one off the front of a text.

  A quote inside a literal is written twice. `read_quote` says that reading gives back exactly the
  quoted text, whatever it holds, as long as what follows does not start with another quote.
-/
namespace JobKeeper.Sql

/-! ## 1. Writing -/

namespace Literal

/-- Every quote twice, every other character once. -/
def double : List Char → List Char
  | [] => []
  | c :: rest => if c = '\'' then '\'' :: '\'' :: double rest else c :: double rest

/-- A value as a literal. -/
def quote (value : String) : String :=
  String.ofList ('\'' :: (double value.toList ++ ['\'']))

/-! ## 2. Reading -/

/-- The text up to the quote that closes the literal, and what follows that quote. -/
def readBody : List Char → Option (List Char × List Char)
  | [] => none
  | '\'' :: '\'' :: rest => (readBody rest).map fun r => ('\'' :: r.1, r.2)
  | c :: rest =>
    if c = '\'' then some ([], rest) else (readBody rest).map fun r => (c :: r.1, r.2)

/-- Reads a literal off the front of a text: its value and what follows it. -/
def read : List Char → Option (String × List Char)
  | [] => none
  | c :: rest =>
    if c = '\'' then (readBody rest).map fun r => (String.ofList r.1, r.2) else none

theorem readBody_double (s rest : List Char) (h : rest.head? ≠ some '\'') :
    readBody (double s ++ '\'' :: rest) = some (s, rest) := by
  induction s with
  | nil =>
    cases rest with
    | nil => rfl
    | cons c r =>
      have hc : c ≠ '\'' := by simpa using h
      unfold readBody
      split
      · simp_all
      · rename_i heq
        simp only [double, List.nil_append, List.cons.injEq] at heq
        exact absurd heq.2.1 hc
      · rename_i heq
        simp only [double, List.nil_append, List.cons.injEq] at heq
        simp [← heq.1, heq.2]
  | cons c r ih =>
    by_cases hc : c = '\''
    · subst hc
      simp [double, readBody, ih]
    · simp only [double, if_neg hc, List.cons_append]
      unfold readBody
      split
      · simp_all
      · rename_i heq
        simp only [List.cons.injEq] at heq
        exact absurd heq.1 hc
      · rename_i heq
        simp only [List.cons.injEq] at heq
        simp [← heq.1, ← heq.2, hc, ih]

theorem toList_quote (value : String) :
    (quote value).toList = '\'' :: (double value.toList ++ ['\'']) := by
  simp [quote]

/-- A written literal reads back as its value, and what follows is left as it is. -/
theorem read_quote (value : String) (rest : List Char) (h : rest.head? ≠ some '\'') :
    read ((quote value).toList ++ rest) = some (value, rest) := by
  simp [toList_quote, read, readBody_double _ _ h]

end Literal

end JobKeeper.Sql
