/-
  File:      JobKeeper/Text/Blank.lean
  Subject:   Blank text: the White_Space class, trimming, and the test that a required text passes.

  A text is blank when it holds White_Space only. `isBlank_iff_trim` says that this is the same as
  being empty after trimming, so either reading of the rule may be used.
-/
namespace JobKeeper.Text

/-! ## 1. The class -/

/-- The characters of the Unicode property White_Space. -/
def isSpace (c : Char) : Bool :=
  let n := c.toNat
  (9 ≤ n && n ≤ 13) || n == 0x20 || n == 0x85 || n == 0xA0 || n == 0x1680
    || (0x2000 ≤ n && n ≤ 0x200A) || n == 0x2028 || n == 0x2029 || n == 0x202F
    || n == 0x205F || n == 0x3000

/-- The class holds every blank of the ASCII range that the core library knows. -/
theorem isSpace_of_isWhitespace {c : Char} (h : c.isWhitespace = true) : isSpace c = true := by
  simp only [Char.isWhitespace, Bool.or_eq_true, decide_eq_true_eq] at h
  rcases h with ((rfl | rfl) | rfl) | rfl <;> decide

/-! ## 2. Blank text and trimming -/

/-- A text with nothing but White_Space in it; the empty text is one. -/
def isBlank (s : String) : Bool := s.toList.all isSpace

/-- The text without the White_Space at its start. -/
def trimStart (s : String) : String := String.ofList (s.toList.dropWhile isSpace)

/-- The text without the White_Space at its end. -/
def trimEnd (s : String) : String :=
  String.ofList (s.toList.reverse.dropWhile isSpace).reverse

/-- The text without the White_Space at its two ends. -/
def trim (s : String) : String := trimEnd (trimStart s)

theorem isBlank_empty : isBlank "" = true := rfl

/-- A text is blank exactly if its two parts are. -/
theorem isBlank_append (s t : String) : isBlank (s ++ t) = (isBlank s && isBlank t) := by
  simp [isBlank, String.toList_append, List.all_append]

/-- A text is blank exactly if nothing is left of it after trimming. -/
theorem isBlank_iff_trim (s : String) : isBlank s = true ↔ trim s = "" := by
  have key : ∀ l : List Char, l.all isSpace = true ↔ l.dropWhile isSpace = [] := by
    intro l
    induction l with
    | nil => simp
    | cons c r ih => by_cases h : isSpace c = true <;> simp [h, ih]
  have empty : ∀ l : List Char, String.ofList l = "" ↔ l = [] := by
    intro l
    constructor
    · intro h
      have := congrArg String.toList h
      simpa using this
    · rintro rfl
      rfl
  simp only [isBlank, trim, trimEnd, trimStart, String.toList_ofList, empty,
    List.reverse_eq_nil_iff, ← key, List.all_reverse]
  rw [key]
  constructor
  · intro h
    simp [h]
  · intro h
    cases hd : s.toList.dropWhile isSpace with
    | nil => rfl
    | cons c r =>
      have hc : isSpace c = true := by
        rw [hd] at h
        simpa using (List.all_eq_true.mp h) c (by simp)
      have := List.head?_dropWhile_not isSpace s.toList
      rw [hd] at this
      simp [hc] at this

end JobKeeper.Text
