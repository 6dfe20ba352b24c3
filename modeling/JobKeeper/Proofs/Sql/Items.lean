/-
  File:      JobKeeper/Proofs/Sql/Items.lean
  Subject:   The items of a list that commas separate, read from its start by the rule of literals.

  A comma inside a literal separates nothing, and a doubled quote inside a literal is one quote. So
  the reader keeps track of whether it is inside a literal: each quote changes that, and a doubled
  one leaves the literal and enters it again with nothing in between.

  * `readItems_literal`, `readItems_bare`: a quoted value is one item, whatever it holds, and reads
    back as that value; a text without quotes and commas is one item as it stands.
-/
import JobKeeper.Sql.Literal
import Mathlib.Data.List.Basic

namespace JobKeeper.Sql

/-! ## 1. Cutting at a comma -/

/-- The text up to the first comma outside of literals, and what follows the comma if there is one.
    `quoted` says that the text begins inside a literal. -/
def cutComma (quoted : Bool) : List Char → List Char × Option (List Char)
  | [] => ([], none)
  | c :: rest =>
    if c = ',' ∧ quoted = false then ([], some rest)
    else
      let (item, after) := cutComma (quoted != (c == '\'')) rest
      (c :: item, after)

theorem cutComma_quote (quoted : Bool) (rest : List Char) :
    cutComma quoted ('\'' :: rest) =
      ('\'' :: (cutComma (!quoted) rest).1, (cutComma (!quoted) rest).2) := by
  cases quoted <;> rfl

/-- Inside a literal any character but a quote is read over. -/
theorem cutComma_inside {c : Char} (hc : c ≠ '\'') (rest : List Char) :
    cutComma true (c :: rest) = (c :: (cutComma true rest).1, (cutComma true rest).2) := by
  have hb : (c == '\'') = false := beq_eq_false_iff_ne.mpr hc
  simp [cutComma, hb]

/-- Outside of literals any character but a quote and a comma is. -/
theorem cutComma_outside {c : Char} (hc : c ≠ '\'') (hc' : c ≠ ',') (rest : List Char) :
    cutComma false (c :: rest) = (c :: (cutComma false rest).1, (cutComma false rest).2) := by
  have hb : (c == '\'') = false := beq_eq_false_iff_ne.mpr hc
  simp [cutComma, hb, hc']

/-- The inside of a literal is read over up to the quote that closes it. -/
theorem cutComma_double (value rest : List Char) :
    cutComma true (Literal.double value ++ '\'' :: ',' :: rest) =
      (Literal.double value ++ ['\''], some rest) := by
  induction value with
  | nil => rfl
  | cons c value ih =>
    by_cases hc : c = '\''
    · subst hc
      simp only [Literal.double, if_true, List.cons_append, cutComma_quote, Bool.not_true,
        Bool.not_false, ih]
    · simp only [Literal.double, if_neg hc, List.cons_append, cutComma_inside hc, ih]

/-- A quoted value is one item. -/
theorem cutComma_literal (value : String) (rest : List Char) :
    cutComma false ((Literal.quote value).toList ++ ',' :: rest) =
      ((Literal.quote value).toList, some rest) := by
  rw [Literal.toList_quote, List.cons_append, cutComma_quote, Bool.not_false, List.append_assoc,
    List.singleton_append, cutComma_double]

/-- A text without quotes and commas is one item. -/
theorem cutComma_bare {cs : List Char} (hcs : ∀ c ∈ cs, c ≠ '\'' ∧ c ≠ ',') (rest : List Char) :
    cutComma false (cs ++ ',' :: rest) = (cs, some rest) := by
  induction cs with
  | nil => rfl
  | cons c cs ih =>
    obtain ⟨hc, hrest⟩ := List.forall_mem_cons.mp hcs
    rw [List.cons_append, cutComma_outside hc.1 hc.2, ih hrest]

/-! ## 2. Items -/

/-- An item of a list: the value of a literal, or a text of any other form. -/
inductive Item where
  | literal (value : String)
  | bare (text : String)
  deriving DecidableEq, Repr

/-- What the text of an item is: the value of a literal if it is one literal and nothing else. -/
def Item.ofText (cs : List Char) : Item :=
  match Literal.read cs with
  | some (value, []) => .literal value
  | _ => .bare (String.ofList cs)

theorem Item.ofText_literal (value : String) :
    Item.ofText (Literal.quote value).toList = .literal value := by
  have h := Literal.read_quote value [] (by simp)
  rw [List.append_nil] at h
  simp only [Item.ofText, h]

theorem Item.ofText_bare {s : String} (hs : ∀ c ∈ s.toList, c ≠ '\'') :
    Item.ofText s.toList = .bare s := by
  have hread : Literal.read s.toList = none := by
    cases hl : s.toList with
    | nil => rfl
    | cons c cs =>
      have hc : c ≠ '\'' := hs c (by rw [hl]; exact List.mem_cons_self)
      simp only [Literal.read, if_neg hc]
  simp only [Item.ofText, hread, String.ofList_toList]

/-- The first so many items of a list, and what follows the comma after the last of them. -/
def readItems : Nat → List Char → Option (List Item × List Char)
  | 0, cs => some ([], cs)
  | n + 1, cs =>
    match cutComma false cs with
    | (_, none) => none
    | (item, some rest) => (readItems n rest).map fun r => (Item.ofText item :: r.1, r.2)

/-- **A quoted value is one item and reads back**, whatever quotes and commas it holds. -/
theorem readItems_literal {n : Nat} {rest after : List Char} {items : List Item}
    (h : readItems n rest = some (items, after)) (value : String) :
    readItems (n + 1) ((Literal.quote value).toList ++ ',' :: rest) =
      some (.literal value :: items, after) := by
  simp only [readItems, cutComma_literal, h, Option.map_some, Item.ofText_literal]

/-- A text without quotes and commas is one item as it stands. -/
theorem readItems_bare {n : Nat} {rest after : List Char} {items : List Item}
    (h : readItems n rest = some (items, after)) {s : String}
    (hs : ∀ c ∈ s.toList, c ≠ '\'' ∧ c ≠ ',') :
    readItems (n + 1) (s.toList ++ ',' :: rest) = some (.bare s :: items, after) := by
  simp only [readItems, cutComma_bare hs, h, Option.map_some,
    Item.ofText_bare fun c hc => (hs c hc).1]

/-- A comma between the quotes of a literal does not end its item. -/
example : readItems 2 "'a,''b''',c,d".toList = some ([.literal "a,'b'", .bare "c"], ['d']) := by
  decide +kernel

/-! ## 3. Whole numbers -/

/-- The text of a whole number has neither quotes nor commas. -/
theorem bare_toString_int (n : Int) : ∀ c ∈ (toString n).toList, c ≠ '\'' ∧ c ≠ ',' := by
  have digits : ∀ (m : Nat), ∀ c ∈ m.repr.toList, c ≠ '\'' ∧ c ≠ ',' := by
    intro m c hc
    rw [Nat.toList_repr] at hc
    have hd := Nat.isDigit_of_mem_toDigits (by decide) (by decide) hc
    constructor <;> rintro rfl <;> exact absurd hd (by decide)
  cases n with
  | ofNat m => exact digits m
  | negSucc m =>
    intro c hc
    rw [show toString (Int.negSucc m) = "-" ++ m.succ.repr from rfl, String.toList_append] at hc
    rcases List.mem_append.mp hc with hc | hc
    · obtain rfl : c = '-' := by simpa using hc
      decide
    · exact digits m.succ c hc

end JobKeeper.Sql
