/-
  File:      JobKeeper/Text/Table.lean
  Subject:   Tables of characters, as they are written down: which characters are in a class, and
             what belongs to each.

  A table is a text of entries with blanks between them, in ascending order. An entry is the number
  of a character, or the first and the last number of a run with a hyphen between them; after an
  equals sign follow the numbers that belong to it, with points between them. Numbers are in base
  sixteen.
-/
import JobKeeper.Text.Hexadecimal

namespace JobKeeper.Text

/-! ## 1. Entries -/

/-- A run of characters, and the numbers that belong to them. -/
structure Span where
  first : Nat
  last : Nat
  values : List Nat
  deriving Repr

namespace Span

/-- The numbers between separators. -/
def numbers (separator : Char) (cs : List Char) : List Nat :=
  (cs.splitOn separator).map (·.foldl (fun n c => n * 16 + (hexValue? c).getD 0) 0)

/-- The entry of a word, unless it is empty. -/
def ofWord? (word : List Char) : Option Span :=
  let values := match word.dropWhile (· ≠ '=') with
    | [] => []
    | _ :: values => numbers '.' values
  match word.takeWhile (· ≠ '=') with
  | [] => none
  | run =>
    match numbers '-' run with
    | [first, last] => some ⟨first, last, values⟩
    | first :: _ => some ⟨first, first, values⟩
    | [] => none

end Span

/-! ## 2. Tables -/

/-- Runs of characters in ascending order, no two of which overlap. -/
structure Table where
  spans : Array Span

namespace Table

/-- The table that a text writes down. -/
def ofText (text : String) : Table :=
  ⟨((text.toList.splitOnP fun c => c = ' ' || c = '\n').filterMap Span.ofWord?).toArray⟩

/-- The entry of a character. Of two runs the one that ends first comes first, and a character is a
    run of its own. -/
def find? (t : Table) (c : Char) : Option Span :=
  t.spans.binSearch ⟨c.toNat, c.toNat, []⟩ fun a b => a.last < b.first

/-- Whether a character has an entry. -/
def contains (t : Table) (c : Char) : Bool := (t.find? c).isSome

end Table

end JobKeeper.Text
