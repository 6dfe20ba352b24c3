/-
  File:      JobKeeper/Json/Shortest.lean
  Subject:   The fewest decimal digits that read back as a given double-precision number.

  The reals that round to a number form an interval around it, with its ends if the code is even.
  Of the decimal grids with 1, 2, … 17 digits the first that has a point in the interval wins; of
  the number's two neighbours on that grid the nearer one is taken, a tie to the even digit.
-/
import JobKeeper.Json.Binary64

namespace JobKeeper.Json

/-! ## 1. Decimals -/

/-- The magnitude `digits * 10 ^ power`. -/
structure Decimal where
  digits : Nat
  power : Int
  deriving DecidableEq, Repr

namespace Decimal

/-- The same magnitude without zeros at the end of its digits. -/
def stripped (d : Decimal) : Decimal :=
  if h : d.digits ≠ 0 ∧ d.digits % 10 = 0 then stripped ⟨d.digits / 10, d.power + 1⟩ else d
termination_by d.digits
decreasing_by omega

end Decimal

/-! ## 2. The interval of a number -/

namespace Shortest

/-- The magnitude of a code in quarters of its last place. -/
def quarters (code : Nat) : Nat := 4 * Binary64.significand code

/-- How far below the number the interval ends, in quarters: half a place, or half of the smaller
    place below where the places change size. -/
def below (code : Nat) : Nat :=
  if code % Binary64.hidden = 0 ∧ 2 * Binary64.hidden ≤ code then 1 else 2

/-- Whether `c * 10 ^ k` rounds to the number of the code. Both sides are compared as whole
    numbers of quarters times the same factor. -/
def readsBack (code c num den : Nat) : Bool :=
  let low := (quarters code - below code) * den
  let high := (quarters code + 2) * den
  let here := c * num
  if code % 2 = 0 then low ≤ here && here ≤ high else low < here && here < high

/-- The point of the grid `10 ^ k` that is nearest to the number, if it reads back. -/
def onGrid? (code : Nat) (k : Int) : Option Decimal :=
  let e := Binary64.exponent code - 2
  let num := Binary64.power 10 k * Binary64.power 2 (-e)
  let den := Binary64.power 10 (-k) * Binary64.power 2 e
  let here := quarters code * den
  let c := here / num
  let nearLow := 2 * (here % num) < num ∨ (2 * (here % num) = num ∧ c % 2 = 0)
  let near := if nearLow then c else c + 1
  let far := if nearLow then c + 1 else c
  if readsBack code near num den then some ⟨near, k⟩
  else if readsBack code far num den then some ⟨far, k⟩
  else none

/-- The greatest `p` with `10 ^ p` at most the number. -/
def leadingPower (code : Nat) : Int :=
  let m := Binary64.significand code
  let e := Binary64.exponent code
  let guess := Int.fdiv (((Nat.log2 m : Int) + e) * 30103) 100000
  let atLeast := fun (p : Int) =>
    Binary64.power 10 p * Binary64.power 2 (-e) ≤ m * Binary64.power 2 e * Binary64.power 10 (-p)
  if atLeast (guess + 1) then guess + 1 else if atLeast guess then guess else guess - 1

/-- Tries grids with ever more digits. -/
def search (code : Nat) (top : Int) : Nat → Nat → Decimal
  | 0, _ => ⟨0, 0⟩
  | more + 1, digits =>
    match onGrid? code (top + 1 - digits) with
    | some d => d.stripped
    | none => search code top more (digits + 1)

end Shortest

/-- The shortest decimal that reads back as the number of a code. Seventeen digits always do. -/
def Binary64.shortest (d : Binary64) : Decimal :=
  if d.code = 0 then ⟨0, 0⟩ else Shortest.search d.code (Shortest.leadingPower d.code) 17 1

end JobKeeper.Json
