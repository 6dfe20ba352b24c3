/-
  File:      JobKeeper/Json/Binary64.lean
  Subject:   Finite double-precision numbers, exactly: rounding of fractions, products, quotients.

  A number is a sign and a code, the exponent and fraction bits read as one natural number. The
  code is ordered like the magnitude, so the next number up has the next code. Every result is
  rounded to the nearest number, a tie to the even code.
-/
namespace JobKeeper.Json

/-- A finite double-precision number: its sign, and its exponent and fraction bits. -/
structure Binary64 where
  negative : Bool
  code : Nat
  finite : code < 0x7FF0000000000000
  deriving DecidableEq

namespace Binary64

/-! ## 1. Codes -/

/-- The least code that stands for no finite number. -/
def infinite : Nat := 0x7FF0000000000000

/-- The bit above the fraction bits; it counts but is not kept. -/
def hidden : Nat := 0x10000000000000

/-- The magnitude of a code is `significand * 2 ^ exponent`. -/
def significand (code : Nat) : Nat :=
  if code < hidden then code else code % hidden + hidden

/-- See `significand`. -/
def exponent (code : Nat) : Int :=
  if code < hidden then -1074 else (code / hidden : Nat) - 1075

/-- `base ^ n`, and one for `n` below zero. -/
def power (base : Nat) (n : Int) : Nat := Nat.pow base n.toNat

/-- A fraction rounded to the nearest whole number, a half to the even one. -/
def roundHalfEven (num den : Nat) : Nat :=
  let q := num / den
  let r := num % den
  if 2 * r > den ∨ (2 * r = den ∧ q % 2 = 1) then q + 1 else q

/-- The code of the number nearest to a fraction; `infinite` if the fraction is too large. -/
def codeOfFraction (num den : Nat) : Nat :=
  if num = 0 then 0
  else
    let guess : Int := max ((Nat.log2 num : Int) - Nat.log2 den - 53) (-1074)
    let scaled := fun (e : Int) => (num * power 2 (-e), den * power 2 e)
    let e := if (scaled guess).1 / (scaled guess).2 < 2 * hidden then guess else guess + 1
    let m := roundHalfEven (scaled e).1 (scaled e).2
    min ((e + 1074).toNat * hidden + m) infinite

/-- The code of a product of two magnitudes. -/
def mulCode (a b : Nat) : Nat :=
  let e := exponent a + exponent b
  codeOfFraction (significand a * significand b * power 2 e) (power 2 (-e))

/-- The code of a quotient of two magnitudes. -/
def divCode (a b : Nat) : Nat :=
  let e := exponent a - exponent b
  codeOfFraction (significand a * power 2 e) (significand b * power 2 (-e))

/-- The code of the number nearest to a whole number. -/
def codeOfNat (n : Nat) : Nat := codeOfFraction n 1

/-! ## 2. Numbers -/

/-- The number of a sign and a code, if the code is one of a finite number. -/
def ofCode? (negative : Bool) (code : Nat) : Option Binary64 :=
  if h : code < infinite then some ⟨negative, code, h⟩ else none

/-- Zero, without a sign. -/
def zero : Binary64 := ⟨false, 0, by decide⟩

instance : Inhabited Binary64 := ⟨zero⟩

/-- The number nearest to a whole number, if it is not too large. -/
def ofInt? (n : Int) : Option Binary64 := ofCode? (n < 0) (codeOfNat n.natAbs)

/-- All 64 bits, the sign as the highest. -/
def bits (d : Binary64) : Nat := (if d.negative then 0x8000000000000000 else 0) + d.code

/-! ## 3. Scaling by powers of ten -/

/-- `sig` divided by `10 ^ k`: steps of `10 ^ 308`, then one step for the rest, each rounded. -/
def scaleDown (code : Nat) (k : Nat) : Nat :=
  if h : k ≤ 308 then divCode code (codeOfNat (Nat.pow 10 k))
  else if code = 0 then 0
  else scaleDown (divCode code (codeOfNat (Nat.pow 10 308))) (k - 308)
termination_by k
decreasing_by omega

/-- The code of a whole number of at most 64 bits times a power of ten: the whole number is
    rounded first, then the product or quotient. `none` if the result is too large. -/
def scale (sig : Nat) (k : Int) : Option Nat :=
  let code :=
    if k < 0 then scaleDown (codeOfNat sig) k.natAbs
    else if sig = 0 then 0
    else if 308 < k then infinite
    else mulCode (codeOfNat sig) (codeOfNat (Nat.pow 10 k.natAbs))
  if code < infinite then some code else none

end Binary64

end JobKeeper.Json
