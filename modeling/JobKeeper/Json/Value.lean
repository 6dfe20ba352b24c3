/-
  File:      JobKeeper/Json/Value.lean
  Subject:   JSON values that are kept, and the numerals they are read from and written as.

  A value is canonical: its objects are in key order without repeated keys, and its numbers are
  either whole numbers of 64 bits or finite doubles. A numeral is a number as it stands in a text.
-/
import JobKeeper.Dict
import JobKeeper.Json.Shortest

namespace JobKeeper.Json

/-! ## 1. Numerals -/

/-- Decimal digits, the most significant first. -/
abbrev Digits := List (Fin 10)

/-- A number as it stands in a text: `-12.50e+7`. -/
structure Numeral where
  negative : Bool := false
  whole : Digits
  fraction : Digits := []
  /-- The exponent: whether it is negative, and its digits. -/
  exponent : Option (Bool × Digits) := none
  deriving DecidableEq, Repr

/-- The number of a run of digits. -/
def Digits.toNat (ds : Digits) : Nat := ds.foldl (fun n d => 10 * n + d.val) 0

/-- Appends digits to a number while it fits 64 bits; the digits that no longer fit are returned. -/
def Digits.takeInto (n : Nat) : Digits → Nat × Digits
  | [] => (n, [])
  | d :: rest => if 10 * n + d.val < 0x10000000000000000 then takeInto (10 * n + d.val) rest else (n, d :: rest)

/-! ## 2. Numbers -/

/-- A number that is kept: a whole number from -2^63 to 2^64 - 1, or a finite double. -/
inductive Number where
  | integer (n : Int)
  | double (d : Binary64)
  deriving DecidableEq

namespace Numeral

/-- The double of a numeral. Up to 64 bits of digits are kept as a whole number; digits of the
    whole part beyond them count as powers of ten, digits of the fraction beyond them do not count.
    `none` if the result is too large. -/
def toDouble? (n : Numeral) : Option Binary64 :=
  let (sig, dropped) := Digits.takeInto 0 n.whole
  let (sig', dropped') := Digits.takeInto sig n.fraction
  let shift : Int := match n.exponent with
    | none => 0
    | some (negative, ds) => if negative then -(ds.toNat : Int) else ds.toNat
  let places : Int := dropped.length - (n.fraction.length - dropped'.length : Nat)
  (Binary64.scale sig' (places + shift)).bind (Binary64.ofCode? n.negative)

/-- The number of a numeral: a whole number if it is written as one and fits 64 bits, else a
    double. Minus zero is a double. -/
def toNumber? (n : Numeral) : Option Number :=
  let m := n.whole.toNat
  if n.fraction = [] ∧ n.exponent = none ∧ n.negative = false ∧ m < 0x10000000000000000 then
    some (.integer m)
  else if n.fraction = [] ∧ n.exponent = none ∧ n.negative = true ∧ 0 < m ∧ m ≤ 0x8000000000000000 then
    some (.integer (-m))
  else n.toDouble?.map .double

end Numeral

/-! ## 3. Numbers as numerals -/

/-- The last decimal digit of a number. -/
def lastDigit (n : Nat) : Fin 10 := ⟨n % 10, Nat.mod_lt n (by decide)⟩

/-- The decimal digits of a number, without leading zeros except for zero itself. -/
def Digits.ofNat (n : Nat) : Digits :=
  if n < 10 then [lastDigit n] else ofNat (n / 10) ++ [lastDigit n]

/-- So many zeros. -/
def Digits.zeros (n : Nat) : Digits := List.replicate n 0

/-- A whole number as a numeral. -/
def Numeral.ofInt (n : Int) : Numeral := { negative := n < 0, whole := Digits.ofNat n.natAbs }

/-- A double as a numeral: positional from 1e-5 up to below 1e16, always with a fraction; else with
    one digit before the point and a signed exponent. -/
def Numeral.ofDouble (d : Binary64) : Numeral :=
  let short := d.shortest
  let ds := Digits.ofNat short.digits
  let point : Int := ds.length + short.power
  if short.digits = 0 then { negative := d.negative, whole := [0], fraction := [0] }
  else if 0 ≤ short.power ∧ point ≤ 16 then
    { negative := d.negative, whole := ds ++ Digits.zeros short.power.toNat, fraction := [0] }
  else if 0 < point ∧ point ≤ 16 then
    { negative := d.negative, whole := ds.take point.toNat, fraction := ds.drop point.toNat }
  else if -5 < point ∧ point ≤ 0 then
    { negative := d.negative, whole := [0], fraction := Digits.zeros (-point).toNat ++ ds }
  else
    { negative := d.negative, whole := ds.take 1, fraction := ds.drop 1,
      exponent := some (point - 1 < 0, Digits.ofNat (point - 1).natAbs) }

def Numeral.ofNumber : Number → Numeral
  | .integer n => .ofInt n
  | .double d => .ofDouble d

end JobKeeper.Json

/-! ## 4. Values -/

namespace JobKeeper

/-- A JSON value that is kept. The fields of an object stand in ascending order of their keys. -/
inductive Json where
  | null
  | bool (b : Bool)
  | number (n : Json.Number)
  | string (s : String)
  | array (items : List Json)
  | object (fields : List (String × Json))

namespace Json

instance : Inhabited Json := ⟨.null⟩

/-- An object with the fields of a map. -/
def ofDict (d : Dict Json) : Json := .object d.entries

/-- An object with these fields; the last of several with one key counts. -/
def fields (l : List (String × Json)) : Json := ofDict (Dict.ofList l)

/-- A whole number as a value. -/
def int (n : Int) : Json := .number (.integer n)

/-- The value at a key of an object; nothing else has keys. -/
def get? (key : String) : Json → Option Json
  | .object fields => Dict.look key fields
  | _ => none

end Json

end JobKeeper
