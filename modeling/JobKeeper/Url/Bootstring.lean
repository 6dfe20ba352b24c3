/-
  File:      JobKeeper/Url/Bootstring.lean
  Subject:   Labels written with the letters and digits of ASCII alone: first the ASCII characters
             of the label, then for each other one, in ascending order, how far on it stands.
-/
namespace JobKeeper.Url.Bootstring

/-! ## 1. Writing -/

/-- A digit from `a` to `z`, then `0` to `9`. -/
def digit (n : Nat) : Char := if n < 26 then Char.ofNat (97 + n) else Char.ofNat (22 + n)

/-- The bias after a step of size `delta`, of which there are `points` so far. -/
def adapt (delta points : Nat) (first : Bool) : Nat :=
  let delta := if first then delta / 700 else delta / 2
  let rec shrink : Nat → Nat → Nat → Nat × Nat
    | 0, delta, k => (delta, k)
    | fuel + 1, delta, k => if 455 < delta then shrink fuel (delta / 35) (k + 36) else (delta, k)
  let (delta, k) := shrink delta (delta + delta / points) 0
  k + 36 * delta / (delta + 38)

/-- A number as digits whose weights depend on the bias. `fuel` is any number not below it. -/
def number (fuel q k bias : Nat) : List Char :=
  let t := if k ≤ bias then 1 else if bias + 26 ≤ k then 26 else k - bias
  match fuel with
  | 0 => [digit q]
  | fuel + 1 =>
    if q < t then [digit q]
    else digit (t + (q - t) % (36 - t)) :: number fuel ((q - t) / (36 - t)) (k + 36) bias

/-- Where the encoding of a label stands. -/
structure Progress where
  written : List Char
  delta : Nat
  bias : Nat
  points : Nat

/-- Goes through the label for the code point `n`: smaller ones are passed, equal ones written. -/
def pass (n basic : Nat) (p : Progress) : List Nat → Progress
  | [] => p
  | c :: rest =>
    if c < n then pass n basic { p with delta := p.delta + 1 } rest
    else if c = n then
      pass n basic
        { written := p.written ++ number p.delta p.delta 36 p.bias
          bias := adapt p.delta (p.points + 1) (p.points = basic)
          delta := 0
          points := p.points + 1 } rest
    else pass n basic p rest

/-- Goes on with the next larger code points, `fuel` of them at most. -/
def passes (label : List Nat) (basic : Nat) : Nat → Nat → Progress → List Char
  | 0, _, p => p.written
  | fuel + 1, n, p =>
    match (label.filter (n ≤ ·)).min? with
    | none => p.written
    | some m =>
      let p := { p with delta := p.delta + (m - n) * (p.points + 1) }
      let p := pass m basic p label
      passes label basic fuel (m + 1) { p with delta := p.delta + 1 }

/-- A label with characters outside of ASCII. -/
def encode (label : List Char) : List Char :=
  let ascii := label.filter (·.toNat < 128)
  let basic := ascii.length
  passes (label.map Char.toNat) basic label.length 128
    ⟨if basic = 0 then [] else ascii ++ ['-'], 0, 72, basic⟩

/-! ## 2. Reading -/

/-- What a digit stands for. -/
def digitValue? (c : Char) : Option Nat :=
  if 'a' ≤ c && c ≤ 'z' then some (c.toNat - 97)
  else if '0' ≤ c && c ≤ '9' then some (c.toNat - 22)
  else none

/-- Reads a number added to `i`, from its digit of the weight `weight` on, and what follows it. No
    label needs a number of more than 32 bits. -/
def readNumber (bias : Nat) : Nat → Nat → Nat → List Char → Option (Nat × List Char)
  | _, _, _, [] => none
  | i, weight, k, c :: rest => do
    let d ← digitValue? c
    let t := if k ≤ bias then 1 else if bias + 26 ≤ k then 26 else k - bias
    let i := i + d * weight
    if 0x100000000 ≤ i then none
    else if d < t then some (i, rest)
    else if 0x100000000 ≤ weight * (36 - t) then none
    else readNumber bias i (weight * (36 - t)) (k + 36) rest

/-- Inserts the characters of the numbers to come into `label`, `fuel` of them at most. `n` is the
    code point reached, and `i` the place. -/
def insertAll (fuel n i bias : Nat) (label digits : List Char) : Option (List Char) :=
  match fuel, digits with
  | _, [] => some label
  | 0, _ => none
  | fuel + 1, digits => do
    let (i', rest) ← readNumber bias i 1 36 digits
    let size := label.length + 1
    let n := n + i' / size
    if 0x10FFFF < n || (0xD800 ≤ n && n ≤ 0xDFFF) then none
    let place := i' % size
    insertAll fuel n (place + 1) (adapt (i' - i) size (i = 0))
      (label.take place ++ Char.ofNat n :: label.drop place) rest

/-- The label that an encoded one stands for. The hyphen before the digits is there only if
    there are ASCII characters before it. -/
def decode? (encoded : List Char) : Option (List Char) :=
  let digits := (encoded.reverse.takeWhile (· ≠ '-')).reverse
  match encoded.take (encoded.length - digits.length) with
  | [] => insertAll digits.length 128 0 72 [] digits
  | ['-'] => none
  | ascii => insertAll digits.length 128 0 72 ascii.dropLast digits

end JobKeeper.Url.Bootstring
