/-
  File:      JobKeeper/Proofs/Json/Numerals.lean
  Subject:   Numbers as they are written, and what is read of them.

  A numeral is written digit by digit, so it is scanned as the numeral that it was. What number is
  read from it is another question. A whole number is written as one and comes back. A double is
  always written with a fraction or an exponent and so is never taken for a whole number; whether
  it comes back is up to the rounding of the reader (`Binary64.ReadsBack`).

  * `Digits.toNat_ofNat`: the digits of a number;
  * `Token.scan_numeralText`: a well-formed numeral is scanned from its text;
  * `Numeral.wellFormed_ofNumber`: what is written for a number is well-formed;
  * `Numeral.toNumber?_ofInt`, `Numeral.toNumber?_ofDouble`: what is read from it.
-/
import JobKeeper.Json.Print
import JobKeeper.Proofs.Json.Tokens

namespace JobKeeper.Json

/-! ## 1. Digits -/

namespace Digits

theorem toNat_concat (ds : Digits) (d : Fin 10) : toNat (ds ++ [d]) = 10 * ds.toNat + d.val := by
  rw [toNat, List.foldl_append]
  rfl

theorem ofNat_ne_nil (n : Nat) : ofNat n ≠ [] := by
  rw [ofNat]
  split <;> simp

/-- **The digits of a number are read as the number.** -/
theorem toNat_ofNat (n : Nat) : (ofNat n).toNat = n := by
  induction n using Nat.strongRecOn with
  | ind n ih =>
    rw [ofNat]
    split
    next hsmall => exact (Nat.zero_add _).trans (Nat.mod_eq_of_lt hsmall)
    next hlarge =>
      rw [toNat_concat, ih (n / 10) (by omega)]
      exact Nat.div_add_mod n 10

/-- Only zero has a leading zero. -/
theorem head?_ofNat {n : Nat} (hn : n ≠ 0) : (ofNat n).head? ≠ some 0 := by
  induction n using Nat.strongRecOn with
  | ind n ih =>
    rw [ofNat]
    split
    next hsmall =>
      intro hzero
      have hmod : n % 10 = 0 := congrArg Fin.val (Option.some.inj hzero)
      omega
    next hlarge =>
      rw [List.head?_append_of_ne_nil _ (ofNat_ne_nil _)]
      exact ih (n / 10) (by omega) (by omega)

end Digits

/-! ## 2. The text of a numeral -/

/-- The character of a digit. -/
def digitChar (d : Fin 10) : Char := Char.ofNat (48 + d.val)

theorem isDigit_digitChar : ∀ d, (digitChar d).isDigit = true := by decide

theorem digit_digitChar : ∀ d, Token.digit (digitChar d) = d := by decide

theorem toList_digitsText (ds : Digits) : (digitsText ds).toList = ds.map digitChar :=
  String.toList_ofList

/-- A fraction as it is written. -/
def fractionChars (ds : Digits) : List Char := if ds.isEmpty then [] else '.' :: ds.map digitChar

/-- An exponent as it is written. -/
def exponentChars : Option (Bool × Digits) → List Char
  | none => []
  | some (negative, ds) => 'e' :: (if negative then '-' else '+') :: ds.map digitChar

theorem toList_numeralText (n : Numeral) :
    (numeralText n).toList = (if n.negative then ['-'] else []) ++ (n.whole.map digitChar
      ++ (fractionChars n.fraction ++ exponentChars n.exponent)) := by
  have hsign : (if n.negative then "-" else "").toList = if n.negative then ['-'] else [] := by
    cases n.negative <;> rfl
  have hfraction : (if n.fraction.isEmpty then "" else "." ++ digitsText n.fraction).toList =
      fractionChars n.fraction := by
    unfold fractionChars
    split
    · rfl
    · rw [String.toList_append, toList_digitsText]
      rfl
  rw [numeralText, String.toList_append, String.toList_append, String.toList_append, hsign,
    hfraction, toList_digitsText, List.append_assoc, List.append_assoc]
  cases n.exponent with
  | none => rfl
  | some e =>
    obtain ⟨negative, ds⟩ := e
    cases negative
    · simp [exponentChars, toList_digitsText]
    · simp [exponentChars, toList_digitsText]

/-- **A numeral that can be scanned**: no part of it lacks its digits, and it has no leading
    zero. -/
structure Numeral.WellFormed (n : Numeral) : Prop where
  whole : n.whole ≠ []
  leading : n.whole.head? = some 0 → n.whole = [0]
  exponent : ∀ negative ds, n.exponent = some (negative, ds) → ds ≠ []

namespace Token

theorem scanDigits_append (ds : Digits) {rest : List Char}
    (hrest : ∀ c ∈ rest.head?, c.isDigit = false) :
    scanDigits (ds.map digitChar ++ rest) = (ds, rest) := by
  have digits : ∀ c ∈ ds.map digitChar, c.isDigit = true := by
    intro c hc
    obtain ⟨d, _, rfl⟩ := List.mem_map.mp hc
    exact isDigit_digitChar d
  have stop : rest.takeWhile Char.isDigit = [] ∧ rest.dropWhile Char.isDigit = rest := by
    cases rest with
    | nil => exact ⟨rfl, rfl⟩
    | cons c rest =>
      have hc := hrest c rfl
      simp [hc]
  have back : (ds.map digitChar).map digit = ds := by
    rw [List.map_map]
    exact List.map_id'' digit_digitChar ds
  rw [scanDigits, List.takeWhile_append_of_pos digits, List.dropWhile_append_of_pos digits, stop.1,
    stop.2, List.append_nil, back]

theorem scanExponent_exponentChars {e : Option (Bool × Digits)}
    (he : ∀ negative ds, e = some (negative, ds) → ds ≠ []) :
    scanExponent (exponentChars e) = some (e, []) := by
  cases e with
  | none => rfl
  | some e =>
    obtain ⟨negative, ds⟩ := e
    have hds : ds.isEmpty = false := by simpa using he negative ds rfl
    have hscan : scanDigits (ds.map digitChar) = (ds, []) := by
      have hnone : ∀ c ∈ ([] : List Char).head?, c.isDigit = false := nofun
      have happend := scanDigits_append ds hnone
      rwa [List.append_nil] at happend
    cases negative with
    | true => simp [exponentChars, scanExponent, hscan, hds]
    | false => simp [exponentChars, scanExponent, hscan, hds]

theorem head?_exponentChars (e : Option (Bool × Digits)) :
    ∀ c ∈ (exponentChars e).head?, c = 'e' := by
  cases e with
  | none => exact fun c hc => nomatch hc
  | some e => exact fun c hc => (Option.some.inj hc).symm

theorem scanFraction_fractionChars (ds : Digits) (e : Option (Bool × Digits)) :
    scanFraction (fractionChars ds ++ exponentChars e) = some (ds, exponentChars e) := by
  cases ds with
  | nil =>
    show scanFraction (exponentChars e) = _
    unfold scanFraction
    split
    next rest hdot =>
      have hc := head?_exponentChars e '.' (by rw [hdot]; rfl)
      exact absurd hc (by decide)
    next => rfl
  | cons d ds =>
    have hscan : scanDigits ((d :: ds).map digitChar ++ exponentChars e) =
        (d :: ds, exponentChars e) :=
      scanDigits_append (d :: ds) fun c hc => by rw [head?_exponentChars e c hc]; decide
    show scanFraction ('.' :: ((d :: ds).map digitChar ++ exponentChars e)) = _
    simp only [scanFraction]
    rw [hscan]
    rfl

theorem head?_fractionChars (ds : Digits) (e : Option (Bool × Digits)) :
    ∀ c ∈ (fractionChars ds ++ exponentChars e).head?, c.isDigit = false := by
  intro c hc
  cases ds with
  | nil =>
    rw [head?_exponentChars e c hc]
    decide
  | cons d ds =>
    obtain rfl : '.' = c := Option.some.inj hc
    decide

/-- **A well-formed numeral is scanned from its text.** -/
theorem scan_numeralText {n : Numeral} (h : n.WellFormed) :
    scan (numeralText n).toList = some (.number n, []) := by
  obtain ⟨negative, whole, fraction, exponent⟩ := n
  obtain ⟨hwhole, hleading, hexponent⟩ := h
  have hnumber : scanNumber negative (whole.map digitChar
      ++ (fractionChars fraction ++ exponentChars exponent)) =
        some (.number ⟨negative, whole, fraction, exponent⟩, []) := by
    unfold scanNumber
    rw [scanDigits_append whole (head?_fractionChars fraction exponent)]
    cases whole with
    | nil => exact absurd rfl hwhole
    | cons d ds =>
      have hzero : ¬ (d.val = 0 ∧ ds ≠ []) := by
        rintro ⟨hd, hds⟩
        exact hds (List.cons.inj (hleading (congrArg some (Fin.ext hd)))).2
      dsimp only
      rw [if_neg hzero, scanFraction_fractionChars]
      dsimp only
      rw [scanExponent_exponentChars hexponent]
  rw [toList_numeralText]
  cases negative with
  | true => exact hnumber
  | false => exact scan_of_scanNumber hnumber

/-- The text of a well-formed numeral has one token. -/
theorem lexes_numeralText {n : Numeral} (h : n.WellFormed) :
    Lexes (numeralText n).toList [.number n] := by
  have hscan := scan_numeralText h
  cases htext : (numeralText n).toList with
  | nil =>
    rw [htext] at hscan
    cases hscan
  | cons c cs =>
    rw [htext] at hscan
    refine .token ?_ hscan .nil
    -- a blank begins no token
    by_contra hblank
    rw [Bool.not_eq_false] at hblank
    simp only [isBlank, Bool.or_eq_true, decide_eq_true_eq] at hblank
    rcases hblank with ((rfl | rfl) | rfl) | rfl <;> cases hscan

end Token

/-! ## 3. The numerals of numbers -/

namespace Numeral

theorem wellFormed_ofInt (n : Int) : (ofInt n).WellFormed where
  whole := Digits.ofNat_ne_nil _
  leading hzero := by
    by_cases hn : n.natAbs = 0
    · show Digits.ofNat n.natAbs = [0]
      rw [hn, Digits.ofNat, if_pos (by decide)]
      rfl
    · exact absurd hzero (Digits.head?_ofNat hn)
  exponent negative ds h := by cases h

/-- **What is written for a double is well-formed**, and no whole number. -/
theorem ofDouble_spec (d : Binary64) :
    (ofDouble d).WellFormed ∧ ((ofDouble d).fraction ≠ [] ∨ (ofDouble d).exponent ≠ none) := by
  unfold ofDouble
  dsimp only
  generalize d.shortest = short
  generalize hds : Digits.ofNat short.digits = ds
  have hne : ds ≠ [] := hds ▸ Digits.ofNat_ne_nil _
  have hlength : 0 < ds.length := List.length_pos_of_ne_nil hne
  split
  next => exact ⟨⟨List.cons_ne_nil _ _, fun _ => rfl, nofun⟩, Or.inl (List.cons_ne_nil _ _)⟩
  next hdigits =>
    have hhead : ds.head? ≠ some 0 := hds ▸ Digits.head?_ofNat hdigits
    have htake : ∀ k, 0 < k → ds.take k ≠ [] ∧ (ds.take k).head? ≠ some 0 := by
      intro k hk
      cases ds with
      | nil => exact absurd rfl hne
      | cons d ds =>
        cases k with
        | zero => omega
        | succ k => exact ⟨List.cons_ne_nil _ _, hhead⟩
    split
    next =>
      refine ⟨⟨?_, fun hzero => ?_, nofun⟩, Or.inl (List.cons_ne_nil _ _)⟩
      · exact List.append_ne_nil_of_left_ne_nil hne _
      · rw [List.head?_append_of_ne_nil _ hne] at hzero
        exact absurd hzero hhead
    next hnot =>
      split
      next hpoint =>
        -- the point is within the digits, as the power is negative
        obtain ⟨htaken, hfirst⟩ := htake ((ds.length : Int) + short.power).toNat (by omega)
        refine ⟨⟨htaken, fun hzero => absurd hzero hfirst, nofun⟩, Or.inl ?_⟩
        refine List.ne_nil_of_length_pos ?_
        rw [List.length_drop]
        omega
      next =>
        split
        next =>
          refine ⟨⟨List.cons_ne_nil _ _, fun _ => rfl, nofun⟩, Or.inl ?_⟩
          exact List.append_ne_nil_of_right_ne_nil _ hne
        next =>
          obtain ⟨htaken, hfirst⟩ := htake 1 Nat.one_pos
          refine ⟨⟨htaken, fun hzero => absurd hzero hfirst, fun negative digits hexp => ?_⟩,
            Or.inr nofun⟩
          cases hexp
          exact Digits.ofNat_ne_nil _

theorem wellFormed_ofNumber (n : Number) : (ofNumber n).WellFormed := by
  cases n with
  | integer n => exact wellFormed_ofInt n
  | double d => exact (ofDouble_spec d).1

/-- **A whole number of 64 bits is read back.** -/
theorem toNumber?_ofInt {n : Int} (hlow : -0x8000000000000000 ≤ n)
    (hhigh : n < 0x10000000000000000) : (ofInt n).toNumber? = some (.integer n) := by
  unfold toNumber? ofInt
  dsimp only
  rw [Digits.toNat_ofNat]
  by_cases hnegative : n < 0
  · rw [if_neg (by simp [hnegative]),
      if_pos ⟨rfl, rfl, by simpa using hnegative, by omega, by omega⟩]
    congr 2
    omega
  · rw [if_pos ⟨rfl, rfl, by simpa using hnegative, by omega⟩]
    congr 2
    omega

/-- What is written for a double is read as a double, if as anything. -/
theorem toNumber?_ofDouble (d : Binary64) :
    (ofDouble d).toNumber? = (ofDouble d).toDouble?.map .double := by
  obtain ⟨_, hform⟩ := ofDouble_spec d
  unfold toNumber?
  rw [if_neg, if_neg]
  · rintro ⟨hfraction, hexponent, _⟩
    exact hform.elim (fun h => h hfraction) fun h => h hexponent
  · rintro ⟨hfraction, hexponent, _⟩
    exact hform.elim (fun h => h hfraction) fun h => h hexponent

end Numeral

/-- **The double is read from the decimal that is written for it.** -/
def Binary64.ReadsBack (d : Binary64) : Prop := (Numeral.ofDouble d).toDouble? = some d

instance (d : Binary64) : Decidable d.ReadsBack := inferInstanceAs (Decidable (_ = _))

end JobKeeper.Json
