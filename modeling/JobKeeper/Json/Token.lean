/-
  File:      JobKeeper/Json/Token.lean
  Subject:   The tokens of a JSON text.

  A string token holds its text, or nothing if its escapes do not form text: an unpaired surrogate
  is no fault of the string's form, only of its content.
-/
import JobKeeper.Json.Value
import JobKeeper.Text.Hexadecimal

namespace JobKeeper.Json

/-- A token of a JSON text. -/
inductive Token where
  | openArray
  | closeArray
  | openObject
  | closeObject
  | comma
  | colon
  | null
  | bool (b : Bool)
  | number (n : Numeral)
  | string (text : Option String)
  deriving DecidableEq, Repr

namespace Token

/-! ## 1. Strings -/

/-- A piece of a string: a character as it stands or after a backslash, or a 16-bit unit. -/
inductive Piece where
  | char (c : Char)
  | unit (n : Nat)
  deriving DecidableEq, Repr

/-- The value of four hexadecimal digits. -/
def hex4? (a b c d : Char) : Option Nat := do
  let high := (← Text.hexValue? a) * 16 + (← Text.hexValue? b)
  let low := (← Text.hexValue? c) * 16 + (← Text.hexValue? d)
  return high * 256 + low

/-- What a one-letter escape stands for. -/
def escaped? : Char → Option Char
  | '"' => some '"'
  | '\\' => some '\\'
  | '/' => some '/'
  | 'b' => some (Char.ofNat 8)
  | 'f' => some (Char.ofNat 12)
  | 'n' => some '\n'
  | 'r' => some '\r'
  | 't' => some '\t'
  | _ => none

/-- The pieces up to the closing quote, in reverse before `acc`, and what follows the quote. -/
def scanString (acc : List Piece) : List Char → Option (List Piece × List Char)
  | [] => none
  | '"' :: rest => some (acc.reverse, rest)
  | '\\' :: 'u' :: a :: b :: c :: d :: rest =>
    match hex4? a b c d with
    | some n => scanString (.unit n :: acc) rest
    | none => none
  | '\\' :: e :: rest =>
    match escaped? e with
    | some c => scanString (.char c :: acc) rest
    | none => none
  | c :: rest => if c.toNat < 32 ∨ c = '\\' then none else scanString (.char c :: acc) rest

theorem scanString_length {acc : List Piece} {cs : List Char} {r : List Piece × List Char}
    (h : scanString acc cs = some r) : r.2.length < cs.length := by
  fun_induction scanString acc cs <;> simp_all
  all_goals first
    | omega
    | (subst h; simp)

/-- Whether a unit is the first half of a pair. -/
def isHigh (n : Nat) : Bool := 0xD800 ≤ n && n < 0xDC00

/-- Whether a unit is the second half of a pair. -/
def isLow (n : Nat) : Bool := 0xDC00 ≤ n && n < 0xE000

/-- The characters of the pieces; a half without its other half is no text. -/
def characters : List Piece → Option (List Char)
  | [] => some []
  | .char c :: rest => (characters rest).map (c :: ·)
  | .unit n :: rest =>
    if isHigh n then
      match rest with
      | .unit m :: rest' =>
        if isLow m then
          (characters rest').map (Char.ofNat (0x10000 + (n - 0xD800) * 1024 + (m - 0xDC00)) :: ·)
        else none
      | _ => none
    else if isLow n then none
    else (characters rest).map (Char.ofNat n :: ·)

/-! ## 2. Numbers -/

/-- The value of a decimal digit. -/
def digit (c : Char) : Fin 10 := lastDigit (c.toNat - 48)

/-- The digits at the front of a text, and what follows them. -/
def scanDigits (cs : List Char) : Digits × List Char :=
  ((cs.takeWhile Char.isDigit).map digit, cs.dropWhile Char.isDigit)

theorem scanDigits_length (cs : List Char) : (scanDigits cs).2.length ≤ cs.length :=
  (List.dropWhile_sublist Char.isDigit).length_le

/-- An exponent, if there is one: `none` if its digits are missing. -/
def scanExponent : List Char → Option (Option (Bool × Digits) × List Char)
  | e :: rest =>
    if e = 'e' ∨ e = 'E' then
      let (negative, rest') := match rest with
        | '-' :: r => (true, r)
        | '+' :: r => (false, r)
        | r => (false, r)
      let (ds, r) := scanDigits rest'
      if ds.isEmpty then none else some (some (negative, ds), r)
    else some (none, e :: rest)
  | [] => some (none, [])

theorem scanExponent_length {cs : List Char} {r : Option (Bool × Digits) × List Char}
    (h : scanExponent cs = some r) : r.2.length ≤ cs.length := by
  unfold scanExponent at h
  split at h
  · rename_i e rest
    split at h
    · split at h
      rename_i neg rest' heq
      have hlen : rest'.length ≤ rest.length := by
        split at heq <;> simp_all
      simp only at h
      split at h
      · simp at h
      · simp only [Option.some.injEq] at h
        subst h
        have := scanDigits_length rest'
        simp only [List.length_cons]
        omega
    · simp only [Option.some.injEq] at h
      subst h
      simp
  · simp only [Option.some.injEq] at h
    subst h
    simp

/-- A fraction, if there is one: `none` if its digits are missing. -/
def scanFraction : List Char → Option (Digits × List Char)
  | '.' :: rest =>
    let (ds, r) := scanDigits rest
    if ds.isEmpty then none else some (ds, r)
  | rest => some ([], rest)

theorem scanFraction_length {cs : List Char} {r : Digits × List Char}
    (h : scanFraction cs = some r) : r.2.length ≤ cs.length := by
  unfold scanFraction at h
  split at h
  · rename_i rest
    simp only at h
    split at h
    · simp at h
    · simp only [Option.some.injEq] at h
      subst h
      have := scanDigits_length rest
      simp only [List.length_cons]
      omega
  · simp only [Option.some.injEq] at h
    subst h
    simp

/-- A number without its sign. The whole part has no leading zero unless it is zero. -/
def scanNumber (negative : Bool) (cs : List Char) : Option (Token × List Char) :=
  match scanDigits cs with
  | ([], _) => none
  | (d :: ds, rest) =>
    if d.val = 0 ∧ ds ≠ [] then none
    else
      match scanFraction rest with
      | none => none
      | some (fraction, rest') =>
        match scanExponent rest' with
        | none => none
        | some (exponent, rest'') => some (.number ⟨negative, d :: ds, fraction, exponent⟩, rest'')

theorem scanNumber_length {negative : Bool} {cs : List Char} {r : Token × List Char}
    (h : scanNumber negative cs = some r) : r.2.length < cs.length := by
  unfold scanNumber at h
  split at h
  · simp at h
  · rename_i d ds rest hd
    have hlt : rest.length < cs.length := by
      cases cs with
      | nil => simp [scanDigits] at hd
      | cons c cs =>
        by_cases hc : c.isDigit = true
        · have := scanDigits_length cs
          simp only [scanDigits, List.takeWhile_cons, List.dropWhile_cons, hc, if_true,
            List.map_cons, Prod.mk.injEq] at hd
          simp only [scanDigits] at this
          rw [← hd.2]
          simp only [List.length_cons]
          omega
        · simp [scanDigits, hc] at hd
    split at h
    · simp at h
    · split at h
      · simp at h
      · rename_i fraction rest' hf
        split at h
        · simp at h
        · rename_i exponent rest'' he
          simp only [Option.some.injEq] at h
          subst h
          have h1 := scanFraction_length hf
          have h2 := scanExponent_length he
          simp only at h1 h2 ⊢
          omega

/-! ## 3. Texts -/

/-- Whether a character may stand between tokens. -/
def isBlank (c : Char) : Bool := c = ' ' || c = '\n' || c = '\r' || c = '\t'

/-- The token at the front of a text that starts with no blank, and what follows it. -/
def scan : List Char → Option (Token × List Char)
  | '[' :: rest => some (.openArray, rest)
  | ']' :: rest => some (.closeArray, rest)
  | '\x7b' :: rest => some (.openObject, rest)
  | '\x7d' :: rest => some (.closeObject, rest)
  | ',' :: rest => some (.comma, rest)
  | ':' :: rest => some (.colon, rest)
  | '"' :: rest =>
    match scanString [] rest with
    | some (pieces, rest') => some (.string ((characters pieces).map String.ofList), rest')
    | none => none
  | 'n' :: 'u' :: 'l' :: 'l' :: rest => some (.null, rest)
  | 't' :: 'r' :: 'u' :: 'e' :: rest => some (.bool true, rest)
  | 'f' :: 'a' :: 'l' :: 's' :: 'e' :: rest => some (.bool false, rest)
  | '-' :: rest => scanNumber true rest
  | cs => scanNumber false cs

theorem scan_length {cs : List Char} {r : Token × List Char} (h : scan cs = some r) :
    r.2.length < cs.length := by
  unfold scan at h
  split at h
  all_goals first
    | (simp only [Option.some.injEq] at h; subst h; simp; done)
    | (simp only [Option.some.injEq] at h; subst h; simp only [List.length_cons]; omega)
    | skip
  · rename_i rest
    split at h
    · rename_i pieces rest' hs
      simp only [Option.some.injEq] at h
      subst h
      have := scanString_length hs
      simp only [List.length_cons] at this ⊢
      omega
    · simp at h
  · have := scanNumber_length h
    simp only [List.length_cons]
    omega
  · exact scanNumber_length h

/-- The tokens of a text, in reverse before `acc`; `none` if the text holds anything else. -/
def scanAll (acc : List Token) (cs : List Char) : Option (List Token) :=
  match cs with
  | [] => some acc.reverse
  | c :: rest =>
    if isBlank c then scanAll acc rest
    else
      match _found : scan (c :: rest) with
      | some (token, rest') => scanAll (token :: acc) rest'
      | none => none
termination_by cs.length
decreasing_by
  · simp
  · exact scan_length (by assumption)

/-- The tokens of a text. -/
def ofText? (s : String) : Option (List Token) := scanAll [] s.toList

end Token

end JobKeeper.Json
