/-
  File:      JobKeeper/Proofs/Json/Tokens.lean
  Subject:   The tokens of a part of a JSON text.

  A token ends where its form ends, except for a number, which goes on as long as it can. So a token
  stays the same if what follows it is replaced by a text that cannot continue a number, or by one
  that begins with the same character:

  * `Follows`, `scan_split`: what a token consists of, whatever follows it;
  * `Lexes`, `lexes_iff`: the tokens of a text, token by token;
  * `Lexes.append`, `Lexes.split`: the tokens of two parts of a text at a mark between them.
-/
import JobKeeper.Json.Token
import Mathlib.Data.List.Basic

namespace JobKeeper.Json.Token

/-! ## 1. What may follow a token -/

/-- A text that cannot continue a number. -/
def Ends (cs : List Char) : Prop :=
  ∀ c ∈ cs.head?, c.isDigit = false ∧ c ≠ '.' ∧ c ≠ 'e' ∧ c ≠ 'E'

/-- What may stand in the place of what follows a token without changing the token. -/
def Follows (r r' : List Char) : Prop := Ends r' ∨ r'.head? = r.head?

theorem ends_nil : Ends [] := fun _ hc => nomatch hc

/-- What is put in front of both parts stands in the same place. -/
theorem Follows.append {r r' : List Char} (h : Follows r r') (c : List Char) :
    Follows (c ++ r) (c ++ r') := by
  cases c with
  | nil => exact h
  | cons a c => exact Or.inr rfl

/-- A property of the first character that ends a number holds of what may follow. -/
theorem Follows.head {r r' : List Char} (h : Follows r r') {P : Char → Prop}
    (hends : ∀ c, c.isDigit = false ∧ c ≠ '.' ∧ c ≠ 'e' ∧ c ≠ 'E' → P c)
    (hr : ∀ c ∈ r.head?, P c) : ∀ c ∈ r'.head?, P c := by
  intro c hc
  rcases h with ends | same
  · exact hends c (ends c hc)
  · exact hr c (same ▸ hc)

/-- The text begins with a part from which the scanner reads a value, whatever follows it. -/
def Splits {α : Type} (scanner : List Char → Option (α × List Char)) (cs : List Char) (a : α)
    (r : List Char) : Prop :=
  ∃ c, cs = c ++ r ∧ ∀ r', Follows r r' → scanner (c ++ r') = some (a, r')

/-! ## 2. Strings and numbers -/

theorem scanString_split {acc : List Piece} {cs : List Char} {pieces : List Piece}
    {r : List Char} (h : scanString acc cs = some (pieces, r)) :
    Splits (scanString acc) cs pieces r := by
  fun_induction scanString acc cs with
  | case1 => cases h
  | case2 acc rest =>
    cases h
    exact ⟨['"'], rfl, fun r' _ => by simp [scanString]⟩
  | case3 acc a b c d rest n hn ih =>
    obtain ⟨k, rfl, hk⟩ := ih h
    refine ⟨'\\' :: 'u' :: a :: b :: c :: d :: k, rfl, fun r' hr' => ?_⟩
    show scanString acc ('\\' :: 'u' :: a :: b :: c :: d :: (k ++ r')) = _
    rw [scanString, hn]
    exact hk r' hr'
  | case4 => cases h
  | case5 acc e rest hne c hc ih =>
    obtain ⟨k, rfl, hk⟩ := ih h
    have he : e ≠ 'u' := by
      rintro rfl
      simp [escaped?] at hc
    refine ⟨'\\' :: e :: k, rfl, fun r' hr' => ?_⟩
    show scanString acc ('\\' :: e :: (k ++ r')) = _
    rw [scanString, hc]
    · exact hk r' hr'
    · exact fun _ _ _ _ _ h _ => he h
  | case6 => cases h
  | case7 => cases h
  | case8 acc c rest hquote _ _ hc ih =>
    obtain ⟨k, rfl, hk⟩ := ih h
    have hslash : c ≠ '\\' := fun h => hc (Or.inr h)
    refine ⟨c :: k, rfl, fun r' hr' => ?_⟩
    show scanString acc (c :: (k ++ r')) = _
    rw [scanString, if_neg hc]
    · exact hk r' hr'
    · exact hquote
    · exact fun _ _ _ _ _ h _ => hslash h
    · exact fun _ _ h _ => hslash h

/-- The digits at the front of a text are the same if no further one follows them. -/
theorem scanDigits_split (cs : List Char) :
    ∃ c, cs = c ++ (scanDigits cs).2 ∧
      ∀ r', Follows (scanDigits cs).2 r' → scanDigits (c ++ r') = ((scanDigits cs).1, r') := by
  refine ⟨cs.takeWhile Char.isDigit, List.takeWhile_append_dropWhile.symm, fun r' hr' => ?_⟩
  have digits : ∀ c ∈ cs.takeWhile Char.isDigit, c.isDigit = true :=
    fun c hc => List.all_eq_true.mp List.all_takeWhile c hc
  have stop : ∀ c ∈ r'.head?, c.isDigit = false := by
    refine hr'.head (fun c hc => hc.1) fun c hc => ?_
    have first := List.head?_dropWhile_not Char.isDigit cs
    rw [show (cs.dropWhile Char.isDigit).head? = some c from hc] at first
    exact first
  have rest : r'.takeWhile Char.isDigit = [] ∧ r'.dropWhile Char.isDigit = r' := by
    cases r' with
    | nil => exact ⟨rfl, rfl⟩
    | cons c r' =>
      have hc := stop c rfl
      simp [hc]
  unfold scanDigits
  rw [List.takeWhile_append_of_pos digits, List.dropWhile_append_of_pos digits, rest.1, rest.2,
    List.append_nil]

theorem scanFraction_split {cs : List Char} {ds : Digits} {r : List Char}
    (h : scanFraction cs = some (ds, r)) : Splits scanFraction cs ds r := by
  have none_of : ∀ r' : List Char, (∀ c ∈ r'.head?, c ≠ '.') →
      scanFraction r' = some ([], r') := by
    intro r' hr'
    unfold scanFraction
    split
    · exact absurd rfl (hr' _ rfl)
    · rfl
  by_cases hdot : '.' ∈ cs.head?
  · obtain ⟨rest, rfl⟩ := List.head?_eq_some_iff.mp hdot
    obtain ⟨k, hk, hdigits⟩ := scanDigits_split rest
    simp only [scanFraction] at h
    split at h
    · cases h
    · rename_i hne
      cases h
      refine ⟨'.' :: k, congrArg _ hk, fun r' hr' => ?_⟩
      show scanFraction ('.' :: (k ++ r')) = _
      simp only [scanFraction]
      rw [hdigits r' hr', if_neg hne]
  · have first : ∀ c ∈ cs.head?, c ≠ '.' := fun c hc he => hdot (he ▸ hc)
    rw [none_of cs first] at h
    cases h
    exact ⟨[], rfl, fun r' hr' => none_of r' (hr'.head (fun c hc => hc.2.1) first)⟩

/-- A sign in front of the digits of an exponent. -/
def IsSign (sign : List Char) (negative : Bool) (digits : List Char) : Prop :=
  sign = ['-'] ∧ negative = true ∨ sign = ['+'] ∧ negative = false ∨
    sign = [] ∧ negative = false ∧ ∀ c ∈ digits.head?, c ≠ '-' ∧ c ≠ '+'

theorem exists_sign (cs : List Char) :
    ∃ sign negative digits, cs = sign ++ digits ∧ IsSign sign negative digits := by
  by_cases hminus : '-' ∈ cs.head?
  · obtain ⟨rest, rfl⟩ := List.head?_eq_some_iff.mp hminus
    exact ⟨['-'], true, rest, rfl, Or.inl ⟨rfl, rfl⟩⟩
  · by_cases hplus : '+' ∈ cs.head?
    · obtain ⟨rest, rfl⟩ := List.head?_eq_some_iff.mp hplus
      exact ⟨['+'], false, rest, rfl, Or.inr (Or.inl ⟨rfl, rfl⟩)⟩
    · refine ⟨[], false, cs, rfl, Or.inr (Or.inr ⟨rfl, rfl, fun c hc => ⟨?_, ?_⟩⟩)⟩
      · exact fun he => hminus (he ▸ hc)
      · exact fun he => hplus (he ▸ hc)

theorem scanExponent_sign {e : Char} (he : e = 'e' ∨ e = 'E') {sign : List Char} {negative : Bool}
    {digits : List Char} (h : IsSign sign negative digits) :
    scanExponent (e :: (sign ++ digits)) =
      if (scanDigits digits).1.isEmpty then none
      else some (some (negative, (scanDigits digits).1), (scanDigits digits).2) := by
  rcases h with ⟨rfl, rfl⟩ | ⟨rfl, rfl⟩ | ⟨rfl, rfl, h⟩
  · simp [scanExponent, he]
  · simp [scanExponent, he]
  · cases digits with
    | nil => simp [scanExponent, he]
    | cons c digits =>
      obtain ⟨hminus, hplus⟩ := h c rfl
      simp [scanExponent, he, hminus, hplus]

theorem scanExponent_split {cs : List Char} {x : Option (Bool × Digits)} {r : List Char}
    (h : scanExponent cs = some (x, r)) : Splits scanExponent cs x r := by
  have none_of : ∀ r' : List Char, (∀ c ∈ r'.head?, ¬ (c = 'e' ∨ c = 'E')) →
      scanExponent r' = some (none, r') := by
    intro r' hr'
    cases r' with
    | nil => rfl
    | cons c r' => exact if_neg (hr' c rfl)
  by_cases hexp : ∀ c ∈ cs.head?, ¬ (c = 'e' ∨ c = 'E')
  · rw [none_of cs hexp] at h
    cases h
    refine ⟨[], rfl, fun r' hr' => none_of r' (hr'.head (fun c hc => ?_) hexp)⟩
    exact fun he => he.elim hc.2.2.1 hc.2.2.2
  · simp only [not_forall, not_not] at hexp
    obtain ⟨e, hhead, he⟩ := hexp
    obtain ⟨rest, rfl⟩ := List.head?_eq_some_iff.mp hhead
    obtain ⟨sign, negative, digits, rfl, hsign⟩ := exists_sign rest
    obtain ⟨k, hk, hdigits⟩ := scanDigits_split digits
    rw [scanExponent_sign he hsign] at h
    split at h
    · cases h
    · rename_i hne
      cases h
      refine ⟨e :: (sign ++ k), by rw [List.cons_append, List.append_assoc, ← hk], fun r' hr' => ?_⟩
      -- there is a digit, so what follows the digits is not taken for a sign
      have hsign' : IsSign sign negative (k ++ r') := by
        rcases hsign with minus | plus | ⟨hnil, hneg, hfirst⟩
        · exact Or.inl minus
        · exact Or.inr (Or.inl plus)
        · refine Or.inr (Or.inr ⟨hnil, hneg, ?_⟩)
          cases k with
          | nil =>
            have hnone := hdigits [] (Or.inl ends_nil)
            exact absurd (by rw [← congrArg Prod.fst hnone]; rfl) hne
          | cons a k =>
            rw [hk] at hfirst
            exact hfirst
      rw [List.cons_append, List.append_assoc, scanExponent_sign he hsign', hdigits r' hr',
        if_neg hne]

theorem scanNumber_split {negative : Bool} {cs : List Char} {t : Token} {r : List Char}
    (h : scanNumber negative cs = some (t, r)) : Splits (scanNumber negative) cs t r := by
  obtain ⟨k, hk, hdigits⟩ := scanDigits_split cs
  unfold scanNumber at h
  generalize scanDigits cs = whole at h hk hdigits
  obtain ⟨ds, rest⟩ := whole
  cases ds with
  | nil => cases h
  | cons d ds =>
    dsimp only at h hk hdigits
    split at h
    · cases h
    · rename_i hzero
      cases hf : scanFraction rest with
      | none => rw [hf] at h; cases h
      | some fraction =>
        obtain ⟨fraction, rest'⟩ := fraction
        rw [hf] at h
        dsimp only at h
        cases he : scanExponent rest' with
        | none => rw [he] at h; cases h
        | some exponent =>
          obtain ⟨exponent, rest''⟩ := exponent
          rw [he] at h
          cases h
          obtain ⟨k', rfl, hfraction⟩ := scanFraction_split hf
          obtain ⟨k'', rfl, hexponent⟩ := scanExponent_split he
          refine ⟨k ++ (k' ++ k''), by rw [hk, List.append_assoc, List.append_assoc],
            fun r' hr' => ?_⟩
          have hr'' := hr'.append k''
          unfold scanNumber
          rw [List.append_assoc, List.append_assoc, hdigits _ (hr''.append k')]
          dsimp only
          rw [if_neg hzero, hfraction _ hr'']
          dsimp only
          rw [hexponent r' hr']

/-! ## 3. Tokens -/

/-- An unsigned number begins with a digit, so it is no other token. -/
theorem scan_of_scanNumber {cs : List Char} {x : Token × List Char}
    (h : scanNumber false cs = some x) : scan cs = some x := by
  have first : ∃ c ∈ cs.head?, c.isDigit = true := by
    cases cs with
    | nil => cases h
    | cons c cs =>
      refine ⟨c, rfl, ?_⟩
      by_contra hc
      simp [scanNumber, scanDigits, hc] at h
  obtain ⟨c, hhead, hc⟩ := first
  unfold scan
  split
  all_goals first
    | (cases hhead; exact absurd hc (by decide))
    | exact h

/-- **A token is the same whatever follows it**, as long as it cannot continue a number. -/
theorem scan_split {cs : List Char} {t : Token} {r : List Char} (h : scan cs = some (t, r)) :
    Splits scan cs t r := by
  unfold scan at h
  split at h
  · cases h; exact ⟨['['], rfl, fun r' _ => rfl⟩
  · cases h; exact ⟨[']'], rfl, fun r' _ => rfl⟩
  · cases h; exact ⟨['\x7b'], rfl, fun r' _ => rfl⟩
  · cases h; exact ⟨['\x7d'], rfl, fun r' _ => rfl⟩
  · cases h; exact ⟨[','], rfl, fun r' _ => rfl⟩
  · cases h; exact ⟨[':'], rfl, fun r' _ => rfl⟩
  · rename_i rest
    cases hs : scanString [] rest with
    | none => rw [hs] at h; cases h
    | some x =>
      obtain ⟨pieces, rest'⟩ := x
      rw [hs] at h
      cases h
      obtain ⟨k, rfl, hk⟩ := scanString_split hs
      refine ⟨'"' :: k, rfl, fun r' hr' => ?_⟩
      show scan ('"' :: (k ++ r')) = _
      simp only [scan]
      rw [hk r' hr']
  · cases h; exact ⟨['n', 'u', 'l', 'l'], rfl, fun r' _ => rfl⟩
  · cases h; exact ⟨['t', 'r', 'u', 'e'], rfl, fun r' _ => rfl⟩
  · cases h; exact ⟨['f', 'a', 'l', 's', 'e'], rfl, fun r' _ => rfl⟩
  · obtain ⟨k, rfl, hk⟩ := scanNumber_split h
    exact ⟨'-' :: k, rfl, fun r' hr' => hk r' hr'⟩
  · obtain ⟨k, hcs, hk⟩ := scanNumber_split h
    exact ⟨k, hcs, fun r' hr' => scan_of_scanNumber (hk r' hr')⟩

/-- A mark that stands for itself. -/
def IsMark (c : Char) (t : Token) : Prop :=
  c = '[' ∧ t = .openArray ∨ c = ']' ∧ t = .closeArray ∨ c = ',' ∧ t = .comma

/-- A mark cannot continue a number. -/
theorem IsMark.ends {c : Char} {t : Token} (hm : IsMark c t) (cs : List Char) : Ends (c :: cs) := by
  intro c' hc'
  obtain rfl : c = c' := Option.some.inj hc'
  rcases hm with ⟨rfl, _⟩ | ⟨rfl, _⟩ | ⟨rfl, _⟩ <;> decide

theorem scanNumber_number {negative : Bool} {cs : List Char} {t : Token} {r : List Char}
    (h : scanNumber negative cs = some (t, r)) : ∃ n, t = .number n := by
  unfold scanNumber at h
  repeat' split at h
  all_goals first
    | cases h; exact ⟨_, rfl⟩
    | cases h

/-- A mark is read from its character only. -/
theorem scan_mark {c : Char} {t : Token} (hm : IsMark c t) {cs r : List Char} :
    scan cs = some (t, r) ↔ cs = c :: r := by
  constructor
  · intro h
    unfold scan at h
    split at h
    -- one goal for each token and mark: the mark itself, or another token that is no mark
    all_goals rcases hm with ⟨rfl, rfl⟩ | ⟨rfl, rfl⟩ | ⟨rfl, rfl⟩
    all_goals first
      | (cases h; rfl)
      | cases h
      | (split at h <;> cases h)
      | (obtain ⟨n, hn⟩ := scanNumber_number h; cases hn)
  · rintro rfl
    rcases hm with ⟨rfl, rfl⟩ | ⟨rfl, rfl⟩ | ⟨rfl, rfl⟩ <;> rfl

/-! ## 4. Texts -/

/-- The text has these tokens and nothing but blanks between them. -/
inductive Lexes : List Char → List Token → Prop where
  | nil : Lexes [] []
  | blank {c : Char} {cs : List Char} {ts : List Token} (h : isBlank c = true)
      (later : Lexes cs ts) : Lexes (c :: cs) ts
  | token {c : Char} {cs r : List Char} {t : Token} {ts : List Token} (h : isBlank c = false)
      (first : scan (c :: cs) = some (t, r)) (later : Lexes r ts) : Lexes (c :: cs) (t :: ts)

theorem lexes_of_scanAll {acc : List Token} {cs : List Char} {ts : List Token}
    (h : scanAll acc cs = some ts) : ∃ ts', ts = acc.reverse ++ ts' ∧ Lexes cs ts' := by
  fun_induction scanAll acc cs with
  | case1 acc =>
    cases h
    exact ⟨[], (List.append_nil _).symm, .nil⟩
  | case2 acc c rest hc ih =>
    obtain ⟨ts', hts, later⟩ := ih h
    exact ⟨ts', hts, .blank hc later⟩
  | case3 acc c rest hc token rest' found ih =>
    obtain ⟨ts', hts, later⟩ := ih h
    refine ⟨token :: ts', ?_, .token (by simpa using hc) found later⟩
    rw [hts, List.reverse_cons, List.append_assoc]
    rfl
  | case4 => cases h

theorem Lexes.scanAll {cs : List Char} {ts : List Token} (h : Lexes cs ts) (acc : List Token) :
    scanAll acc cs = some (acc.reverse ++ ts) := by
  induction h generalizing acc with
  | nil => rw [Token.scanAll, List.append_nil]
  | blank hc _ ih => rw [Token.scanAll, if_pos hc, ih]
  | token hc first _ ih =>
    rw [Token.scanAll, if_neg (by simp [hc])]
    split
    · rename_i u r' found
      rw [first] at found
      cases found
      rw [ih, List.reverse_cons, List.append_assoc]
      rfl
    · rename_i found
      rw [first] at found
      cases found

/-- **The tokens of a text**, token by token. -/
theorem lexes_iff {s : String} {ts : List Token} : ofText? s = some ts ↔ Lexes s.toList ts := by
  constructor
  · intro h
    obtain ⟨ts', rfl, hl⟩ := lexes_of_scanAll h
    exact hl
  · exact fun h => h.scanAll []

namespace Lexes

/-- Nothing but blanks has no token. -/
theorem nil_iff {cs : List Char} : Lexes cs [] ↔ cs.all isBlank = true := by
  constructor
  · intro h
    generalize hts : ([] : List Token) = ts at h
    induction h with
    | nil => rfl
    | blank hc _ ih => simp [hc, ih hts]
    | token => cases hts
  · intro h
    induction cs with
    | nil => exact .nil
    | cons c cs ih =>
      simp only [List.all_cons, Bool.and_eq_true] at h
      exact .blank h.1 (ih h.2)

/-- The tokens of two parts are those of the whole, unless a number goes on in the second part. -/
theorem append {cs cs' : List Char} {ts ts' : List Token} (h : Lexes cs ts) (h' : Lexes cs' ts')
    (hends : Ends cs') : Lexes (cs ++ cs') (ts ++ ts') := by
  induction h with
  | nil => exact h'
  | blank hc _ ih => exact .blank hc ih
  | @token c cs r t ts hc first _ ih =>
    obtain ⟨k, hk, hscan⟩ := scan_split first
    have follows : Follows r (r ++ cs') := by
      cases r with
      | nil => exact Or.inl hends
      | cons a r => exact Or.inr rfl
    refine .token hc ?_ ih
    show scan ((c :: cs) ++ cs') = _
    rw [hk, List.append_assoc]
    exact hscan _ follows

/-- **A text splits at each of its marks** into two parts that have the tokens on either side. -/
theorem split {c : Char} {t : Token} (hm : IsMark c t) (ts : List Token) {cs : List Char}
    {ts' : List Token} (h : Lexes cs (ts ++ t :: ts')) :
    ∃ left right, cs = left ++ c :: right ∧ Lexes left ts ∧ Lexes right ts' := by
  generalize hall : ts ++ t :: ts' = all at h
  induction h generalizing ts with
  | nil => cases ts <;> cases hall
  | @blank b cs all hb _ ih =>
    obtain ⟨left, right, rfl, hleft, hright⟩ := ih ts hall
    exact ⟨b :: left, right, rfl, .blank hb hleft, hright⟩
  | @token b cs r u all hb first later ih =>
    cases ts with
    | nil =>
      cases hall
      exact ⟨[], r, (scan_mark hm).mp first, .nil, later⟩
    | cons v ts =>
      cases hall
      obtain ⟨left, right, rfl, hleft, hright⟩ := ih ts rfl
      obtain ⟨k, hk, hscan⟩ := scan_split first
      have follows : Follows (left ++ c :: right) left := by
        cases left with
        | nil => exact Or.inl ends_nil
        | cons a left => exact Or.inr rfl
      have hfirst := hscan left follows
      cases k with
      | nil => exact absurd (scan_length hfirst) (Nat.lt_irrefl _)
      | cons a k =>
        obtain ⟨rfl, hcs⟩ := List.cons.inj hk
        refine ⟨b :: (k ++ left), right, ?_, .token hb hfirst hleft, hright⟩
        exact congrArg (b :: ·) (hcs.trans (List.append_assoc k left _).symm)

/-- A mark stands between the tokens on either side. -/
theorem mark {c : Char} {t : Token} (hm : IsMark c t) {cs : List Char} {ts : List Token}
    (h : Lexes cs ts) : Lexes (c :: cs) (t :: ts) := by
  refine .token ?_ ((scan_mark hm).mpr rfl) h
  rcases hm with ⟨rfl, _⟩ | ⟨rfl, _⟩ | ⟨rfl, _⟩ <;> rfl

end Lexes

end JobKeeper.Json.Token
