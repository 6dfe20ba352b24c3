/-
  File:      JobKeeper/Proofs/Json/Printed.lean
  Subject:   The text of a value is read as the document of the value.

  Printing and reading are inverse for every value, whatever its texts hold: a character that could
  end a string or is no part of one is escaped, and each escape is undone by itself. Between the
  parts of a text stand marks that cannot continue a number, so the tokens of the whole are those
  of the parts.

  * `Token.scanString_escape`, `lexes_stringText`: characters and strings;
  * `run_fields`: the fields of an object, with commas between them;
  * `ofText?_text`: all values, by induction on the value.
-/
import JobKeeper.Proofs.Json.Elements
import JobKeeper.Proofs.Json.Numerals

namespace JobKeeper.Json

/-! ## 1. Strings -/

namespace Token

/-- The last four hexadecimal digits of a control character are read as its number. -/
theorem hex4?_control : ∀ n < 32, hex4? (hexDigit (n / 16 / 16 / 16 % 16))
    (hexDigit (n / 16 / 16 % 16)) (hexDigit (n / 16 % 16)) (hexDigit (n % 16)) = some n := by
  decide

theorem characters_unit {n : Nat} (hn : n < 32) (ps : List Piece) :
    characters (.unit n :: ps) = (characters ps).map (Char.ofNat n :: ·) := by
  have hhigh : isHigh n = false := by
    have hle : decide (0xD800 ≤ n) = false := decide_eq_false (by omega)
    rw [isHigh, hle, Bool.false_and]
  have hlow : isLow n = false := by
    have hle : decide (0xDC00 ≤ n) = false := decide_eq_false (by omega)
    rw [isLow, hle, Bool.false_and]
  -- what follows matters to the first half of a pair only, and this is none
  conv_lhs => unfold characters
  simp only [hhigh, hlow, if_neg Bool.false_ne_true]

/-- **Each character is scanned from what it is written as**, whatever follows it. -/
theorem scanString_escape (c : Char) :
    ∃ p, (∀ acc rest, scanString acc (escape c ++ rest) = scanString (p :: acc) rest) ∧
      ∀ ps, characters (p :: ps) = (characters ps).map (c :: ·) := by
  have code : ∀ n, c.toNat = n → c = Char.ofNat n := fun n hn => hn ▸ (Char.ofNat_toNat c).symm
  unfold escape
  split
  next h => exact ⟨.char c, fun acc rest => by simp [scanString, escaped?, h], fun ps => rfl⟩
  next hquote =>
  split
  next h => exact ⟨.char c, fun acc rest => by simp [scanString, escaped?, h], fun ps => rfl⟩
  next hslash =>
  split
  next h =>
    exact ⟨.char c, fun acc rest => by simp [scanString, escaped?, code 8 h], fun ps => rfl⟩
  next =>
  split
  next h =>
    exact ⟨.char c, fun acc rest => by simp [scanString, escaped?, code 12 h], fun ps => rfl⟩
  next =>
  split
  next h => exact ⟨.char c, fun acc rest => by simp [scanString, escaped?, h], fun ps => rfl⟩
  next =>
  split
  next h => exact ⟨.char c, fun acc rest => by simp [scanString, escaped?, h], fun ps => rfl⟩
  next =>
  split
  next h => exact ⟨.char c, fun acc rest => by simp [scanString, escaped?, h], fun ps => rfl⟩
  next =>
  split
  next hcontrol =>
    refine ⟨.unit c.toNat, fun acc rest => ?_, fun ps => ?_⟩
    · show scanString acc ('\\' :: 'u' :: hexDigit _ :: hexDigit _ :: hexDigit _ :: hexDigit _
        :: rest) = _
      rw [scanString, hex4?_control c.toNat hcontrol]
    · rw [characters_unit hcontrol, Char.ofNat_toNat]
  next hplain =>
    refine ⟨.char c, fun acc rest => ?_, fun ps => rfl⟩
    show scanString acc (c :: rest) = _
    have hc : ¬ (c.toNat < 32 ∨ c = '\\') := fun h => h.elim hplain hslash
    rw [scanString, if_neg hc]
    · exact hquote
    · exact fun _ _ _ _ _ h _ => hslash h
    · exact fun _ _ h _ => hslash h

/-- The characters of a text are scanned one after another. -/
theorem scanString_flatMap (cs : List Char) :
    ∃ ps, (∀ acc rest, scanString acc (cs.flatMap escape ++ rest) =
      scanString (ps.reverse ++ acc) rest) ∧ characters ps = some cs := by
  induction cs with
  | nil => exact ⟨[], fun acc rest => rfl, rfl⟩
  | cons c cs ih =>
    obtain ⟨p, hscan, hcharacter⟩ := scanString_escape c
    obtain ⟨ps, hscans, hcharacters⟩ := ih
    refine ⟨p :: ps, fun acc rest => ?_, ?_⟩
    · rw [List.flatMap_cons, List.append_assoc, hscan, hscans, List.reverse_cons,
        List.append_assoc]
      rfl
    · rw [hcharacter, hcharacters]
      rfl

/-- **A text is the one token of the string that it is written as.** -/
theorem lexes_stringText (s : String) : Lexes (stringText s).toList [.string (some s)] := by
  obtain ⟨ps, hscans, hcharacters⟩ := scanString_flatMap s.toList
  have hstring : scanString [] (s.toList.flatMap escape ++ ['"']) = some (ps, []) := by
    rw [hscans, scanString, List.append_nil, List.reverse_reverse]
  rw [stringText, String.toList_ofList]
  refine .token rfl ?_ .nil
  simp only [scan]
  rw [hstring]
  simp only [hcharacters, Option.map_some, String.ofList_toList]

end Token

open Token

/-! ## 2. Objects -/

/-- The text of a field: its key as a string, a colon, and the text of a document. -/
def FieldText (s : String) (field : Option String × Doc) : Prop :=
  ∃ key value, s = stringText key ++ ":" ++ value ∧ field.1 = some key ∧
    Doc.ofText? value = some field.2

/-- A mark that cannot continue a number, in front of a text. -/
theorem Token.Lexes.cons_mark {c : Char} {t : Token} (hblank : isBlank c = false)
    (hscan : ∀ cs, scan (c :: cs) = some (t, cs)) {cs : List Char} {ts : List Token}
    (h : Lexes cs ts) : Lexes (c :: cs) (t :: ts) := .token hblank (hscan cs) h

theorem ends_closeObject (cs : List Char) : Ends ('\x7d' :: cs) := by
  intro c hc
  obtain rfl : '\x7d' = c := Option.some.inj hc
  decide

theorem ends_colon (cs : List Char) : Ends (':' :: cs) := by
  intro c hc
  obtain rfl : ':' = c := Option.some.inj hc
  decide

/-- A field is read up to its value. -/
theorem run_field {s : String} {field : Option String × Doc} (h : FieldText s field)
    (fields : List (Option String × Doc)) :
    ∃ ts, Lexes s.toList ts ∧ (Progress.key fields []).run ts =
      some (.complete field.2 [.object fields field.1]) := by
  obtain ⟨key, value, rfl, hkey, hvalue⟩ := h
  obtain ⟨ts, hl, hrun⟩ := Doc.ofText?_eq_some_iff.mp hvalue
  refine ⟨.string (some key) :: .colon :: ts, ?_, ?_⟩
  · have hrest : Lexes (':' :: value.toList) (.colon :: ts) :=
      Lexes.cons_mark rfl (fun _ => rfl) hl
    have hall := (lexes_stringText key).append hrest (ends_colon _)
    simpa using hall
  · rw [hkey]
    exact Progress.run_onto [.object fields (some key)] hrun

/-- **The texts of fields, with commas between them, are read as further fields of an object.** -/
theorem run_fields {texts : List String} {fields : List (Option String × Doc)}
    (h : List.Forall₂ FieldText texts fields) (hne : texts ≠ [])
    (before : List (Option String × Doc)) :
    ∃ ts, Lexes (Text.join "," texts ++ "\x7d").toList ts ∧
      (Progress.key before []).run ts =
        some (.complete (.object (before.reverse ++ fields)) []) := by
  induction h generalizing before with
  | nil => exact absurd rfl hne
  | @cons s field texts fields hfirst later ih =>
    obtain ⟨ts, hl, hrun⟩ := run_field hfirst before
    cases later with
    | nil =>
      refine ⟨ts ++ [.closeObject], ?_, ?_⟩
      · have hclose : Lexes ['\x7d'] [.closeObject] := Lexes.cons_mark rfl (fun _ => rfl) .nil
        have hall := hl.append hclose (ends_closeObject _)
        simpa using hall
      · rw [Progress.run_append, hrun]
        show some (Progress.complete (.object ((field.1, field.2) :: before).reverse) []) = _
        rw [List.reverse_cons]
    | @cons s' field' texts fields hnext later =>
      obtain ⟨ts', hl', hrun'⟩ := ih (List.cons_ne_nil _ _) (field :: before)
      refine ⟨ts ++ .comma :: ts', ?_, ?_⟩
      · have hall := hl.append (hl'.mark isMark_comma) (isMark_comma.ends _)
        simpa [Text.join_cons_cons] using hall
      · rw [Progress.run_append, hrun]
        show (Progress.key (field :: before) []).run ts' = _
        rw [hrun', List.reverse_cons, List.append_assoc]
        rfl

/-- The first field of an object is read like any other one. -/
theorem run_first_field {ts : List Token} {whole : Doc}
    (h : (Progress.key [] []).run ts = some (.complete whole [])) :
    (Progress.field []).run ts = some (.complete whole []) := by
  cases ts with
  | nil => cases h
  | cons t ts =>
    cases t with
    | string key => exact h
    | _ => cases h

theorem ofText?_object {texts : List String} {fields : List (Option String × Doc)}
    (h : List.Forall₂ FieldText texts fields) :
    Doc.ofText? ("\x7b" ++ Text.join "," texts ++ "\x7d") = some (.object fields) := by
  rw [Doc.ofText?_eq_some_iff]
  by_cases hne : texts = []
  · subst hne
    cases h
    have hclose : Lexes ['\x7d'] [.closeObject] := Lexes.cons_mark rfl (fun _ => rfl) .nil
    exact ⟨[.openObject, .closeObject], Lexes.cons_mark rfl (fun _ => rfl) hclose, rfl⟩
  · obtain ⟨ts, hl, hrun⟩ := run_fields h hne []
    refine ⟨.openObject :: ts, ?_, run_first_field hrun⟩
    have hall := Lexes.cons_mark (c := '\x7b') (t := .openObject) rfl (fun _ => rfl) hl
    simpa using hall

/-! ## 3. Arrays -/

theorem ofText?_array {texts : List String} {docs : List Doc}
    (h : List.Forall₂ (fun s doc => Doc.ofText? s = some doc) texts docs) :
    Doc.ofText? ("[" ++ Text.join "," texts ++ "]") = some (.array docs) := by
  rw [Doc.ofText?_eq_some_iff]
  by_cases hne : texts = []
  · subst hne
    cases h
    have hclose : Lexes [']'] [.closeArray] := Lexes.nil.mark isMark_closeArray
    exact ⟨[.openArray, .closeArray], hclose.mark isMark_openArray, rfl⟩
  · obtain ⟨ts, hl, hrun⟩ := run_elements h hne (show Blank "" from rfl) []
    refine ⟨.openArray :: ts, ?_, Progress.run_first_item hrun⟩
    have hall := hl.mark isMark_openArray
    simpa using hall

/-! ## 4. Values -/

/-- A value that is one token. -/
theorem ofText?_of_token {s : String} {t : Token} {doc : Doc} (h : Lexes s.toList [t])
    (hdoc : Progress.startValue [] t = some (.complete doc [])) : Doc.ofText? s = some doc := by
  refine Doc.ofText?_eq_some_iff.mpr ⟨[t], h, ?_⟩
  rw [Progress.run_cons]
  show (Progress.startValue [] t).bind _ = _
  rw [hdoc]
  rfl

mutual

/-- **The text of a value is read as the document of the value.** -/
theorem ofText?_text : ∀ v : Json, Doc.ofText? (text v) = some (toDoc v)
  | .null => ofText?_of_token (t := .null) (.token rfl rfl .nil) rfl
  | .bool true => ofText?_of_token (t := .bool true) (.token rfl rfl .nil) rfl
  | .bool false => ofText?_of_token (t := .bool false) (.token rfl rfl .nil) rfl
  | .number n => ofText?_of_token (lexes_numeralText (Numeral.wellFormed_ofNumber n)) rfl
  | .string s => ofText?_of_token (lexes_stringText s) rfl
  | .array items => ofText?_array (ofText?_itemTexts items)
  | .object fields => ofText?_object (fieldText_fieldTexts fields)

theorem ofText?_itemTexts : ∀ items : List Json,
    List.Forall₂ (fun s doc => Doc.ofText? s = some doc) (itemTexts items) (itemDocs items)
  | [] => .nil
  | item :: rest => .cons (ofText?_text item) (ofText?_itemTexts rest)

theorem fieldText_fieldTexts : ∀ fields : List (String × Json),
    List.Forall₂ FieldText (fieldTexts fields) (fieldDocs fields)
  | [] => .nil
  | (key, value) :: rest =>
    .cons ⟨key, text value, rfl, rfl, ofText?_text value⟩ (fieldText_fieldTexts rest)

end

end JobKeeper.Json
