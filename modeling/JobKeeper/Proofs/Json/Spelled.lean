/-
  File:      JobKeeper/Proofs/Json/Spelled.lean
  Subject:   Documents that spell a value out, and what is read of them.

  One value has many documents: the fields of an object may stand in any order, and a double has
  many numerals. What is read of a document depends on the value alone that it spells out.

  * `Doc.Spells`: the documents of a value;
  * `toDoc_spells`: the one that is written spells it out, if its doubles are read back;
  * `Doc.keep_of_spells`: a canonical value is kept of each of them;
  * `Record.exists_spelled`: the record of fields that are spelled out.
-/
import JobKeeper.Proofs.Json.Kept
import JobKeeper.Proofs.Json.Numerals

namespace JobKeeper.Json

/-! ## 1. Spelling -/

/-- **A document that spells a value out.** -/
inductive Doc.Spells : Doc → Json → Prop
  | null : Spells .null .null
  | bool (b : Bool) : Spells (.bool b) (.bool b)
  | integer (n : Int) : Spells (.number (.ofInt n)) (.int n)
  /-- By any numeral that is read as the double. -/
  | double {n : Numeral} {d : Binary64} (h : n.toNumber? = some (.double d)) :
      Spells (.number n) (.number (.double d))
  | string (s : String) : Spells (.string (some s)) (.string s)
  | array {docs : List Doc} {items : List Json} (h : List.Forall₂ Spells docs items) :
      Spells (.array docs) (.array items)
  /-- Field by field, but in any order. -/
  | object {written ordered : List (Option String × Doc)} {fields : List (String × Json)}
      (hperm : written.Perm ordered)
      (keys : ordered.map (·.1) = fields.map fun e => some e.1)
      (values : List.Forall₂ Spells (ordered.map (·.2)) (fields.map (·.2))) :
      Spells (.object written) (.object fields)

/-- A field that spells an entry out. -/
def SpellsEntry (f : Option String × Doc) (e : String × Json) : Prop :=
  f.1 = some e.1 ∧ f.2.Spells e.2

theorem spellsEntry_iff {ordered : List (Option String × Doc)} {fields : List (String × Json)} :
    List.Forall₂ SpellsEntry ordered fields ↔
      ordered.map (·.1) = fields.map (fun e => some e.1) ∧
        List.Forall₂ Doc.Spells (ordered.map (·.2)) (fields.map (·.2)) := by
  induction ordered generalizing fields with
  | nil => cases fields <;> simp
  | cons f ordered ih =>
    cases fields with
    | nil => simp
    | cons e fields => simp [SpellsEntry, ih, and_assoc, and_left_comm]

theorem Doc.spells_object_iff {doc : Doc} {fields : List (String × Json)} :
    doc.Spells (.object fields) ↔
      ∃ written ordered, doc = .object written ∧ written.Perm ordered ∧
        List.Forall₂ SpellsEntry ordered fields := by
  constructor
  · rintro ⟨⟩
    next written ordered hperm keys values =>
      exact ⟨written, ordered, rfl, hperm, spellsEntry_iff.mpr ⟨keys, values⟩⟩
  · rintro ⟨written, ordered, rfl, hperm, h⟩
    obtain ⟨keys, values⟩ := spellsEntry_iff.mp h
    exact .object hperm keys values

mutual

/-- The doubles in a value, from left to right. -/
def doubles : Json → List Binary64
  | .null | .bool _ | .string _ | .number (.integer _) => []
  | .number (.double d) => [d]
  | .array items => itemDoubles items
  | .object fields => fieldDoubles fields

/-- The doubles in the items of an array. -/
def itemDoubles : List Json → List Binary64
  | [] => []
  | item :: rest => doubles item ++ itemDoubles rest

/-- The doubles in the values of fields. -/
def fieldDoubles : List (String × Json) → List Binary64
  | [] => []
  | (_, value) :: rest => doubles value ++ fieldDoubles rest

end

mutual

/-- **A value is spelled out by the document that is written for it.** -/
theorem toDoc_spells : ∀ (v : Json), (∀ d ∈ v.doubles, d.ReadsBack) → (toDoc v).Spells v
  | .null, _ => .null
  | .bool b, _ => .bool b
  | .number (.integer n), _ => .integer n
  | .number (.double d), hd => by
    have hback : (Numeral.ofDouble d).toDouble? = some d := hd d (List.mem_singleton_self d)
    refine .double ?_
    show (Numeral.ofDouble d).toNumber? = _
    rw [Numeral.toNumber?_ofDouble, hback, Option.map_some]
  | .string s, _ => .string s
  | .array items, hd => .array (itemDocs_spell items hd)
  | .object fields, hd =>
    Doc.spells_object_iff.mpr ⟨_, _, rfl, .refl _, fieldDocs_spell fields hd⟩

theorem itemDocs_spell : ∀ (items : List Json), (∀ d ∈ itemDoubles items, d.ReadsBack) →
    List.Forall₂ Doc.Spells (itemDocs items) items
  | [], _ => .nil
  | item :: rest, hd =>
    .cons (toDoc_spells item fun d hmem => hd d (List.mem_append_left _ hmem))
      (itemDocs_spell rest fun d hmem => hd d (List.mem_append_right _ hmem))

theorem fieldDocs_spell : ∀ (fields : List (String × Json)),
    (∀ d ∈ fieldDoubles fields, d.ReadsBack) →
      List.Forall₂ SpellsEntry (fieldDocs fields) fields
  | [], _ => .nil
  | (_, value) :: rest, hd =>
    .cons ⟨rfl, toDoc_spells value fun d hmem => hd d (List.mem_append_left _ hmem)⟩
      (fieldDocs_spell rest fun d hmem => hd d (List.mem_append_right _ hmem))

end

/-! ## 2. Values -/

/-- A map is read from its entries, in whatever order these are written. -/
theorem Record.dictOf?_of_perm {α : Type} {value : Doc → Option α} {d : Dict α}
    {written ordered : List (Option String × Doc)} (hperm : written.Perm ordered)
    (h : List.Forall₂ (Entry value) ordered d.entries) :
    dictOf? value (.object written) = some d := by
  obtain ⟨entries, hread, hsame⟩ := List.perm_comp_forall₂ hperm h
  exact (dictOf?_eq_some_iff _ d).mpr
    ⟨written, entries, rfl, hread, (Dict.ofList_of_perm_entries hsame).symm⟩

/-- An object is kept as a map is read. -/
theorem Doc.keep_object (room : Nat) (written : List (Option String × Doc)) :
    (Doc.object written).keep (room + 1) =
      (Record.dictOf? (Doc.keep room) (.object written)).map ofDict := by
  let entry : Option String × Doc → Option (String × Json) := fun f => do
    let key ← f.1
    return (key, ← f.2.keep room)
  have entries : Doc.keepFields room written = written.mapM entry := by
    induction written with
    | nil => rfl
    | cons f written ih =>
      rw [Doc.keepFields, List.mapM_cons, ih]
      show _ = (f.1.bind fun key => (f.2.keep room).bind fun value => some (key, value)).bind _
      cases f.1 <;> cases f.2.keep room <;> rfl
  show (Doc.keepFields room written).map Json.fields =
    ((written.mapM entry).bind fun entries => some (Dict.ofList entries)).map ofDict
  rw [entries]
  cases written.mapM entry <;> rfl

mutual

/-- **A canonical value is kept of every document that spells it out.** -/
theorem Doc.keep_of_spells {room : Nat} :
    ∀ (v : Json) {doc : Doc}, doc.Spells v → Kept room v → doc.keep room = some v
  | .null, _, .null, _ => rfl
  | .bool _, _, .bool _, _ => rfl
  | .number (.integer n), _, .integer _, hkept => by
    show (Numeral.ofInt n).toNumber?.map Json.number = _
    rw [Numeral.toNumber?_ofInt hkept.1 hkept.2, Option.map_some]
  | .number (.double d), _, .double h, _ => congrArg (Option.map Json.number) h
  | .string _, _, .string _, _ => rfl
  | .array items, _, .array h, hkept => by
    cases room with
    | zero => exact hkept.elim
    | succ room => exact congrArg (Option.map Json.array) (Doc.keepItems_of_spells items h hkept)
  | .object fields, doc, h, hkept => by
    cases room with
    | zero => exact hkept.elim
    | succ room =>
      obtain ⟨written, ordered, rfl, hperm, hentries⟩ := Doc.spells_object_iff.mp h
      have hread := Doc.entries_of_spells fields hentries hkept.2
      rw [Doc.keep_object, Record.dictOf?_of_perm (d := ⟨fields, hkept.1⟩) hperm hread]
      rfl

theorem Doc.keepItems_of_spells {room : Nat} : ∀ (items : List Json) {docs : List Doc},
    List.Forall₂ Doc.Spells docs items → KeptItems room items →
      Doc.keepItems room docs = some items
  | [], _, .nil, _ => rfl
  | item :: rest, _, .cons hfirst hrest, hkept => by
    rw [Doc.keepItems, Doc.keep_of_spells item hfirst hkept.1,
      Doc.keepItems_of_spells rest hrest hkept.2]
    rfl

theorem Doc.entries_of_spells {room : Nat} : ∀ (fields : List (String × Json))
    {ordered : List (Option String × Doc)}, List.Forall₂ SpellsEntry ordered fields →
      KeptFields room fields → List.Forall₂ (Record.Entry (Doc.keep room)) ordered fields
  | [], _, .nil, _ => .nil
  | (_, value) :: rest, _, .cons hfirst hrest, hkept =>
    .cons ⟨hfirst.1, Doc.keep_of_spells value hfirst.2 hkept.1⟩
      (Doc.entries_of_spells rest hrest hkept.2)

end

/-! ## 3. Readers -/

namespace Record

variable {α : Type} {doc : Doc}

theorem textOf?_of_spells {s : String} (h : doc.Spells (.string s)) : textOf? doc = some s := by
  cases h with
  | string => rfl

theorem intOf?_of_spells {n : Int} (h : doc.Spells (.int n)) (hlow : -0x8000000000000000 ≤ n)
    (hhigh : n < 0x8000000000000000) : intOf? doc = some n := by
  cases h with
  | integer =>
    rw [intOf?, Numeral.toNumber?_ofInt hlow (by omega)]
    exact if_pos hhigh

theorem doubleOf?_of_spells {d : Binary64} (h : doc.Spells (.number (.double d))) :
    doubleOf? doc = some d := by
  cases h with
  | double h => rw [doubleOf?, h]

/-- What is written under each name that is looked for is spelled out there. -/
structure Spelled (names : List String) (fields : List (String × Json)) (r : Record) : Prop where
  present : ∀ n ∈ names, ∀ v, Dict.look n fields.reverse = some v →
    ∃ d, r.get? n = some d ∧ d.Spells v
  absent : ∀ n ∈ names, Dict.look n fields.reverse = none → r.get? n = none

theorem field?_of_spells {ordered : List (Option String × Doc)} {fields : List (String × Json)}
    (h : List.Forall₂ SpellsEntry ordered fields) (n : String) :
    (∀ v, Dict.look n fields = some v → ∃ d, field? n ordered = some d ∧ d.Spells v) ∧
      (Dict.look n fields = none → field? n ordered = none) := by
  induction h with
  | nil =>
    refine ⟨fun v hv => ?_, fun _ => rfl⟩
    cases hv
  | @cons f e ordered fields hfe _ ih =>
    rw [field?, Dict.look, hfe.1]
    by_cases he : e.1 = n
    · rw [if_pos he, if_pos (congrArg some he)]
      refine ⟨fun v hv => ⟨f.2, rfl, ?_⟩, fun hnone => absurd hnone (Option.some_ne_none _)⟩
      cases hv
      exact hfe.2
    · rw [if_neg he, if_neg fun h => he (Option.some.inj h)]
      exact ih

/-- **The record of fields that are spelled out**, of several with one name the last one. -/
theorem exists_spelled (names : List String) {fields : List (String × Json)}
    (h : doc.Spells (.fields fields)) :
    ∃ r, ofDoc? names doc = some r ∧ Spelled names fields r := by
  obtain ⟨written, ordered, rfl, hperm, hentries⟩ := Doc.spells_object_iff.mp h
  have keys : ordered.map (·.1) = (Dict.ofList fields).keys.map some :=
    (spellsEntry_iff.mp hentries).1.trans (List.map_map ..).symm
  have sound : Sound names ordered := by
    refine ⟨fun f hf hnone => ?_, fun n _ => ?_⟩
    · have hkey : f.1 ∈ ordered.map (·.1) := List.mem_map_of_mem hf
      rw [keys, hnone] at hkey
      simp at hkey
    · have hcount : occurrences n ordered = (ordered.map (·.1)).count (some n) := by
        rw [occurrences, List.count, List.countP_map]
        rfl
      rw [hcount, keys]
      exact List.nodup_iff_count_le_one.mp
        ((Dict.nodup_keys _).map (Option.some_injective _)) (some n)
  refine ⟨known names ordered, ?_, fun n hn v hv => ?_, fun n hn hnone => ?_⟩
  · rw [ofDoc?_perm hperm]
    exact (ofDoc?_object names ordered _).mpr ⟨sound, rfl⟩
  · rw [get?_known, if_pos hn]
    exact (field?_of_spells hentries n).1 v ((Dict.get?_ofList fields n).trans hv)
  · rw [get?_known, if_pos hn]
    exact (field?_of_spells hentries n).2 ((Dict.get?_ofList fields n).trans hnone)

section Spelled

variable {names : List String} {fields : List (String × Json)} {r : Record} {n : String}

/-- A field that is written is read. -/
theorem Spelled.read (hr : Spelled names fields r) (hn : n ∈ names) {v : Json}
    (hlook : Dict.look n fields.reverse = some v) (missing : α) {value : Doc → Option α} {a : α}
    (h : ∀ d, d.Spells v → value d = some a) : r.read n missing value = some a := by
  obtain ⟨d, hd, hspells⟩ := hr.present n hn v hlook
  rw [Record.read, hd]
  exact h d hspells

theorem Spelled.text? (hr : Spelled names fields r) (hn : n ∈ names) {s : String}
    (hlook : Dict.look n fields.reverse = some (.string s)) : r.text? n = some s :=
  hr.read hn hlook "" fun _ => textOf?_of_spells

/-- An optional text is read, whether it is written or not. -/
theorem Spelled.optionalText? (hr : Spelled names fields r) (hn : n ∈ names) {value : Option String}
    (hlook : Dict.look n fields.reverse = value.map .string) : r.optionalText? n = some value := by
  cases value with
  | none => rw [Record.optionalText?, Record.read, hr.absent n hn hlook]
  | some s =>
    refine hr.read hn hlook none fun d hd => ?_
    cases hd with
    | string => rfl

end Spelled

/-- Items that are each read back are read back as a list. -/
theorem listOf?_of_spells {item : Doc → Option α} {write : α → Json} {l : List α}
    (h : doc.Spells (.array (l.map write)))
    (hitem : ∀ a ∈ l, ∀ d : Doc, d.Spells (write a) → item d = some a) :
    listOf? item doc = some l := by
  cases h with
  | @array docs _ h =>
    show docs.mapM item = some l
    rw [List.forall₂_map_right_iff] at h
    refine (mapM_eq_some_iff _ _ _).mpr ?_
    induction h with
    | nil => exact .nil
    | cons hfirst _ ih =>
      rw [List.forall_mem_cons] at hitem
      exact .cons (hitem.1 _ hfirst) (ih hitem.2)

/-- Texts under any keys are read back as a map. -/
theorem dictOf?_textOf?_of_spells {d : Dict String} (h : doc.Spells (.ofDict (d.map .string))) :
    dictOf? textOf? doc = some d := by
  obtain ⟨written, ordered, rfl, hperm, hentries⟩ := Doc.spells_object_iff.mp h
  refine dictOf?_of_perm hperm ?_
  refine (List.forall₂_map_right_iff.mp hentries).imp fun f e hfe => ?_
  exact ⟨hfe.1, textOf?_of_spells hfe.2⟩

/-- Canonical values under any keys are read back as a map. -/
theorem dictOf?_keep_of_spells {room : Nat} {d : Dict Json} (h : doc.Spells (.ofDict d))
    (hkept : ∀ e ∈ d.entries, Kept room e.2) : dictOf? (Doc.keep room) doc = some d := by
  obtain ⟨written, ordered, rfl, hperm, hentries⟩ := Doc.spells_object_iff.mp h
  have hfields : KeptFields room d.entries := (keptFields_iff room _).mpr hkept
  exact dictOf?_of_perm hperm (Doc.entries_of_spells _ hentries hfields)

end Record

end JobKeeper.Json
