/-
  File:      JobKeeper/Proofs/Sql/Grouping.lean
  Subject:   The fields that a window count projects and the fields that it groups by.

  A field group is projected as one key and grouped by field by field, so its fields are written
  twice in different forms. Both forms are read back here by rules of their own.

  * `readFields_join`, `IsKey.readKey_eq`: a list of fields reads back, and so does a key, as long
    as no field has a comma in it;
  * `isDecimal_toString`: the text of a number from one up is its decimal digits;
  * `WindowCount.groups_what_it_projects`: what is wrong with a window count, or its text, in which
    the keys show the fields that it groups by.
-/
import JobKeeper.Proofs.Sql.Faults

namespace JobKeeper.Sql

/-! ## 1. Lists of fields -/

/-- The fields of a list that commas separate. -/
def readFields (cs : List Char) : List String := (cs.splitOn ',').map String.ofList

theorem toList_join_comma (fields : List String) :
    (Text.join "," fields).toList = [','].intercalate (fields.map String.toList) := by
  induction fields with
  | nil => rfl
  | cons field fields ih =>
    cases fields with
    | nil => simp
    | cons next fields =>
      have hcomma : ",".toList = [','] := rfl
      rw [Text.join_cons_cons, String.toList_append, String.toList_append, ih, hcomma]
      simp [List.intercalate]

/-- **Fields without commas read back** from their list. -/
theorem readFields_join {fields : List String} (hsome : fields ≠ [])
    (hfields : ∀ f ∈ fields, ',' ∉ f.toList) :
    readFields (Text.join "," fields).toList = fields := by
  have hlists : ∀ l ∈ fields.map String.toList, ',' ∉ l := by
    intro l hl
    obtain ⟨f, hf, rfl⟩ := List.mem_map.mp hl
    exact hfields f hf
  have hne : fields.map String.toList ≠ [] := by simpa using hsome
  rw [readFields, toList_join_comma, List.splitOn_intercalate ',' hlists hne, List.map_map]
  simp [Function.comp_def]

/-! ## 2. Keys -/

/-- **A text is the key of a field group**: the field itself if it is the only one, and otherwise
    all fields in order, joined by underscores. -/
inductive IsKey : List String → String → Prop where
  | only (field : String) : IsKey [field] field
  | joined {fields : List String} (h : 2 ≤ fields.length) :
      IsKey fields ("concat_ws('_'," ++ Text.join "," fields ++ ")")

theorem isKey_keyText {fields : List String} (h : fields ≠ []) :
    IsKey fields (keyText fields) := by
  rcases fields with _ | ⟨field, _ | ⟨next, fields⟩⟩
  · exact absurd rfl h
  · exact .only field
  · exact .joined (by simp)

/-- What the joined fields of a key stand behind. -/
def keyStart : List Char := "concat_ws('_',".toList

/-- The fields of a key: those between the brackets if it joins fields, and otherwise itself. -/
def readKey (key : String) : List String :=
  if keyStart <+: key.toList then readFields (key.toList.drop keyStart.length).dropLast
  else [key]

/-- **A key shows its fields** if none of them has a comma in it. -/
theorem IsKey.readKey_eq {fields : List String} {key : String} (h : IsKey fields key)
    (hfields : ∀ f ∈ fields, ',' ∉ f.toList) : readKey key = fields := by
  cases h with
  | only =>
    -- What joins fields has a comma before the first of them.
    have hcomma : ',' ∈ keyStart := by decide
    have hfield : ',' ∉ key.toList := hfields key (List.mem_singleton_self key)
    have hnot : ¬ keyStart <+: key.toList := fun hstart => hfield (hstart.subset hcomma)
    rw [readKey, if_neg hnot]
  | joined hmany =>
    have hsome : fields ≠ [] := List.ne_nil_of_length_pos (by omega)
    have hbracket : ")".toList = [')'] := rfl
    have hlist : ("concat_ws('_'," ++ Text.join "," fields ++ ")").toList =
        keyStart ++ ((Text.join "," fields).toList ++ [')']) := by
      rw [String.toList_append, String.toList_append, hbracket, List.append_assoc]
      rfl
    rw [readKey, hlist, if_pos (List.prefix_append _ _), List.drop_left, List.dropLast_concat]
    exact readFields_join hsome hfields

/-- A key that joins two fields, and a field that is only named like the function that joins. -/
example : readKey "concat_ws('_',user,host)" = ["user", "host"] ∧
    readKey "concat_ws" = ["concat_ws"] := by
  decide +kernel

/-! ## 3. Numbers -/

/-- **A text is the decimal text of a number**: digits that begin with no zero and have the number
    as their value. -/
structure IsDecimal (n : Int) (text : String) : Prop where
  digits : ∀ c ∈ text.toList, c.isDigit = true
  head : text.toList.head? ≠ some '0'
  value : (Nat.ofDigitChars 10 text.toList 0 : Int) = n

/-- The digits of a number from one up begin with no zero. -/
theorem head?_toDigits {n : Nat} (h : 0 < n) : (Nat.toDigits 10 n).head? ≠ some '0' := by
  induction n using Nat.strongRecOn with
  | ind n ih =>
    rw [Nat.toDigits_eq_if (by decide)]
    by_cases hsmall : n < 10
    · have hdigit : ∀ d < 10, 0 < d → d.digitChar ≠ '0' := by decide
      rw [if_pos hsmall]
      intro hhead
      exact hdigit n hsmall h (Option.some.inj hhead)
    · have hhead := ih (n / 10) (by omega) (by omega)
      rw [if_neg hsmall]
      cases hdigits : Nat.toDigits 10 (n / 10) with
      | nil => exact absurd hdigits Nat.toDigits_ne_nil
      | cons c rest =>
        rw [hdigits] at hhead
        exact hhead

theorem isDecimal_toString {n : Int} (h : 1 ≤ n) : IsDecimal n (toString n) := by
  obtain ⟨m, rfl⟩ := Int.eq_ofNat_of_zero_le (show 0 ≤ n by omega)
  have hdigits : (toString (m : Int)).toList = Nat.toDigits 10 m := Nat.toList_repr
  refine ⟨?_, ?_, ?_⟩
  · intro c hc
    rw [hdigits] at hc
    exact Nat.isDigit_of_mem_toDigits (by decide) (by decide) hc
  · rw [hdigits]
    exact head?_toDigits (by omega)
  · rw [hdigits, Nat.ofDigitChars_ten_toDigits]

/-! ## 4. Window counts -/

/-- The text of a window count by its keys and its fields. -/
theorem WindowCount.text_eq_join (q : WindowCount) :
    q.text = "SELECT " ++ Text.join "," ["window_start", "window_end", "COUNT(*) AS cnt",
        keyText q.entities ++ " AS entities", keyText q.attributes ++ " AS attributes"]
      ++ " FROM TABLE(TUMBLE(TABLE " ++ q.table ++ ", DESCRIPTOR(" ++ q.timestampField
      ++ "), INTERVAL '" ++ toString q.minutes ++ "' MINUTES)) GROUP BY "
      ++ Text.join "," (["window_start", "window_end"] ++ q.entities ++ q.attributes) := by
  have hselect : q.selectList.map Projected.text = ["window_start", "window_end", "COUNT(*) AS cnt",
      keyText q.entities ++ " AS entities", keyText q.attributes ++ " AS attributes"] := by
    simp only [selectList, Projected.text, List.map_cons, List.map_nil, String.append_assoc]
    rfl
  delta text
  rw [hselect]
  rfl

/-- **A window count groups by the fields that it projects.** It is refused for the first of these
    that holds and for nothing else: a blank table, a blank timestamp field, less than one minute,
    no entity, no attribute. Otherwise it selects the window, the count, and a key for the entities
    and one for the attributes, and groups by the window and by each field in order, as often as it
    is given; the length of the window stands there in decimal digits. If no field has a comma in
    it, what the two keys show is what the rows are grouped by. -/
theorem WindowCount.groups_what_it_projects (q : WindowCount) :
    errorOf? q.render =
      (if Text.isBlank q.table then some (.missing "source table")
      else if Text.isBlank q.timestampField then some (.missing "window timestamp field")
      else if q.minutes < 1 then some (.invalidWindow q.minutes)
      else if q.entities.isEmpty then some (.emptyFieldGroup "entities")
      else if q.attributes.isEmpty then some (.emptyFieldGroup "attributes")
      else none) ∧
    ∀ sql, q.render = .ok sql → ∃ entities attributes minutes groups : String,
      sql = "SELECT " ++ Text.join "," ["window_start", "window_end", "COUNT(*) AS cnt",
          entities ++ " AS entities", attributes ++ " AS attributes"]
        ++ " FROM TABLE(TUMBLE(TABLE " ++ q.table ++ ", DESCRIPTOR(" ++ q.timestampField
        ++ "), INTERVAL '" ++ minutes ++ "' MINUTES)) GROUP BY " ++ groups ∧
      IsKey q.entities entities ∧ IsKey q.attributes attributes ∧ IsDecimal q.minutes minutes ∧
      groups = Text.join "," (["window_start", "window_end"] ++ q.entities ++ q.attributes) ∧
      ((∀ f ∈ q.entities ++ q.attributes, ',' ∉ f.toList) →
        readFields groups.toList =
          ["window_start", "window_end"] ++ readKey entities ++ readKey attributes) := by
  refine ⟨q.errorOf?_render, fun sql hsql => ?_⟩
  obtain ⟨_, _, hminutes, hentities, hattributes, rfl⟩ := (q.render_eq_ok_iff sql).mp hsql
  have hentityKey : IsKey q.entities (keyText q.entities) := isKey_keyText hentities
  have hattributeKey : IsKey q.attributes (keyText q.attributes) := isKey_keyText hattributes
  refine ⟨keyText q.entities, keyText q.attributes, toString q.minutes, _, q.text_eq_join,
    hentityKey, hattributeKey, isDecimal_toString hminutes, rfl, fun hfields => ?_⟩
  have hentity : ∀ f ∈ q.entities, ',' ∉ f.toList :=
    fun f hf => hfields f (List.mem_append_left _ hf)
  have hattribute : ∀ f ∈ q.attributes, ',' ∉ f.toList :=
    fun f hf => hfields f (List.mem_append_right _ hf)
  have hgroups : ∀ f ∈ ["window_start", "window_end"] ++ q.entities ++ q.attributes,
      ',' ∉ f.toList := by
    have hwindow : ∀ f ∈ ["window_start", "window_end"], ',' ∉ f.toList := by decide
    rw [List.append_assoc]
    exact List.forall_mem_append.mpr ⟨hwindow, hfields⟩
  rw [hentityKey.readKey_eq hentity, hattributeKey.readKey_eq hattribute]
  exact readFields_join (by simp) hgroups

/-- A field that is given twice, and the longest window that 64 bits can hold. -/
theorem WindowCount.groups_what_it_projects_longest_window :
    let q : WindowCount :=
      { table := "behavior_b1", entities := ["user", "host", "user"], attributes := ["action"],
        timestampField := "converted_ts", minutes := 9223372036854775807 }
    let sql := "SELECT window_start,window_end,COUNT(*) AS cnt,"
      ++ "concat_ws('_',user,host,user) AS entities,action AS attributes "
      ++ "FROM TABLE(TUMBLE(TABLE behavior_b1, DESCRIPTOR(converted_ts), "
      ++ "INTERVAL '9223372036854775807' MINUTES)) "
      ++ "GROUP BY window_start,window_end,user,host,user,action"
    q.render = .ok sql ∧ (∀ f ∈ q.entities ++ q.attributes, ',' ∉ f.toList) ∧
      ∃ entities attributes minutes groups : String,
        sql = "SELECT " ++ Text.join "," ["window_start", "window_end", "COUNT(*) AS cnt",
            entities ++ " AS entities", attributes ++ " AS attributes"]
          ++ " FROM TABLE(TUMBLE(TABLE " ++ q.table ++ ", DESCRIPTOR(" ++ q.timestampField
          ++ "), INTERVAL '" ++ minutes ++ "' MINUTES)) GROUP BY " ++ groups ∧
        IsDecimal 9223372036854775807 minutes ∧
        readFields groups.toList =
          ["window_start", "window_end"] ++ readKey entities ++ readKey attributes := by
  intro q sql
  have hrender : q.render = .ok sql := by decide +kernel
  have hfields : ∀ f ∈ q.entities ++ q.attributes, ',' ∉ f.toList := by decide
  obtain ⟨entities, attributes, minutes, groups, htext, _, _, hminutes, _, hread⟩ :=
    q.groups_what_it_projects.2 sql hrender
  exact ⟨hrender, hfields, entities, attributes, minutes, groups, htext, hminutes, hread hfields⟩

end JobKeeper.Sql
