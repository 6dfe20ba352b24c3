/-
  File:      JobKeeper/Proofs/Json/Records.lean
  Subject:   What the record of a document depends on.

  A record is made for a list of names. It keeps the documents of the fields that have one of these
  names, so what else an object holds and in which order shows only in whether there is a record at
  all.

  * `Record.Sound`, `ofDoc?_object`: when an object has a record, and which one;
  * `ofDoc?_perm`, `ofDoc?_unknown`: fields in another order, and fields without one of the names;
  * `Differ`: two documents whose records are the same but for one field, by name
    (`differ_field`), by position (`differ_position`) or by leaving it out (`differ_absent`);
  * `dictOf?_eq_some_iff`, `dictOf?_perm`: what a map is read from, and that the order of different
    keys does not matter.
-/
import JobKeeper.Json.Record
import JobKeeper.Proofs.Dict
import Mathlib.Data.List.Perm.Basic

namespace JobKeeper.Json.Record

variable {names : List String} {fields fields' : List (Option String × Doc)} {n : String}

/-! ## 1. Fields by name -/

theorem occurrences_cons (n : String) (f : Option String × Doc)
    (fields : List (Option String × Doc)) :
    occurrences n (f :: fields) = occurrences n fields + if f.1 = some n then 1 else 0 := by
  simp [occurrences, List.countP_cons]

theorem occurrences_perm (n : String) (h : fields.Perm fields') :
    occurrences n fields = occurrences n fields' := h.countP_eq _

theorem occurrences_append (n : String) (fields fields' : List (Option String × Doc)) :
    occurrences n (fields ++ fields') = occurrences n fields + occurrences n fields' :=
  List.countP_append

/-- A name without a field. -/
theorem field?_eq_none (h : ∀ f ∈ fields, f.1 ≠ some n) : field? n fields = none := by
  induction fields with
  | nil => rfl
  | cons f fields ih =>
    obtain ⟨hf, hfields⟩ := List.forall_mem_cons.mp h
    rw [field?, if_neg hf, ih hfields]

theorem forall_of_occurrences_eq_zero (h : occurrences n fields = 0) :
    ∀ f ∈ fields, f.1 ≠ some n := by
  intro f hf hn
  have hno := List.countP_eq_zero.mp h f hf
  simp [hn] at hno

/-- A field that occurs once is found wherever it stands. -/
theorem field?_eq_some_iff (honce : occurrences n fields ≤ 1) (d : Doc) :
    field? n fields = some d ↔ (some n, d) ∈ fields := by
  induction fields with
  | nil => simp [field?]
  | cons f fields ih =>
    obtain ⟨k, d'⟩ := f
    rw [occurrences_cons] at honce
    by_cases hk : k = some n
    · subst hk
      simp only [if_true] at honce
      have absent : (some n, d) ∉ fields := fun hd =>
        forall_of_occurrences_eq_zero (by omega) _ hd rfl
      simp [field?, absent, eq_comm]
    · simp only [if_neg hk] at honce
      simp [field?, hk, ih honce, Ne.symm hk]

theorem field?_perm (h : fields.Perm fields') (honce : occurrences n fields ≤ 1) :
    field? n fields = field? n fields' := by
  refine Option.ext fun d => ?_
  rw [field?_eq_some_iff honce, field?_eq_some_iff (occurrences_perm n h ▸ honce)]
  exact h.mem_iff

/-! ## 2. Objects -/

/-- The fields of an object that has a record. -/
structure Sound (names : List String) (fields : List (Option String × Doc)) : Prop where
  /-- Every key is text. -/
  keyed : ∀ f ∈ fields, f.1 ≠ none
  /-- No known field is given twice. -/
  once : ∀ n ∈ names, occurrences n fields ≤ 1

/-- The known fields in the order of the names. -/
def known (names : List String) (fields : List (Option String × Doc)) : Record :=
  names.filterMap fun n => (field? n fields).map fun d => (n, d)

/-- **An object has a record if its keys are text and no known field is given twice.** -/
theorem ofDoc?_object (names : List String) (fields : List (Option String × Doc)) (r : Record) :
    ofDoc? names (.object fields) = some r ↔ Sound names fields ∧ r = known names fields := by
  have sound : (fields.any (fun f => f.1.isNone) || names.any (fun n => 1 < occurrences n fields))
      = false ↔ Sound names fields := by
    rw [Bool.or_eq_false_iff, List.any_eq_false, List.any_eq_false]
    constructor
    · rintro ⟨hkeyed, honce⟩
      exact ⟨fun f hf => by simpa using hkeyed f hf, fun n hn => by simpa using honce n hn⟩
    · rintro ⟨hkeyed, honce⟩
      exact ⟨fun f hf => by simpa using hkeyed f hf, fun n hn => by simpa using honce n hn⟩
  rw [ofDoc?, ← sound]
  split
  next h => simp [h]
  next h =>
    rw [Bool.not_eq_true] at h
    simp [h, known, eq_comm]

theorem ofDoc?_object_eq_none (names : List String) (fields : List (Option String × Doc)) :
    ofDoc? names (.object fields) = none ↔ ¬ Sound names fields := by
  constructor
  · intro hnone hsound
    rw [(ofDoc?_object names fields _).mpr ⟨hsound, rfl⟩] at hnone
    cases hnone
  · intro hnot
    rw [Option.eq_none_iff_forall_ne_some]
    exact fun r hr => hnot ((ofDoc?_object names fields r).mp hr).1

theorem known_cons (m : String) (names : List String) (fields : List (Option String × Doc)) :
    known (m :: names) fields =
      ((field? m fields).map fun d => (m, d)).toList ++ known names fields := by
  cases h : field? m fields <;> simp [known, h]

/-- What is kept under a name is the document of its field. -/
theorem get?_known (n : String) (names : List String) (fields : List (Option String × Doc)) :
    (known names fields).get? n = if n ∈ names then field? n fields else none := by
  induction names with
  | nil => rfl
  | cons m names ih =>
    rw [known_cons]
    cases hd : field? m fields with
    | none =>
      show (known names fields).get? n = _
      rw [ih]
      by_cases hm : n = m
      · simp [hm, hd]
      · simp [hm]
    | some d =>
      show (if m = n then some d else (known names fields).get? n) = _
      rw [ih]
      by_cases hm : n = m
      · simp [hm, hd]
      · simp [hm, Ne.symm hm]

theorem Sound.perm (h : fields.Perm fields') (hs : Sound names fields) : Sound names fields' :=
  ⟨fun f hf => hs.keyed f (h.mem_iff.mpr hf), fun n hn => occurrences_perm n h ▸ hs.once n hn⟩

/-- **The order of the fields does not matter.** -/
theorem ofDoc?_perm (h : fields.Perm fields') :
    ofDoc? names (.object fields) = ofDoc? names (.object fields') := by
  refine Option.ext fun r => ?_
  rw [ofDoc?_object, ofDoc?_object]
  have same : Sound names fields → known names fields = known names fields' := fun hs =>
    List.filterMap_congr fun n hn => by rw [field?_perm h (hs.once n hn)]
  constructor
  · rintro ⟨hs, rfl⟩
    exact ⟨hs.perm h, same hs⟩
  · rintro ⟨hs, rfl⟩
    exact ⟨hs.perm h.symm, (same (hs.perm h.symm)).symm⟩

/-- **A field without one of the names does not matter**, if its key is text. -/
theorem ofDoc?_unknown {key : String} (hkey : key ∉ names) (d : Doc)
    (fields : List (Option String × Doc)) :
    ofDoc? names (.object ((some key, d) :: fields)) = ofDoc? names (.object fields) := by
  have other : ∀ n ∈ names, (some key : Option String) ≠ some n := fun n hn h =>
    hkey (Option.some.inj h ▸ hn)
  have sound : Sound names ((some key, d) :: fields) ↔ Sound names fields := by
    constructor
    · intro hs
      refine ⟨fun f hf => hs.keyed f (List.mem_cons_of_mem _ hf), fun n hn => ?_⟩
      have honce := hs.once n hn
      rwa [occurrences_cons, if_neg (other n hn)] at honce
    · intro hs
      refine ⟨List.forall_mem_cons.mpr ⟨nofun, hs.keyed⟩, fun n hn => ?_⟩
      rw [occurrences_cons, if_neg (other n hn)]
      exact hs.once n hn
  have same : known names ((some key, d) :: fields) = known names fields :=
    List.filterMap_congr fun n hn => by rw [field?, if_neg (other n hn)]
  refine Option.ext fun r => ?_
  rw [ofDoc?_object, ofDoc?_object, sound, same]

/-! ## 3. Documents that differ in one field -/

/-- **Two documents whose records are the same but for one field**, or that have no record. In the
    one record the field is `o` and in the other one `o'`. -/
def Differ (names : List String) (n : String) (o o' : Option Doc) (doc doc' : Doc) : Prop :=
  (ofDoc? names doc = none ∧ ofDoc? names doc' = none) ∨
    ∃ r r', ofDoc? names doc = some r ∧ ofDoc? names doc' = some r' ∧
      r.get? n = o ∧ r'.get? n = o' ∧ ∀ m ∈ names, m ≠ n → r.get? m = r'.get? m

/-- Two objects that are sound or not together. -/
theorem differ_object (hn : n ∈ names) {o o' : Option Doc}
    (hsound : Sound names fields ↔ Sound names fields')
    (hfield : Sound names fields → field? n fields = o ∧ field? n fields' = o')
    (hothers : ∀ m, m ≠ n → field? m fields = field? m fields') :
    Differ names n o o' (.object fields) (.object fields') := by
  by_cases hs : Sound names fields
  · obtain ⟨ho, ho'⟩ := hfield hs
    refine Or.inr ⟨_, _, (ofDoc?_object names fields _).mpr ⟨hs, rfl⟩,
      (ofDoc?_object names fields' _).mpr ⟨hsound.mp hs, rfl⟩, ?_, ?_, fun m hm hne => ?_⟩
    · rw [get?_known, if_pos hn, ho]
    · rw [get?_known, if_pos hn, ho']
    · rw [get?_known, get?_known, hothers m hne]
  · exact Or.inl ⟨(ofDoc?_object_eq_none names fields).mpr hs,
      (ofDoc?_object_eq_none names fields').mpr fun hs' => hs (hsound.mpr hs')⟩

theorem field?_append_cons_of_ne {m : String} (hm : m ≠ n)
    (before after : List (Option String × Doc)) (d : Doc) :
    field? m (before ++ (some n, d) :: after) = field? m (before ++ after) := by
  induction before with
  | nil =>
    show (if some n = some m then some d else field? m after) = _
    rw [if_neg fun h => hm (Option.some.inj h).symm]
    rfl
  | cons f before ih =>
    show (if f.1 = some m then some f.2 else field? m (before ++ (some n, d) :: after)) =
      if f.1 = some m then some f.2 else field? m (before ++ after)
    rw [ih]

/-- A field that is given as another document. -/
theorem differ_field (hn : n ∈ names) (before after : List (Option String × Doc)) (d d' : Doc) :
    Differ names n (some d) (some d') (.object (before ++ (some n, d) :: after))
      (.object (before ++ (some n, d') :: after)) := by
  have counts : ∀ m (e : Doc), occurrences m (before ++ (some n, e) :: after) =
      occurrences m before + (occurrences m after + if some n = some m then 1 else 0) := by
    intro m e
    rw [occurrences_append, occurrences_cons]
  have sound : ∀ e e' : Doc, Sound names (before ++ (some n, e) :: after) →
      Sound names (before ++ (some n, e') :: after) := by
    intro e e' hs
    refine ⟨fun f hf => ?_, fun m hm => ?_⟩
    · rcases List.mem_append.mp hf with hf | hf
      · exact hs.keyed f (List.mem_append_left _ hf)
      · rcases List.mem_cons.mp hf with rfl | hf
        · exact nofun
        · exact hs.keyed f (List.mem_append_right _ (List.mem_cons_of_mem _ hf))
    · rw [counts m e', ← counts m e]
      exact hs.once m hm
  refine differ_object hn ⟨sound d d', sound d' d⟩ (fun hs => ⟨?_, ?_⟩) fun m hm => ?_
  · exact (field?_eq_some_iff (hs.once n hn) d).mpr
      (List.mem_append_right _ List.mem_cons_self)
  · exact (field?_eq_some_iff ((sound d d' hs).once n hn) d').mpr
      (List.mem_append_right _ List.mem_cons_self)
  · rw [field?_append_cons_of_ne hm, field?_append_cons_of_ne hm]

/-- A field that is left out. -/
theorem differ_absent (hn : n ∈ names) (habsent : ∀ f ∈ fields, f.1 ≠ some n) (d : Doc) :
    Differ names n none (some d) (.object fields) (.object ((some n, d) :: fields)) := by
  refine differ_object hn ⟨fun hs => ?_, fun hs => ?_⟩ (fun _ => ⟨?_, ?_⟩) fun m hm => ?_
  · refine ⟨List.forall_mem_cons.mpr ⟨nofun, hs.keyed⟩, fun m hm => ?_⟩
    rw [occurrences_cons]
    split
    next h =>
      have hzero : occurrences m fields = 0 :=
        List.countP_eq_zero.mpr fun f hf => by simpa [← Option.some.inj h] using habsent f hf
      omega
    next => exact hs.once m hm
  · refine ⟨fun f hf => hs.keyed f (List.mem_cons_of_mem _ hf), fun m hm => ?_⟩
    have honce := hs.once m hm
    rw [occurrences_cons] at honce
    omega
  · exact field?_eq_none habsent
  · rw [field?, if_pos rfl]
  · rw [field?, if_neg fun h => hm (Option.some.inj h).symm]

/-! ## 4. Fields by position -/

theorem get?_zip (hnames : names.Nodup) {items : List Doc} {i : Nat} (hi : names[i]? = some n) :
    Record.get? (names.zip items) n = items[i]? := by
  induction names generalizing items i with
  | nil => cases hi
  | cons m names ih =>
    obtain ⟨hm, hrest⟩ := List.nodup_cons.mp hnames
    cases items with
    | nil => rfl
    | cons d items =>
      show (if m = n then some d else Record.get? (names.zip items) n) = _
      cases i with
      | zero =>
        cases hi
        rw [if_pos rfl]
        rfl
      | succ i =>
        have hmem : n ∈ names := List.mem_of_getElem? hi
        have hne : m ≠ n := by
          rintro rfl
          exact hm hmem
        rw [if_neg hne]
        exact ih hrest hi

/-- At every other name a changed item does not show. -/
theorem get?_zip_of_ne {before after : List Doc} (hi : names[before.length]? = some n) {m : String}
    (hm : m ≠ n) (d d' : Doc) :
    Record.get? (names.zip (before ++ d :: after)) m =
      Record.get? (names.zip (before ++ d' :: after)) m := by
  induction before generalizing names with
  | nil =>
    cases names with
    | nil => rfl
    | cons m' names =>
      obtain rfl : m' = n := Option.some.inj hi
      show (if m' = m then some d else Record.get? (names.zip after) m) =
        if m' = m then some d' else Record.get? (names.zip after) m
      rw [if_neg (Ne.symm hm), if_neg (Ne.symm hm)]
  | cons b before ih =>
    cases names with
    | nil => rfl
    | cons m' names =>
      show (if m' = m then some b else Record.get? (names.zip (before ++ d :: after)) m) =
        if m' = m then some b else Record.get? (names.zip (before ++ d' :: after)) m
      rw [ih hi]

/-- A field that is given by its position as another document. -/
theorem differ_position (hnames : names.Nodup) {before : List Doc}
    (hi : names[before.length]? = some n) (after : List Doc) (d d' : Doc) :
    Differ names n (some d) (some d') (.array (before ++ d :: after))
      (.array (before ++ d' :: after)) := by
  have hlength : (before ++ d' :: after).length = (before ++ d :: after).length := by simp
  by_cases htoo : names.length < (before ++ d :: after).length
  · exact Or.inl ⟨if_pos htoo, if_pos (hlength ▸ htoo)⟩
  · refine Or.inr ⟨_, _, if_neg htoo, if_neg (hlength ▸ htoo), ?_, ?_,
      fun m _ hm => get?_zip_of_ne hi hm d d'⟩
    · rw [get?_zip hnames hi]
      simp
    · rw [get?_zip hnames hi]
      simp

/-! ## 5. Readers -/

theorem textOf?_eq_some_iff (d : Doc) (s : String) : textOf? d = some s ↔ d = .string (some s) := by
  cases d with
  | string text => simp [textOf?]
  | _ => simp [textOf?]

variable {α : Type} {value : Doc → Option α}

/-- An entry as it is written, and as it is read. -/
def Entry (value : Doc → Option α) (f : Option String × Doc) (e : String × α) : Prop :=
  f.1 = some e.1 ∧ value f.2 = some e.2

/-- Things are read one by one. -/
theorem mapM_eq_some_iff {β γ : Type} (f : β → Option γ) (l : List β) (m : List γ) :
    l.mapM f = some m ↔ List.Forall₂ (fun a b => f a = some b) l m := by
  induction l generalizing m with
  | nil => simp [List.forall₂_nil_left_iff, eq_comm]
  | cons a l ih =>
    rw [List.mapM_cons, List.forall₂_cons_left_iff]
    simp only [Option.bind_eq_bind, Option.bind_eq_some_iff, ih]
    constructor
    · rintro ⟨b, hb, m', hm', h⟩
      cases h
      exact ⟨b, m', hb, hm', rfl⟩
    · rintro ⟨b, m', hb, hm', rfl⟩
      exact ⟨b, hb, m', hm', rfl⟩

/-- **A map is read from an object, entry by entry.** -/
theorem dictOf?_eq_some_iff (doc : Doc) (d : Dict α) :
    dictOf? value doc = some d ↔
      ∃ fields entries, doc = .object fields ∧ List.Forall₂ (Entry value) fields entries ∧
        d = Dict.ofList entries := by
  have entry : ∀ (f : Option String × Doc) (e : String × α),
      (do let key ← f.1; return (key, ← value f.2) : Option (String × α)) = some e ↔
        Entry value f e := by
    intro f e
    simp only [Option.bind_eq_bind, Option.bind_eq_some_iff, Entry]
    constructor
    · rintro ⟨key, hkey, v, hv, h⟩
      cases h
      exact ⟨hkey, hv⟩
    · rintro ⟨hkey, hv⟩
      exact ⟨e.1, hkey, e.2, hv, rfl⟩
  cases doc with
  | object fields =>
    constructor
    · intro h
      obtain ⟨entries, hentries, hd⟩ := Option.bind_eq_some_iff.mp h
      cases hd
      have hread := (mapM_eq_some_iff _ _ _).mp hentries
      exact ⟨fields, entries, rfl, hread.imp fun f e => (entry f e).mp, rfl⟩
    · rintro ⟨_, entries, hfields, h, rfl⟩
      cases hfields
      have hread := (mapM_eq_some_iff _ _ _).mpr (h.imp fun f e => (entry f e).mpr)
      exact Option.bind_eq_some_iff.mpr ⟨entries, hread, rfl⟩
  | _ => simp [dictOf?]

/-- The keys are read as they are written. -/
theorem keys_of_entries {entries : List (String × α)}
    (h : List.Forall₂ (Entry value) fields entries) :
    fields.map (·.1) = (entries.map (·.1)).map some := by
  induction h with
  | nil => rfl
  | cons hfe _ ih => simp [hfe.1, ih]

/-- **The order of entries with different keys does not matter.** -/
theorem dictOf?_perm (h : fields.Perm fields') (hkeys : (fields.map (·.1)).Nodup) :
    dictOf? value (.object fields) = dictOf? value (.object fields') := by
  have reordered : ∀ {fs fs' : List (Option String × Doc)} {d : Dict α}, fs.Perm fs' →
      (fs.map (·.1)).Nodup → dictOf? value (.object fs) = some d →
      dictOf? value (.object fs') = some d := by
    intro fs fs' d hperm hfs hd
    obtain ⟨_, entries, hfields, hread, rfl⟩ := (dictOf?_eq_some_iff _ d).mp hd
    cases hfields
    obtain ⟨entries', hread', hsame⟩ := List.perm_comp_forall₂ hperm.symm hread
    refine (dictOf?_eq_some_iff _ _).mpr ⟨fs', entries', rfl, hread', ?_⟩
    refine (Dict.ofList_perm hsame ?_).symm
    have hkeys' := (hperm.map (·.1)).nodup_iff.mp hfs
    rw [keys_of_entries hread'] at hkeys'
    exact hkeys'.of_map _
  refine Option.ext fun d => ⟨reordered h hkeys, reordered h.symm ?_⟩
  exact (h.map (·.1)).nodup_iff.mp hkeys

end JobKeeper.Json.Record
