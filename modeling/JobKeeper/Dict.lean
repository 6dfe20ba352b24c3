/-
  File:      JobKeeper/Dict.lean
  Subject:   Finite maps from texts to values, kept in strictly ascending order of the keys.

  The order is that of the code points, which is also the order of the UTF-8 bytes. A map has one
  representation: `ext` says that two maps with the same look-ups are equal, so the order in which
  entries were put in cannot show anywhere.
-/
namespace JobKeeper

/-! ## 1. Entries in key order -/

namespace Dict

/-- Entries in strictly ascending order of their keys; no key occurs twice. -/
abbrev Ascending {α : Type u} (entries : List (String × α)) : Prop :=
  entries.Pairwise fun a b => a.1 < b.1

/-- Two texts of which neither comes before the other are the same text. -/
theorem eq_of_not_lt {a b : String} (h : ¬ a < b) (h' : ¬ b < a) : a = b :=
  String.le_antisymm (String.not_lt.mp h') (String.not_lt.mp h)

/-- Puts `v` at `k`: a present entry is replaced in its place, a new one goes where the order of
    the keys wants it. -/
def put {α : Type u} (k : String) (v : α) : List (String × α) → List (String × α)
  | [] => [(k, v)]
  | (k', v') :: rest =>
    if k < k' then (k, v) :: (k', v') :: rest
    else if k' < k then (k', v') :: put k v rest
    else (k, v) :: rest

/-- The value at a key of a list of entries, the first one if there are several. -/
def look {α : Type u} (k : String) : List (String × α) → Option α
  | [] => none
  | (k', v) :: rest => if k' = k then some v else look k rest

/-- Putting an entry adds no key but its own. -/
theorem mem_put {α : Type u} {k : String} {v : α} {entries : List (String × α)}
    {e : String × α} (h : e ∈ put k v entries) : e = (k, v) ∨ e ∈ entries := by
  induction entries with
  | nil => simpa [put] using h
  | cons hd rest ih =>
    obtain ⟨k', v'⟩ := hd
    simp only [put] at h
    split at h
    · simpa using h
    · split at h
      · rcases List.mem_cons.mp h with h | h
        · exact Or.inr (by simp [h])
        · rcases ih h with h | h
          · exact Or.inl h
          · exact Or.inr (List.mem_cons_of_mem _ h)
      · rcases List.mem_cons.mp h with h | h
        · exact Or.inl h
        · exact Or.inr (List.mem_cons_of_mem _ h)

/-- Putting keeps the order. -/
theorem ascending_put {α : Type u} (k : String) (v : α) {entries : List (String × α)}
    (h : Ascending entries) : Ascending (put k v entries) := by
  induction entries with
  | nil => simp [put, Ascending]
  | cons hd rest ih =>
    obtain ⟨k', v'⟩ := hd
    obtain ⟨hhd, hrest⟩ := List.pairwise_cons.mp h
    simp only [put]
    split
    · rename_i hlt
      refine List.pairwise_cons.mpr ⟨?_, h⟩
      intro e he
      rcases List.mem_cons.mp he with rfl | he
      · exact hlt
      · exact String.lt_trans hlt (hhd e he)
    · split
      · rename_i hlt
        refine List.pairwise_cons.mpr ⟨?_, ih hrest⟩
        intro e he
        rcases mem_put he with rfl | he
        · exact hlt
        · exact hhd e he
      · rename_i h1 h2
        have : k = k' := eq_of_not_lt h1 h2
        subst this
        exact List.pairwise_cons.mpr ⟨hhd, hrest⟩

end Dict

/-! ## 2. The type -/

/-- A finite map from texts to values of `α`. -/
structure Dict (α : Type u) where
  entries : List (String × α)
  ascending : Dict.Ascending entries

namespace Dict

variable {α : Type u} {β : Type v}

theorem entries_injective {d e : Dict α} (h : d.entries = e.entries) : d = e := by
  cases d
  cases e
  simp only at h
  subst h
  rfl

instance [DecidableEq α] : DecidableEq (Dict α) := fun d e =>
  decidable_of_iff (d.entries = e.entries) ⟨entries_injective, fun h => h ▸ rfl⟩

/-- The map without entries. -/
def empty : Dict α := ⟨[], List.Pairwise.nil⟩

instance : EmptyCollection (Dict α) := ⟨empty⟩
instance : Inhabited (Dict α) := ⟨empty⟩

/-- The value at a key. -/
def get? (d : Dict α) (k : String) : Option α := look k d.entries

/-- Whether a key has a value. -/
def contains (d : Dict α) (k : String) : Bool := (d.get? k).isSome

/-- The map with `v` at `k`, whatever stood there before. -/
def insert (d : Dict α) (k : String) (v : α) : Dict α :=
  ⟨put k v d.entries, ascending_put k v d.ascending⟩

/-- The map with the entries that pass the test. -/
def filter (d : Dict α) (keep : String → α → Bool) : Dict α :=
  ⟨d.entries.filter fun e => keep e.1 e.2, d.ascending.filter _⟩

/-- The map without the entry at a key. -/
def erase (d : Dict α) (k : String) : Dict α := d.filter fun k' _ => k' != k

/-- The map with each value replaced and every key kept. -/
def map (d : Dict α) (f : α → β) : Dict β :=
  ⟨d.entries.map fun e => (e.1, f e.2),
   List.pairwise_map.mpr d.ascending⟩

/-- The keys in ascending order. -/
def keys (d : Dict α) : List String := d.entries.map (·.1)

/-- The values in ascending order of their keys. -/
def values (d : Dict α) : List α := d.entries.map (·.2)

/-- How many entries there are. -/
def size (d : Dict α) : Nat := d.entries.length

/-- Whether there is no entry. -/
def isEmpty (d : Dict α) : Bool := d.entries.isEmpty

/-- The map of a list of entries; of several entries with one key the last one counts. -/
def ofList (l : List (String × α)) : Dict α := l.foldl (fun d e => d.insert e.1 e.2) empty

/-! ## 3. One look-up equation per operation -/

@[simp] theorem get?_empty (k : String) : (empty : Dict α).get? k = none := rfl

theorem look_put (k k' : String) (v : α) (entries : List (String × α)) :
    look k' (put k v entries) = if k = k' then some v else look k' entries := by
  induction entries with
  | nil => simp [put, look]
  | cons hd rest ih =>
    obtain ⟨a, b⟩ := hd
    simp only [put]
    split
    · simp [look]
    · split
      · rename_i h1 h2
        simp only [look, ih]
        by_cases ha : a = k' <;> by_cases hk : k = k' <;> simp [ha, hk]
        subst ha hk
        exact absurd h2 (String.lt_irrefl _)
      · rename_i h1 h2
        have : k = a := eq_of_not_lt h1 h2
        subst this
        by_cases hk : k = k' <;> simp [look, hk]

/-- An inserted value is found at its key and every other look-up is as before. -/
theorem get?_insert (d : Dict α) (k k' : String) (v : α) :
    (d.insert k v).get? k' = if k = k' then some v else d.get? k' :=
  look_put k k' v d.entries

theorem look_eq_none_of_lt {entries : List (String × α)} {k : String}
    (h : ∀ e ∈ entries, k < e.1) : look k entries = none := by
  induction entries with
  | nil => rfl
  | cons hd rest ih =>
    have hne : hd.1 ≠ k := by
      intro he
      exact String.lt_irrefl k (he ▸ h hd (by simp) : k < k)
    simp only [look, if_neg hne]
    exact ih fun e he => h e (List.mem_cons_of_mem _ he)

/-- In ascending order a look-up finds exactly the entries. -/
theorem look_eq_some_iff {entries : List (String × α)} (ha : Ascending entries) (k : String)
    (v : α) : look k entries = some v ↔ (k, v) ∈ entries := by
  induction entries with
  | nil => simp [look]
  | cons hd rest ih =>
    obtain ⟨a, b⟩ := hd
    obtain ⟨hhd, hrest⟩ := List.pairwise_cons.mp ha
    simp only [look]
    by_cases hak : a = k
    · subst hak
      simp only [if_true, Option.some.injEq, List.mem_cons, Prod.mk.injEq, true_and]
      constructor
      · intro h
        exact Or.inl h.symm
      · rintro (h | h)
        · exact h.symm
        · exact absurd (hhd _ h) (String.lt_irrefl _)
    · rw [if_neg hak, ih hrest]
      simp only [List.mem_cons, Prod.mk.injEq]
      constructor
      · exact Or.inr
      · rintro (⟨h, _⟩ | h)
        · exact absurd h.symm hak
        · exact h

theorem get?_eq_some_iff (d : Dict α) (k : String) (v : α) :
    d.get? k = some v ↔ (k, v) ∈ d.entries := look_eq_some_iff d.ascending k v

/-- A filtered map shows a value exactly if the value passes the test. -/
theorem get?_filter (d : Dict α) (keep : String → α → Bool) (k : String) :
    (d.filter keep).get? k = (d.get? k).filter (keep k) := by
  apply Option.ext
  intro v
  rw [get?_eq_some_iff, Option.filter_eq_some_iff, get?_eq_some_iff]
  simp [filter]

/-- An erased key has no value and every other look-up is as before. -/
theorem get?_erase (d : Dict α) (k k' : String) :
    (d.erase k).get? k' = if k = k' then none else d.get? k' := by
  rw [erase, get?_filter]
  by_cases h : k = k'
  · subst h
    simp
  · have : (k' != k) = true := by simpa using fun he => h he.symm
    cases d.get? k' <;> simp [this, h]

theorem look_map (f : α → β) (k : String) (entries : List (String × α)) :
    look k (entries.map fun e => (e.1, f e.2)) = (look k entries).map f := by
  induction entries with
  | nil => rfl
  | cons hd rest ih =>
    simp only [List.map_cons, look, ih]
    by_cases h : hd.1 = k <;> simp [h]

theorem get?_map (d : Dict α) (f : α → β) (k : String) :
    (d.map f).get? k = (d.get? k).map f := look_map f k d.entries

/-! ## 4. One map, one representation -/

private theorem entries_eq_of_look {l m : List (String × α)} (hl : Ascending l)
    (hm : Ascending m) (h : ∀ k, look k l = look k m) : l = m := by
  induction l generalizing m with
  | nil =>
    cases m with
    | nil => rfl
    | cons e rest => simpa [look] using h e.1
  | cons a l ih =>
    cases m with
    | nil => simpa [look] using h a.1
    | cons b m =>
      obtain ⟨ha, hl'⟩ := List.pairwise_cons.mp hl
      obtain ⟨hb, hm'⟩ := List.pairwise_cons.mp hm
      have hab : a.1 = b.1 := by
        apply eq_of_not_lt
        · intro hlt
          have h1 := h a.1
          have none_found : look a.1 (b :: m) = none := by
            apply look_eq_none_of_lt
            intro e he
            rcases List.mem_cons.mp he with rfl | he
            · exact hlt
            · exact String.lt_trans hlt (hb e he)
          rw [none_found] at h1
          simp [look] at h1
        · intro hlt
          have h1 := h b.1
          have none_found : look b.1 (a :: l) = none := by
            apply look_eq_none_of_lt
            intro e he
            rcases List.mem_cons.mp he with rfl | he
            · exact hlt
            · exact String.lt_trans hlt (ha e he)
          rw [none_found] at h1
          simp [look] at h1
      have hval : a.2 = b.2 := by
        have h1 := h a.1
        simpa [look, hab] using h1
      have hhd : a = b := Prod.ext hab hval
      subst hhd
      congr 1
      apply ih hl' hm'
      intro k
      by_cases hk : a.1 = k
      · subst hk
        rw [look_eq_none_of_lt ha, look_eq_none_of_lt hb]
      · have h1 := h k
        simpa [look, hk] using h1

/-- Two maps with the same look-ups are the same map. -/
theorem ext {d e : Dict α} (h : ∀ k, d.get? k = e.get? k) : d = e :=
  entries_injective (entries_eq_of_look d.ascending e.ascending h)

end Dict

end JobKeeper
