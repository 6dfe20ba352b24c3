/-
  File:      JobKeeper/Proofs/Dict.lean
  Subject:   The keys of a map: which ones it has, their order, and how many there are.

  * `mem_keys_iff`, `keys_ascending`: the keys are the texts with a value, in ascending order.
  * `size_congr`: the size depends on which texts have a value, and on nothing else.
  * `size_insert_of_new`: a new key makes the map larger by one.
  * `mapWithKey`: each value replaced by what its key and it make.
  * `get?_ofList`: in the map of a list the last entry of a key counts, so that the order of entries
    with different keys does not matter (`ofList_perm`).
-/
import JobKeeper.Dict
import Mathlib.Data.Finset.Card

namespace JobKeeper.Dict

variable {α : Type u} {β : Type v}

/-! ## 1. Keys -/

/-- The keys are the texts that have a value. -/
theorem mem_keys_iff (d : Dict α) (k : String) : k ∈ d.keys ↔ (d.get? k).isSome := by
  constructor
  · intro h
    obtain ⟨e, he, rfl⟩ := List.mem_map.mp h
    rw [(d.get?_eq_some_iff e.1 e.2).mpr he]
    rfl
  · intro h
    obtain ⟨v, hv⟩ := Option.isSome_iff_exists.mp h
    exact List.mem_map.mpr ⟨(k, v), (d.get?_eq_some_iff k v).mp hv, rfl⟩

theorem keys_ascending (d : Dict α) : d.keys.Pairwise (· < ·) :=
  List.pairwise_map.mpr d.ascending

theorem nodup_keys (d : Dict α) : d.keys.Nodup :=
  d.keys_ascending.imp fun h => by
    rintro rfl
    exact String.lt_irrefl _ h

@[simp] theorem length_keys (d : Dict α) : d.keys.length = d.size := List.length_map _

/-- The keys of a filtered map are those whose value passes the test. -/
theorem mem_keys_filter (d : Dict α) (keep : String → α → Bool) (k : String) :
    k ∈ (d.filter keep).keys ↔ ∃ v, d.get? k = some v ∧ keep k v = true := by
  rw [mem_keys_iff, get?_filter]
  cases d.get? k with
  | none => simp
  | some v => cases h : keep k v <;> simp [h, Option.filter]

/-! ## 2. Sizes -/

theorem size_eq_card (d : Dict α) : d.size = d.keys.toFinset.card := by
  rw [List.toFinset_card_of_nodup d.nodup_keys, length_keys]

/-- **The size depends on which texts have a value, and on nothing else.** -/
theorem size_congr {d : Dict α} {e : Dict β}
    (h : ∀ k, (d.get? k).isSome = (e.get? k).isSome) : d.size = e.size := by
  have same : d.keys.toFinset = e.keys.toFinset := by
    ext k
    rw [List.mem_toFinset, List.mem_toFinset, mem_keys_iff, mem_keys_iff, h]
  rw [size_eq_card, size_eq_card, same]

/-- A new key makes the map larger by one. -/
theorem size_insert_of_new {d : Dict α} {k : String} (h : d.get? k = none) (v : α) :
    (d.insert k v).size = d.size + 1 := by
  have added : (d.insert k v).keys.toFinset = Insert.insert k d.keys.toFinset := by
    ext k'
    rw [Finset.mem_insert, List.mem_toFinset, List.mem_toFinset, mem_keys_iff, mem_keys_iff,
      get?_insert]
    by_cases hk : k = k'
    · simp [hk]
    · simp [hk, Ne.symm hk]
  have absent : k ∉ d.keys.toFinset := by
    rw [List.mem_toFinset, mem_keys_iff, h]
    simp
  rw [size_eq_card, added, Finset.card_insert_of_notMem absent, ← size_eq_card]

theorem size_map (d : Dict α) (f : α → β) : (d.map f).size = d.size :=
  List.length_map _

/-! ## 3. Values made of their keys -/

/-- The map with each value replaced by what its key and it make, and every key kept. -/
def mapWithKey (d : Dict α) (f : String → α → β) : Dict β :=
  ⟨d.entries.map fun e => (e.1, f e.1 e.2), List.pairwise_map.mpr d.ascending⟩

theorem get?_mapWithKey (d : Dict α) (f : String → α → β) (k : String) :
    (d.mapWithKey f).get? k = (d.get? k).map (f k) := by
  apply Option.ext
  intro v
  rw [get?_eq_some_iff, Option.map_eq_some_iff]
  constructor
  · intro h
    obtain ⟨e, he, heq⟩ := List.mem_map.mp h
    cases heq
    exact ⟨e.2, (d.get?_eq_some_iff e.1 e.2).mpr he, rfl⟩
  · rintro ⟨w, hw, rfl⟩
    exact List.mem_map.mpr ⟨(k, w), (d.get?_eq_some_iff k w).mp hw, rfl⟩

@[simp] theorem keys_map (d : Dict α) (f : α → β) : (d.map f).keys = d.keys := by
  show (d.entries.map _).map _ = d.entries.map _
  rw [List.map_map]
  rfl

/-- **The keys depend on which texts have a value**, and on nothing else. -/
theorem keys_congr {d : Dict α} {e : Dict β}
    (h : ∀ k, (d.get? k).isSome = (e.get? k).isSome) : d.keys = e.keys := by
  have same : (d.map fun _ => ()) = e.map fun _ => () := by
    refine ext fun k => ?_
    rw [get?_map, get?_map]
    have hk := h k
    cases hd : d.get? k <;> cases he : e.get? k <;> simp [hd, he] at hk ⊢
  rw [← d.keys_map fun _ => (), same, keys_map]

/-! ## 4. Maps of lists -/

theorem look_append (k : String) (l m : List (String × α)) :
    look k (l ++ m) = (look k l).or (look k m) := by
  induction l with
  | nil => rfl
  | cons e l ih =>
    show (if e.1 = k then some e.2 else look k (l ++ m)) = _
    by_cases he : e.1 = k
    · simp [look, he]
    · simp [look, he, ih]

/-- A key of a list has a value, and nothing else has. -/
theorem isSome_look_iff (k : String) (l : List (String × α)) :
    (look k l).isSome ↔ k ∈ l.map (·.1) := by
  induction l with
  | nil => simp [look]
  | cons e l ih =>
    by_cases he : e.1 = k
    · simp [look, he]
    · simp [look, he, ih, Ne.symm he]

/-- **In the map of a list the last entry of a key counts.** -/
theorem get?_ofList (l : List (String × α)) (k : String) :
    (ofList l).get? k = look k l.reverse := by
  have from_map : ∀ (l : List (String × α)) (d : Dict α),
      (l.foldl (fun d e => d.insert e.1 e.2) d).get? k = (look k l.reverse).or (d.get? k) := by
    intro l
    induction l with
    | nil => exact fun _ => rfl
    | cons e l ih =>
      intro d
      rw [List.foldl_cons, ih, get?_insert, List.reverse_cons, look_append, Option.or_assoc]
      congr 1
      by_cases he : e.1 = k <;> simp [look, he]
  rw [ofList, from_map]
  exact Option.or_none

/-- A look-up from the end finds the last entry of a key. -/
theorem look_reverse_eq_some_iff (l : List (String × α)) (k : String) (v : α) :
    look k l.reverse = some v ↔
      ∃ before after, l = before ++ (k, v) :: after ∧ ∀ e ∈ after, e.1 ≠ k := by
  constructor
  · intro h
    induction l with
    | nil => cases h
    | cons e l ih =>
      rw [List.reverse_cons, look_append] at h
      cases hl : look k l.reverse with
      | some w =>
        rw [hl, Option.some_or] at h
        obtain ⟨before, after, rfl, hafter⟩ := ih (hl.trans h)
        exact ⟨e :: before, after, rfl, hafter⟩
      | none =>
        have absent : k ∉ l.map (·.1) := by
          rw [← List.mem_reverse, ← List.map_reverse, ← isSome_look_iff, hl]
          simp
        rw [hl, Option.none_or] at h
        obtain ⟨k', v'⟩ := e
        by_cases hk : k' = k
        · rw [look, if_pos hk] at h
          cases h
          exact ⟨[], l, by rw [hk]; rfl, fun e he hek => absent (List.mem_map.mpr ⟨e, he, hek⟩)⟩
        · rw [look, if_neg hk] at h
          cases h
  · rintro ⟨before, after, rfl, hafter⟩
    have absent : look k after.reverse = none := by
      rw [← Option.not_isSome_iff_eq_none, isSome_look_iff, List.map_reverse, List.mem_reverse,
        List.mem_map]
      rintro ⟨e, he, hek⟩
      exact hafter e he hek
    rw [List.reverse_append, List.reverse_cons, look_append, look_append, absent]
    simp [look]

/-- **The map of a list has the last entry of each key**, and no other. -/
theorem mem_entries_ofList_iff (l : List (String × α)) (k : String) (v : α) :
    (k, v) ∈ (ofList l).entries ↔
      ∃ before after, l = before ++ (k, v) :: after ∧ ∀ e ∈ after, e.1 ≠ k := by
  rw [← get?_eq_some_iff, get?_ofList, look_reverse_eq_some_iff]

theorem mem_keys_ofList (l : List (String × α)) (k : String) :
    k ∈ (ofList l).keys ↔ k ∈ l.map (·.1) := by
  rw [mem_keys_iff, get?_ofList, isSome_look_iff, List.map_reverse, List.mem_reverse]

/-- If no key occurs twice, what is found is an entry. -/
theorem look_eq_some_iff_of_nodup {l : List (String × α)} (h : (l.map (·.1)).Nodup) (k : String)
    (v : α) : look k l = some v ↔ (k, v) ∈ l := by
  induction l with
  | nil => simp [look]
  | cons e l ih =>
    obtain ⟨k', v'⟩ := e
    obtain ⟨hnew, hrest⟩ := List.nodup_cons.mp h
    by_cases hk : k' = k
    · subst hk
      have absent : (k', v) ∉ l := fun hv => hnew (List.mem_map_of_mem (f := (·.1)) hv)
      simp [look, absent, eq_comm]
    · simp [look, hk, ih hrest, Ne.symm hk]

/-- Where no key occurs twice, the order does not matter. -/
theorem look_perm {l m : List (String × α)} (h : l.Perm m) (hkeys : (l.map (·.1)).Nodup)
    (k : String) : look k l = look k m := by
  refine Option.ext fun v => ?_
  rw [look_eq_some_iff_of_nodup hkeys, look_eq_some_iff_of_nodup ((h.map _).nodup_iff.mp hkeys)]
  exact h.mem_iff

/-- **The map of a list in which no key occurs twice does not depend on the order.** -/
theorem ofList_perm {l m : List (String × α)} (h : l.Perm m) (hkeys : (l.map (·.1)).Nodup) :
    ofList l = ofList m := by
  refine ext fun k => ?_
  rw [get?_ofList, get?_ofList]
  refine look_perm ?_ ?_ k
  · exact (List.reverse_perm l).trans (h.trans (List.reverse_perm m).symm)
  · rwa [List.map_reverse, List.nodup_reverse]

/-- A map is the map of its entries, in whatever order these stand. -/
theorem ofList_of_perm_entries {l : List (String × α)} {d : Dict α} (h : l.Perm d.entries) :
    ofList l = d := by
  have hkeys : (l.map (·.1)).Nodup := (h.map _).nodup_iff.mpr d.nodup_keys
  refine ext fun k => Option.ext fun v => ?_
  rw [get?_ofList, look_eq_some_iff_of_nodup, List.mem_reverse, get?_eq_some_iff, h.mem_iff]
  rwa [List.map_reverse, List.nodup_reverse]

end JobKeeper.Dict
