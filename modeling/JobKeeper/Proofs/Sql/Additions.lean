/-
  File:      JobKeeper/Proofs/Sql/Additions.lean
  Subject:   Schemas that are put together by calls in any order and number.

  A schema keeps its columns, the event time that carries its watermark and the first event time
  that it refused. Here these are said by the calls alone, without the schemas in between.

  * `watermark_add`, `rejected_add`, `columns_add`: all that one call changes;
  * `Recalls`, `recalls_ofCalls`: what a schema tells of the calls that made it. One more call keeps
    it, so it holds after any;
  * `AlikeButRejected`: what a refused event time leaves as it was, whatever calls follow;
  * `follows_calls`: the text or the error of a schema made by any calls.
-/
import JobKeeper.Proofs.Sql.Faults
import Mathlib.Data.List.Induction

namespace JobKeeper.Sql

/-! ## 1. Calls -/

/-- A call on a schema that is being put together. -/
inductive Addition where
  /-- A column that the records carry. -/
  | column (name type : String)
  /-- Several such columns. -/
  | columns (fields : List (String × String))
  /-- The event time `target`, computed from `raw`. -/
  | eventTime (raw target : String)
  deriving DecidableEq, Repr

namespace Addition

/-- The event time that a call asks for. -/
def eventTime? : Addition → Option String
  | .column _ _ => none
  | .columns _ => none
  | .eventTime _ target => some target

/-- The columns that a call asks for. -/
def asked : Addition → List Column
  | .column name type => [.physical name type]
  | .columns fields => fields.map fun f => .physical f.1 f.2
  | .eventTime raw target => [.computed target raw]

/-- The same columns as items of a column list. -/
def items : Addition → List String
  | .column name type => [name ++ " " ++ type]
  | .columns fields => fields.map fun f => f.1 ++ " " ++ f.2
  | .eventTime raw target => [target ++ " AS CAST(" ++ raw ++ " as TIMESTAMP(3))"]

theorem map_text_asked (call : Addition) : call.asked.map Column.text = call.items := by
  cases call with
  | column name type => rfl
  | columns fields => exact List.map_map
  | eventTime raw target => rfl

end Addition

/-- The event times that calls ask for, in the order of the calls. -/
def eventTimes (calls : List Addition) : List String := calls.filterMap Addition.eventTime?

theorem eventTimes_concat (calls : List Addition) (call : Addition) :
    eventTimes (calls ++ [call]) = eventTimes calls ++ call.eventTime?.toList := by
  unfold eventTimes
  rw [List.filterMap_append]
  cases h : call.eventTime? <;> simp [h]

/-- What all calls ask for, as items of a column list. -/
theorem map_text_flatMap_asked (calls : List Addition) :
    (calls.flatMap Addition.asked).map Column.text = calls.flatMap Addition.items := by
  rw [List.map_flatMap]
  exact congrArg (calls.flatMap ·) (funext Addition.map_text_asked)

/-- Calls that ask for an event time add a column. -/
theorem items_ne_nil_of_eventTime {calls : List Addition} {target : String}
    (h : target ∈ eventTimes calls) : calls.flatMap Addition.items ≠ [] := by
  obtain ⟨call, hcall, htarget⟩ := List.mem_filterMap.mp h
  cases call with
  | column name type => cases htarget
  | columns fields => cases htarget
  | eventTime raw target' =>
    exact List.ne_nil_of_mem (List.mem_flatMap.mpr ⟨_, hcall, List.mem_singleton_self _⟩)

namespace Schema

/-! ## 2. One call -/

/-- The schema after one more call. -/
def add (s : Schema) : Addition → Schema
  | .column name type => s.addColumn name type
  | .columns fields => s.addColumns fields
  | .eventTime raw target => s.addEventTime raw target

theorem addEventTime_of_none {s : Schema} (h : s.watermark = none) (raw target : String) :
    s.addEventTime raw target =
      { s with columns := s.columns ++ [.computed target raw], watermark := some target } := by
  unfold addEventTime
  rw [h]

theorem addEventTime_of_some {s : Schema} {existing : String} (h : s.watermark = some existing)
    (raw target : String) :
    s.addEventTime raw target = { s with rejected := s.rejected.or (some target) } := by
  obtain ⟨columns, watermark, rejected⟩ := s
  obtain rfl : watermark = some existing := h
  exact congrArg (Schema.mk columns (some existing)) Option.orElse_eq_or

/-- The first event time carries the watermark. -/
theorem watermark_add (s : Schema) (call : Addition) :
    (s.add call).watermark = s.watermark.or call.eventTime? := by
  cases call with
  | column name type => exact Option.or_none.symm
  | columns fields => exact (watermark_addColumns s fields).1.trans Option.or_none.symm
  | eventTime raw target =>
    show (s.addEventTime raw target).watermark = s.watermark.or (some target)
    cases h : s.watermark with
    | none => rw [addEventTime_of_none h, Option.none_or]
    | some existing => rw [addEventTime_of_some h, h, Option.some_or]

/-- Of the event times that come too late the first is kept. -/
theorem rejected_add (s : Schema) (call : Addition) :
    (s.add call).rejected =
      s.rejected.or (if s.watermark.isSome then call.eventTime? else none) := by
  cases call with
  | column name type => simp [add, addColumn, Addition.eventTime?]
  | columns fields => simp [add, Addition.eventTime?, (watermark_addColumns s fields).2]
  | eventTime raw target =>
    show (s.addEventTime raw target).rejected = _
    cases h : s.watermark with
    | none => rw [addEventTime_of_none h]; simp
    | some existing => rw [addEventTime_of_some h]; rfl

/-- A call adds the columns that it asks for, unless it asks for an event time too late. -/
theorem columns_add (s : Schema) (call : Addition) :
    (s.add call).columns =
      s.columns ++ if s.watermark.isSome && call.eventTime?.isSome then [] else call.asked := by
  cases call with
  | column name type => simp [add, Addition.eventTime?, Addition.asked]
  | columns fields => simp [add, Addition.eventTime?, Addition.asked, columns_addColumns]
  | eventTime raw target =>
    show (s.addEventTime raw target).columns = _
    cases h : s.watermark with
    | none => rw [addEventTime_of_none h]; rfl
    | some existing => rw [addEventTime_of_some h]; simp [Addition.eventTime?]

/-! ## 3. Any calls -/

/-- The schema that calls make, beginning with an empty one. -/
def ofCalls (calls : List Addition) : Schema := calls.foldl add {}

theorem ofCalls_append (before after : List Addition) :
    ofCalls (before ++ after) = after.foldl add (ofCalls before) :=
  List.foldl_append

/-- **What a schema tells of the calls that made it**: the first event time that they ask for and
    the second one. As long as there is no second one, its columns are those that they ask for. -/
structure Recalls (s : Schema) (calls : List Addition) : Prop where
  watermark : s.watermark = (eventTimes calls)[0]?
  rejected : s.rejected = (eventTimes calls)[1]?
  columns : (eventTimes calls).length ≤ 1 → s.columns = calls.flatMap Addition.asked

theorem Recalls.add {s : Schema} {calls : List Addition} (h : s.Recalls calls) (call : Addition) :
    (s.add call).Recalls (calls ++ [call]) where
  watermark := by
    rw [watermark_add, h.watermark, eventTimes_concat]
    cases eventTimes calls with
    | nil => cases call.eventTime? <;> rfl
    | cons first later => rfl
  rejected := by
    rw [rejected_add, h.rejected, h.watermark, eventTimes_concat]
    rcases eventTimes calls with _ | ⟨first, _ | ⟨second, later⟩⟩
    · cases call.eventTime? <;> rfl
    · cases call.eventTime? <;> rfl
    · rfl
  columns := by
    intro honce
    rw [eventTimes_concat, List.length_append] at honce
    have hbefore : s.columns = calls.flatMap Addition.asked := h.columns (by omega)
    have hfirst : (s.watermark.isSome && call.eventTime?.isSome) = false := by
      rw [h.watermark]
      cases htimes : eventTimes calls with
      | nil => rfl
      | cons first later =>
        -- An event time was asked for before, so this call asks for none.
        cases hcall : call.eventTime? with
        | none => rfl
        | some target =>
          rw [htimes, hcall] at honce
          simp at honce
    rw [columns_add, hfirst, hbefore, List.flatMap_append]
    simp

theorem recalls_ofCalls (calls : List Addition) : (ofCalls calls).Recalls calls := by
  induction calls using List.reverseRecOn with
  | nil => exact ⟨rfl, rfl, fun _ => rfl⟩
  | append_singleton calls call ih =>
    rw [ofCalls_append]
    exact ih.add call

/-! ## 4. Refused event times -/

/-- Two schemas that differ at most in the event time that was refused. -/
structure AlikeButRejected (s s' : Schema) : Prop where
  columns : s'.columns = s.columns
  watermark : s'.watermark = s.watermark

theorem alikeButRejected_addEventTime {s : Schema} (h : s.watermark.isSome = true)
    (raw target : String) : AlikeButRejected s (s.addEventTime raw target) := by
  obtain ⟨existing, hwatermark⟩ := Option.isSome_iff_exists.mp h
  rw [addEventTime_of_some hwatermark]
  exact ⟨rfl, rfl⟩

theorem AlikeButRejected.add {s s' : Schema} (h : AlikeButRejected s s') (call : Addition) :
    AlikeButRejected (s.add call) (s'.add call) where
  columns := by rw [columns_add, columns_add, h.columns, h.watermark]
  watermark := by rw [watermark_add, watermark_add, h.watermark]

theorem AlikeButRejected.foldl {s s' : Schema} (h : AlikeButRejected s s')
    (calls : List Addition) :
    AlikeButRejected (calls.foldl Schema.add s) (calls.foldl Schema.add s') := by
  induction calls generalizing s s' with
  | nil => exact h
  | cons call calls ih => exact ih (h.add call)

/-! ## 5. The text -/

/-- A schema without a refused event time has a text if it has a column. -/
theorem render_of_unrejected {s : Schema} (h : s.rejected = none) :
    s.render =
      if s.columns = [] then .error .emptySchema else .ok (Text.join "," s.items) := by
  by_cases hcolumns : s.columns = []
  · rw [if_pos hcolumns, ← errorOf?_eq_some_iff, errorOf?_render h, hcolumns]
    rfl
  · rw [if_neg hcolumns, render_eq_ok_iff]
    exact ⟨Or.inr h, hcolumns, rfl⟩

/-- While one event time at most is asked for, all that is asked for is in the column list, and the
    watermark at its end. -/
theorem Recalls.items_eq {s : Schema} {calls : List Addition} (h : s.Recalls calls)
    (honce : (eventTimes calls).length ≤ 1) :
    s.items = calls.flatMap Addition.items ++ (eventTimes calls).map watermarkText := by
  have hmark : (s.watermark.map watermarkText).toList = (eventTimes calls).map watermarkText := by
    rw [h.watermark]
    rcases htimes : eventTimes calls with _ | ⟨first, _ | ⟨second, later⟩⟩
    · rfl
    · rfl
    · rw [htimes] at honce
      simp at honce
  rw [items, hmark, h.columns honce, map_text_flatMap_asked]

theorem Recalls.columns_eq_nil_iff {s : Schema} {calls : List Addition} (h : s.Recalls calls)
    (honce : (eventTimes calls).length ≤ 1) :
    s.columns = [] ↔ calls.flatMap Addition.items = [] := by
  rw [h.columns honce, ← map_text_flatMap_asked, List.map_eq_nil_iff]

/-- **A schema follows the calls that made it.** If they ask for two event times or more, it is
    refused for the first one and the second one, whatever else they add and whatever comes later.
    Otherwise it is refused if they add no column at all. Otherwise its text is what they add in
    the order of the calls, with commas in between, and the watermark of the event time at the end
    if they ask for one. Adding columns in one call is adding them one by one, at any place, and an
    event time that comes too late adds no column, whatever calls follow. -/
theorem follows_calls :
    (∀ calls, (ofCalls calls).render =
      match eventTimes calls with
      | first :: second :: _ => .error (.duplicateWatermark first second)
      | [target] =>
        .ok (Text.join "," (calls.flatMap Addition.items ++
          ["WATERMARK FOR " ++ target ++ " AS " ++ target ++ " - INTERVAL '1' minute"]))
      | [] =>
        if calls.flatMap Addition.items = [] then .error .emptySchema
        else .ok (Text.join "," (calls.flatMap Addition.items))) ∧
    (∀ before fields after,
      ofCalls (before ++ .columns fields :: after) =
        ofCalls (before ++ (fields.map fun f => .column f.1 f.2) ++ after)) ∧
    (∀ before raw target between raw' later after,
      let calls := before ++ .eventTime raw target :: between
      (ofCalls (calls ++ .eventTime raw' later :: after)).columns =
        (ofCalls (calls ++ after)).columns) := by
  refine ⟨fun calls => ?_, fun before fields after => ?_,
    fun before raw target between raw' later after => ?_⟩
  · have hrecalls : (ofCalls calls).Recalls calls := recalls_ofCalls calls
    have hrejected := hrecalls.rejected
    have hitems := hrecalls.items_eq
    have hempty := hrecalls.columns_eq_nil_iff
    rcases htimes : eventTimes calls with _ | ⟨first, _ | ⟨second, later⟩⟩
    · rw [htimes] at hrejected hitems hempty
      rw [render_of_unrejected hrejected, hitems (by simp), List.map_nil, List.append_nil]
      simp only [hempty (by simp)]
    · rw [htimes] at hrejected hitems hempty
      have hsome : calls.flatMap Addition.items ≠ [] :=
        items_ne_nil_of_eventTime (htimes ▸ List.mem_singleton_self first)
      rw [render_of_unrejected hrejected, hitems (by simp), if_neg]
      · rfl
      · exact fun hnil => hsome ((hempty (by simp)).mp hnil)
    · have hwatermark := hrecalls.watermark
      rw [htimes] at hwatermark hrejected
      unfold render
      rw [hwatermark, hrejected]
      rfl
  · rw [ofCalls_append, ofCalls_append, ofCalls_append, List.foldl_cons, List.foldl_map]
    rfl
  · intro calls
    have hmem : target ∈ eventTimes calls :=
      List.mem_filterMap.mpr ⟨.eventTime raw target, by simp [calls], rfl⟩
    have hdated : (ofCalls calls).watermark.isSome = true := by
      rw [(recalls_ofCalls calls).watermark,
        List.getElem?_eq_getElem (List.length_pos_of_mem hmem), Option.isSome_some]
    have halike := alikeButRejected_addEventTime hdated raw' later
    rw [ofCalls_append calls, ofCalls_append calls]
    exact (halike.foldl after).columns

/-- The second event time is named, not the third, and columns on both sides do not matter. -/
example :
    (ofCalls [.columns [("at", "STRING")], .eventTime "at" "ts1", .column "host" "STRING",
      .eventTime "at" "ts2", .eventTime "host" "ts3", .columns []]).render =
        .error (.duplicateWatermark "ts1" "ts2") := by
  decide

end Schema

end JobKeeper.Sql
