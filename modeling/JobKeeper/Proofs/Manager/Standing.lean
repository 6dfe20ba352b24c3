/-
  File:      JobKeeper/Proofs/Manager/Standing.lean
  Subject:   What the registry holds of one job, and what each operation makes of it.

  The registry is two maps. Read at one id it is a pair of entries, the `Standing` of that job, and
  every operation of the registry is an operation on standings:

  * `standing_touch`, `standing_clearFailed`, `standing_record`: the operations on one job act on
    its standing and leave the standing of every other job alone;
  * `standing_touchKind`, `standing_evictFailed`: the operations on all jobs act on each standing
    by itself;
  * `Standing.Sound`, `Registry.Sound`: what holds of every standing while passes run, kept by each
    operation.
-/
import JobKeeper.Manager.Pass
import JobKeeper.Proofs.Job.TrackingId

namespace JobKeeper

/-! ## 1. Standings -/

/-- What the registry holds of one job: its entry among the running jobs and its entry among the
    failed ones. -/
@[ext]
structure Standing where
  running : Option JobEntry := none
  failed : Option JobEntry := none

namespace Standing

/-- The standing of a job that is seen in a pass. The entry among the running jobs goes first. -/
def seenIn (s : Standing) (pass : Nat) : Standing :=
  match s.running with
  | some e => { s with running := some (e.seenIn pass) }
  | none => { s with failed := s.failed.map (·.seenIn pass) }

/-- The standing after all jobs of a kind were seen in a pass. -/
def seenIfOf (s : Standing) (kind : JobKind) (pass : Nat) : Standing :=
  ⟨s.running.map (Registry.seenIfOf kind pass), s.failed.map (Registry.seenIfOf kind pass)⟩

/-- The standing once an earlier failure is forgotten. -/
def cleared (s : Standing) : Standing := { s with failed := none }

/-- The standing after an attempt. -/
def recorded (id : String) (kind : JobKind) (stamp : Instant) (pass : Nat) :
    Except CompileError StartedJob → Standing
  | .ok job => { running := some (.running id kind job.clusterJobId stamp pass) }
  | .error error => { failed := some (.failed id kind error.message stamp pass) }

/-- The standing once failures that are stale were dropped. -/
def swept (s : Standing) (pass retention : Nat) : Standing :=
  { s with failed := s.failed.filter fun e => !Registry.isStale pass retention e }

/-- An entry of the standing, on either side. -/
def Holds (s : Standing) (e : JobEntry) : Prop := s.running = some e ∨ s.failed = some e

end Standing

/-! ## 2. One equation per operation -/

namespace Registry

/-- The standing of a job. -/
def standing (r : Registry) (id : String) : Standing := ⟨r.running.get? id, r.failed.get? id⟩

theorem isRunning_eq (r : Registry) (id : String) :
    r.isRunning id = (r.standing id).running.isSome := rfl

/-- Two registries with the same standings are the same registry. -/
theorem eq_of_standing {r r' : Registry} (h : ∀ id, r.standing id = r'.standing id) : r = r' := by
  have hr : r.running = r'.running := Dict.ext fun id => congrArg Standing.running (h id)
  have hf : r.failed = r'.failed := Dict.ext fun id => congrArg Standing.failed (h id)
  cases r
  cases r'
  simp only at hr hf
  rw [hr, hf]

variable (r : Registry)

theorem standing_touch (id : String) (pass : Nat) (id' : String) :
    (r.touch id pass).standing id' =
      if id = id' then (r.standing id).seenIn pass else r.standing id' := by
  unfold touch
  by_cases h : id = id'
  · subst h
    rw [if_pos rfl]
    cases hr : r.running.get? id with
    | some e => simp [standing, Standing.seenIn, hr, Dict.get?_insert]
    | none =>
      cases hf : r.failed.get? id with
      | some e => simp [standing, Standing.seenIn, hr, hf, Dict.get?_insert]
      | none => simp [standing, Standing.seenIn, hr, hf]
  · rw [if_neg h]
    cases hr : r.running.get? id with
    | some e => simp [standing, Dict.get?_insert, h]
    | none =>
      cases hf : r.failed.get? id with
      | some e => simp [standing, Dict.get?_insert, h]
      | none => rfl

theorem standing_touchKind (kind : JobKind) (pass : Nat) (id : String) :
    (r.touchKind kind pass).standing id = (r.standing id).seenIfOf kind pass := by
  simp only [standing, touchKind, Dict.get?_map, Standing.seenIfOf]

theorem standing_clearFailed (id id' : String) :
    (r.clearFailed id).2.standing id' =
      if id = id' then (r.standing id).cleared else r.standing id' := by
  by_cases h : id = id'
  · subst h
    simp [standing, clearFailed, Standing.cleared, Dict.get?_erase]
  · simp [standing, clearFailed, Dict.get?_erase, h]

theorem standing_record (id : String) (kind : JobKind) (stamp : Instant) (pass : Nat)
    (outcome : Except CompileError StartedJob) (id' : String) :
    (r.record id kind stamp pass outcome).standing id' =
      if id = id' then .recorded id kind stamp pass outcome else r.standing id' := by
  cases outcome with
  | ok job =>
    by_cases h : id = id' <;>
      simp [standing, record, recordRunning, Standing.recorded, JobEntry.running, Dict.get?_insert,
        Dict.get?_erase, h]
  | error error =>
    by_cases h : id = id' <;>
      simp [standing, record, recordFailed, Standing.recorded, JobEntry.failed, Dict.get?_insert,
        Dict.get?_erase, h]

/-- An entry that was seen in the pass is not stale. -/
theorem isStale_of_seen {pass : Nat} {e : JobEntry} (h : e.lastSeenPass = pass) (retention : Nat) :
    isStale pass retention e = false := by
  rw [isStale, h, Nat.sub_self]
  by_cases hr : retention = 0 <;> simp [hr]

theorem standing_evictFailed (pass retention : Nat) (id : String) :
    (r.evictFailed pass retention).2.standing id = (r.standing id).swept pass retention := by
  simp only [standing, evictFailed, Dict.get?_filter, Standing.swept]

end Registry

/-! ## 3. Sound standings -/

/-- The entry is kept under its own id, and the id is one of its kind. -/
def JobEntry.BelongsTo (e : JobEntry) (id : String) : Prop :=
  e.id = id ∧ ∃ name, e.kind.namespaced name = id

namespace Standing

/-- **What holds of the standing of a job while passes run**: it is on one side at most, its entry
    is its own, and no pass later than the latest one has seen it. -/
structure Sound (latest : Nat) (id : String) (s : Standing) : Prop where
  oneSided : s.running = none ∨ s.failed = none
  own : ∀ e, s.Holds e → e.BelongsTo id
  past : ∀ e, s.Holds e → e.lastSeenPass ≤ latest

theorem not_holds_empty (e : JobEntry) : ¬ ({} : Standing).Holds e := by
  rintro (h | h) <;> cases h

theorem sound_empty (latest : Nat) (id : String) : ({} : Standing).Sound latest id where
  oneSided := Or.inl rfl
  own e he := absurd he (not_holds_empty e)
  past e he := absurd he (not_holds_empty e)

variable {latest : Nat} {id : String} {s : Standing}

/-- A running job has no entry among the failed ones. -/
theorem Sound.failed_eq_none (h : s.Sound latest id) {e : JobEntry} (hr : s.running = some e) :
    s.failed = none := by
  rcases h.oneSided with hn | hn
  · rw [hr] at hn
    cases hn
  · exact hn

/-- A job whose id is of no kind has no entry. -/
theorem Sound.eq_empty (h : s.Sound latest id)
    (hid : ¬ ∃ (kind : JobKind) (name : String), kind.namespaced name = id) : s = {} := by
  refine Standing.ext (Option.eq_none_iff_forall_ne_some.mpr ?_)
    (Option.eq_none_iff_forall_ne_some.mpr ?_)
  · intro e he
    exact hid ⟨e.kind, (h.own e (Or.inl he)).2⟩
  · intro e he
    exact hid ⟨e.kind, (h.own e (Or.inr he)).2⟩

theorem Sound.mono (h : s.Sound latest id) {latest' : Nat} (hle : latest ≤ latest') :
    s.Sound latest' id :=
  ⟨h.oneSided, h.own, fun e he => Nat.le_trans (h.past e he) hle⟩

/-- Entries that stay as they are or are seen in the latest pass keep a standing sound. -/
theorem Sound.map (h : s.Sound latest id) {f g : JobEntry → JobEntry}
    (hf : ∀ e, f e = e ∨ f e = e.seenIn latest) (hg : ∀ e, g e = e ∨ g e = e.seenIn latest) :
    Sound latest id ⟨s.running.map f, s.failed.map g⟩ := by
  have origin : ∀ e, Holds ⟨s.running.map f, s.failed.map g⟩ e →
      ∃ e₀, s.Holds e₀ ∧ (e = e₀ ∨ e = e₀.seenIn latest) := by
    rintro e (he | he) <;> obtain ⟨e₀, h₀, rfl⟩ := Option.map_eq_some_iff.mp he
    · exact ⟨e₀, Or.inl h₀, hf e₀⟩
    · exact ⟨e₀, Or.inr h₀, hg e₀⟩
  refine ⟨?_, fun e he => ?_, fun e he => ?_⟩
  · rcases h.oneSided with hn | hn
    · exact Or.inl (by simp [hn])
    · exact Or.inr (by simp [hn])
  · obtain ⟨e₀, h₀, rfl | rfl⟩ := origin e he
    · exact h.own e h₀
    · exact h.own e₀ h₀
  · obtain ⟨e₀, h₀, rfl | rfl⟩ := origin e he
    · exact h.past e h₀
    · exact Nat.le_refl latest

theorem Sound.seenIfOf (h : s.Sound latest id) (kind : JobKind) :
    (s.seenIfOf kind latest).Sound latest id := by
  have seen : ∀ e, Registry.seenIfOf kind latest e = e ∨
      Registry.seenIfOf kind latest e = e.seenIn latest := by
    intro e
    unfold Registry.seenIfOf
    split
    · exact Or.inr rfl
    · exact Or.inl rfl
  exact h.map seen seen

theorem Sound.seenIn (h : s.Sound latest id) : (s.seenIn latest).Sound latest id := by
  unfold Standing.seenIn
  cases hr : s.running with
  | some e =>
    have hs := h.map (g := fun e => e) (fun e => Or.inr rfl) (fun e => Or.inl rfl)
    simpa [hr] using hs
  | none =>
    have hs := h.map (f := fun e => e) (fun e => Or.inl rfl) (fun e => Or.inr rfl)
    simpa [hr] using hs

theorem Sound.cleared (h : s.Sound latest id) : s.cleared.Sound latest id := by
  have still : ∀ e, s.cleared.Holds e → s.Holds e := by
    rintro e (he | he)
    · exact Or.inl he
    · cases he
  exact ⟨Or.inr rfl, fun e he => h.own e (still e he), fun e he => h.past e (still e he)⟩

theorem Sound.swept (h : s.Sound latest id) (pass retention : Nat) :
    (s.swept pass retention).Sound latest id := by
  have still : ∀ e, (s.swept pass retention).Holds e → s.Holds e := by
    rintro e (he | he)
    · exact Or.inl he
    · exact Or.inr (Option.filter_eq_some_iff.mp he).1
  refine ⟨?_, fun e he => h.own e (still e he), fun e he => h.past e (still e he)⟩
  rcases h.oneSided with hn | hn
  · exact Or.inl hn
  · exact Or.inr (by simp [Standing.swept, hn])

theorem swept_of_seen {pass : Nat} (h : ∀ e, s.failed = some e → e.lastSeenPass = pass)
    (retention : Nat) : s.swept pass retention = s := by
  refine Standing.ext rfl ?_
  show s.failed.filter _ = s.failed
  cases hf : s.failed with
  | none => rfl
  | some e => exact Option.filter_some_pos (by simp [Registry.isStale_of_seen (h e hf)])

theorem recorded_swept (id : String) (kind : JobKind) (stamp : Instant) (pass : Nat)
    (outcome : Except CompileError StartedJob) (retention : Nat) :
    (recorded id kind stamp pass outcome).swept pass retention =
      recorded id kind stamp pass outcome := by
  refine swept_of_seen (fun e he => ?_) retention
  cases outcome with
  | ok job => cases he
  | error error =>
    cases he
    rfl

/-- A sweep drops an entry exactly if the job had one that is stale, and leaves nothing then. -/
theorem Sound.stale_iff (h : s.Sound latest id) (pass retention : Nat) :
    (∃ e, s.failed = some e ∧ Registry.isStale pass retention e = true) ↔
      s.failed.isSome = true ∧ s.swept pass retention = {} := by
  obtain ⟨running, failed⟩ := s
  cases failed with
  | none => exact ⟨fun ⟨e, he, _⟩ => (nomatch he), fun ⟨he, _⟩ => (nomatch he)⟩
  | some e =>
    obtain rfl : running = none := h.oneSided.resolve_right (fun he => nomatch he)
    cases hst : Registry.isStale pass retention e <;> simp [Standing.swept, hst, Option.filter]

theorem sound_recorded {kind : JobKind} (hid : ∃ name, kind.namespaced name = id) (stamp : Instant)
    (latest : Nat) (outcome : Except CompileError StartedJob) :
    (recorded id kind stamp latest outcome).Sound latest id := by
  cases outcome with
  | ok job =>
    refine ⟨Or.inr rfl, ?_, ?_⟩ <;> rintro e (he | he) <;> cases he
    · exact ⟨rfl, hid⟩
    · exact Nat.le_refl latest
  | error error =>
    refine ⟨Or.inl rfl, ?_, ?_⟩ <;> rintro e (he | he) <;> cases he
    · exact ⟨rfl, hid⟩
    · exact Nat.le_refl latest

end Standing

/-! ## 4. Sound registries -/

namespace Registry

/-- Every standing is sound. -/
def Sound (latest : Nat) (r : Registry) : Prop := ∀ id, (r.standing id).Sound latest id

theorem sound_empty (latest : Nat) : ({} : Registry).Sound latest :=
  fun id => Standing.sound_empty latest id

variable {latest : Nat} {r : Registry}

theorem Sound.mono (h : r.Sound latest) {latest' : Nat} (hle : latest ≤ latest') :
    r.Sound latest' := fun id => (h id).mono hle

theorem Sound.touch (h : r.Sound latest) (id : String) : (r.touch id latest).Sound latest := by
  intro id'
  rw [standing_touch]
  split
  · next he => exact he ▸ (h id).seenIn
  · exact h id'

theorem Sound.touchKind (h : r.Sound latest) (kind : JobKind) :
    (r.touchKind kind latest).Sound latest := by
  intro id
  rw [standing_touchKind]
  exact (h id).seenIfOf kind

theorem Sound.clearFailed (h : r.Sound latest) (id : String) :
    (r.clearFailed id).2.Sound latest := by
  intro id'
  rw [standing_clearFailed]
  split
  · next he => exact he ▸ (h id).cleared
  · exact h id'

theorem Sound.record (h : r.Sound latest) {id : String} {kind : JobKind}
    (hid : ∃ name, kind.namespaced name = id) (stamp : Instant)
    (outcome : Except CompileError StartedJob) :
    (r.record id kind stamp latest outcome).Sound latest := by
  intro id'
  rw [standing_record]
  split
  · next he => exact he ▸ Standing.sound_recorded hid stamp latest outcome
  · exact h id'

theorem Sound.evictFailed (h : r.Sound latest) (pass retention : Nat) :
    (r.evictFailed pass retention).2.Sound latest := by
  intro id
  rw [standing_evictFailed]
  exact (h id).swept pass retention

end Registry

/-! ## 5. A world to try things in -/

/-- A rule that has a plan. -/
def sampleRule : Job :=
  .rule
    { id := "r", filter := "x > 1", object := "user",
      predictor := { schema := .ofList [("x", "BIGINT")] } }

/-- A rule that has none: it lacks an object. -/
def blankRule : Job := .rule { id := "q" }

/-- A source with fixed answers, a cluster that accepts every statement, and a clock that counts
    the statements. -/
def sampleWorld (answers : JobKind → Except RemoteError (List Job)) : World Nat where
  execute _ n := (.ok ⟨"PAYLOAD", .null, some ("job-" ++ toString n)⟩, n + 1)
  fetch kind n := (answers kind, n)
  now n := ⟨n, 0⟩

/-- The source lists these rules and no behavior job. -/
def rulesOnly (rules : List Job) : JobKind → Except RemoteError (List Job)
  | .behavior => .ok []
  | .rule => .ok rules

end JobKeeper
