/-
  File:      JobKeeper/Proofs/Manager/Unlisted.lean
  Subject:   Of which running jobs a pass warns that they are no longer listed.

  The close of a pass compares the pass that last saw a running job with its own number. That
  number is written when a job is started, when it is listed, and when its kind could not be
  fetched, so what the comparison tells is read off the fate of the job in the pass:

  * `Fate.unseen_iff`: a running job is unseen exactly if its kind was fetched and did not list it;
  * `outcomeLines_visited`: the lines on the outcomes of all attempts stand before the close;
  * `warns_of_each_unlisted_job`: the warnings of a pass, after any course of passes.
-/
import JobKeeper.Proofs.Manager.Course
import JobKeeper.Proofs.Manager.Logs

namespace JobKeeper

/-! ## 1. Running jobs that a pass has not seen -/

/-- **A job that runs at the end of a pass is unseen** exactly if the pass fetched its kind and did
    not find it listed. Each other fate writes the number of the pass into its entry. -/
theorem Fate.unseen_iff {id : String} {latest pass : Nat} {s s' : Standing} {failed listed : Bool}
    {new : List Attempt} (h : Fate id pass (s.refetched pass failed) listed s' new)
    (sound : s.Sound latest id) (hlt : latest < pass) {e : JobEntry}
    (running : s'.running = some e) :
    e.lastSeenPass < pass ↔ listed = false ∧ failed = false := by
  have seen : ∀ e₀ : JobEntry, e₀.seenIn pass = e → ¬ e.lastSeenPass < pass := by
    intro e₀ he
    rw [← he]
    exact Nat.lt_irrefl pass
  cases h with
  | unlisted =>
    cases failed with
    | false =>
      have hle := sound.past e (Or.inl running)
      have hunseen : e.lastSeenPass < pass := by omega
      exact ⟨fun _ => ⟨rfl, rfl⟩, fun _ => hunseen⟩
    | true =>
      obtain ⟨e₀, _, he⟩ := Option.map_eq_some_iff.mp running
      exact ⟨fun hunseen => absurd hunseen (seen e₀ he), fun h => nomatch h.2⟩
  | seen e₀ _ =>
    have he := Option.some.inj running
    exact ⟨fun hunseen => absurd hunseen (seen e₀ he), fun h => nomatch h.1⟩
  | tried attempts a idle last own =>
    have hpass : e.lastSeenPass = pass := by
      cases ho : a.outcome with
      | ok job =>
        rw [ho] at running
        rw [← Option.some.inj running]
        rfl
      | error error =>
        rw [ho] at running
        cases running
    exact ⟨fun hunseen => absurd hunseen (by omega), fun h => nomatch h.1⟩

/-! ## 2. Lines before the close -/

/-- The last line that an attempt logs. -/
def Attempt.outcomeLine (a : Attempt) : Log.Line := JobKeeper.outcomeLine a.id a.outcome

section Outcomes

variable {σ : Type} (world : World σ) (settings : ManagerSettings)

/-- A visit that makes an attempt logs its outcome. -/
theorem outcomeLines_visitJob (job : Job) {r : PassReport σ}
    (h : (r.attempts.map Attempt.outcomeLine).Sublist r.logs) :
    ((visitJob world settings r job).attempts.map Attempt.outcomeLine).Sublist
      (visitJob world settings r job).logs := by
  cases hr : r.registry.isRunning job.trackingId with
  | true =>
    rw [visitJob_of_running world settings hr]
    exact h
  | false =>
    rw [(visitJob_of_idle world settings hr).2.2, List.map_append]
    unfold visitJob
    rw [if_neg (by simp [hr])]
    -- before its outcome the attempt logs a retry and the lines of its run
    refine List.Sublist.append ?_ (List.Sublist.refl _)
    exact (h.trans (List.sublist_append_left _ _)).trans (List.sublist_append_left _ _)

/-- **The outcomes of all attempts of a pass** are logged before its close. -/
theorem outcomeLines_visited (pass : Nat) (registry : Registry) (state : σ) :
    ((visited world settings pass registry state).attempts.map Attempt.outcomeLine).Sublist
      (visited world settings pass registry state).logs := by
  have begun : ((fetched world pass registry state).attempts.map Attempt.outcomeLine).Sublist
      (fetched world pass registry state).logs := by
    rw [fetched_attempts]
    exact List.nil_sublist _
  unfold visited
  generalize fetched world pass registry state = r at begun
  induction (world.answers state).desired generalizing r with
  | nil => exact begun
  | cons job jobs ih => exact ih _ (outcomeLines_visitJob world settings job begun)

end Outcomes

theorem unlistedLine_injective {id id' : String} (h : unlistedLine id = unlistedLine id') :
    id = id' := by
  have hs := congrArg (fun l => l.message.toList) h
  simp only [unlistedLine, Log.Line.warn, String.toList_append, List.append_assoc,
    List.append_cancel_left_eq, List.append_cancel_right_eq] at hs
  exact String.toList_inj.mp hs

theorem unlistedLine_ne_of_level {l : Log.Line} (h : l.level ≠ .warn) (id : String) :
    unlistedLine id ≠ l := by
  intro he
  exact h (he ▸ rfl)

/-- No line before the close reads like a warning about a job that is no longer listed. The only
    other warning is about a pipeline. -/
theorem EarlyLine.ne_unlisted {l : Log.Line} (h : EarlyLine l) (id : String) :
    unlistedLine id ≠ l := by
  cases h with
  | started pass => exact unlistedLine_ne_of_level (by simp [passStartedLine, Log.Line.info]) id
  | fetchFailed kind error =>
    exact unlistedLine_ne_of_level (by simp [fetchFailedLine, Log.Line.error]) id
  | retry id' previous => exact unlistedLine_ne_of_level (by simp [retryLine, Log.Line.info]) id
  | stepDone step => exact unlistedLine_ne_of_level (by simp [Step.doneLine, Log.Line.info]) id
  | stopped pipelineName step created hl =>
    unfold stoppedLines at hl
    split at hl
    · exact absurd hl List.not_mem_nil
    · rw [List.mem_singleton.mp hl]
      intro he
      have hs := congrArg (fun l => l.message.toList.head?) he
      simp [unlistedLine, Log.Line.warn] at hs
  | outcome id' outcome =>
    cases outcome with
    | ok job => exact unlistedLine_ne_of_level (by simp [outcomeLine, Log.Line.info]) id
    | error error => exact unlistedLine_ne_of_level (by simp [outcomeLine, Log.Line.error]) id

/-- **The log warns once of each running job that was not seen, and of no other one.** -/
theorem count_unlistedLine {σ : Type} (world : World σ) (settings : ManagerSettings) (pass : Nat)
    (registry : Registry) (state : σ) (id : String) :
    (runPass world settings pass registry state).logs.count (unlistedLine id) =
      if id ∈ (visited world settings pass registry state).registry.unseenRunning pass then 1
      else 0 := by
  have early : (visited world settings pass registry state).logs.count (unlistedLine id) = 0 :=
    List.count_eq_zero.mpr fun h =>
      (early_visited world settings pass registry state _ h).ne_unlisted id rfl
  have dropped : ∀ ids : List String, (ids.map droppedLine).count (unlistedLine id) = 0 := by
    intro ids
    refine List.count_eq_zero.mpr fun h => ?_
    obtain ⟨id', _, he⟩ := List.mem_map.mp h
    exact unlistedLine_ne_of_level (by simp [droppedLine, Log.Line.info]) id he.symm
  have done : ∀ s n, [passDoneLine s n].count (unlistedLine id) = 0 := by
    intro s n
    refine List.count_eq_zero.mpr fun h => ?_
    exact unlistedLine_ne_of_level (by simp [passDoneLine, Log.Line.info]) id
      (List.mem_singleton.mp h)
  have once : ((visited world settings pass registry state).registry.unseenRunning pass).Nodup :=
    Dict.nodup_keys _
  rw [logs_runPass, List.count_append, List.count_append, List.count_append, early, dropped, done,
    List.count_map_of_injective _ _ fun _ _ => unlistedLine_injective, List.Nodup.count once]
  omega

/-! ## 3. Warnings after a course -/

namespace Course

section Pass

variable {ρ σ : Type} (past settings : ManagerSettings) (turns : List (Turn ρ)) (t : Turn σ)

/-- The close of a pass leaves the running jobs alone. -/
theorem running_pass (c : Course) (id : String) :
    (c.pass settings t).manager.registry.running.get? id =
      (c.visits settings t).registry.running.get? id :=
  congrArg Standing.running (standing_pass settings c t id)

/-- **The close finds unseen** the jobs that run, whose kind was fetched, and that are not listed. -/
theorem mem_unseenRunning_iff (id : String) :
    let c := run past turns
    id ∈ (c.visits settings t).registry.unseenRunning (turns.length + 1) ↔
      ∃ e, (c.pass settings t).manager.registry.running.get? id = some e ∧
        ¬ t.answers.Lists id ∧ t.answers.failed e.kind = false := by
  intro c
  have member : id ∈ (c.visits settings t).registry.unseenRunning (turns.length + 1) ↔
      ∃ e, (c.visits settings t).registry.running.get? id = some e ∧
        decide (e.lastSeenPass < turns.length + 1) = true :=
    Dict.mem_keys_filter _ _ _
  rw [member, running_pass]
  refine exists_congr fun e => and_congr_right fun he => ?_
  -- the entry is of the kind that its id tells, so its fate depends on the fetch of that kind
  obtain ⟨_, name, rfl⟩ := (sound_visits settings past turns t id).own e (Or.inl he)
  have fate := fate_pass settings past turns t e.kind name
  have sound := sound_run past turns (e.kind.namespaced name)
  rw [decide_eq_true_iff, fate.unseen_iff sound (Nat.lt_succ_self _) he, decide_eq_false_iff_not]

end Pass

/-- **A pass warns of each job that runs and is no longer listed**, once, and of no other job. After
    any course of passes, with whatever settings, take one more pass. Its log is that of its fetches
    and visits, which holds the outcomes of all its attempts; then the warnings, in ascending order;
    then the lines on the failed jobs that it drops; then its numbers. A warning is logged, once, for
    each job that runs at the end of the pass, that the pass did not find listed, and whose kind it
    could fetch; for no other job is there such a warning anywhere in the log. And at every moment
    of a run, between any two moves, no entry was seen by a pass later than the latest one. -/
theorem warns_of_each_unlisted_job {ρ σ : Type} (past settings : ManagerSettings)
    (turns : List (Turn ρ)) (t : Turn σ) :
    let c := run past turns
    let c' := c.pass settings t
    let report := c.report settings t
    (∃ (before : List Log.Line) (unlisted dropped : List String) (desired : Nat),
      report.logs = before ++ unlisted.map unlistedLine ++ dropped.map droppedLine
        ++ [passDoneLine report.summary desired] ∧
      (report.attempts.map fun a => outcomeLine a.id a.outcome).Sublist before ∧
      unlisted.Pairwise (· < ·) ∧
      (∀ id, id ∈ unlisted ↔ ∃ e, c'.manager.registry.running.get? id = some e ∧
        ¬ t.answers.Lists id ∧ t.answers.failed e.kind = false) ∧
      (∀ id, report.logs.count (unlistedLine id) = if id ∈ unlisted then 1 else 0) ∧
      ∀ id, report.logs.count (droppedLine id) = if id ∈ dropped then 1 else 0) ∧
    (∀ id e, (c'.standing id).Holds e → e.lastSeenPass ≤ turns.length + 1) ∧
    ∀ moves : List (Move σ),
      let m := (({} : Manager).moves settings moves).1
      ∀ id e, (m.registry.standing id).Holds e → e.lastSeenPass ≤ m.passes := by
  intro c c' report
  refine ⟨⟨(c.visits settings t).logs,
    (c.visits settings t).registry.unseenRunning (c.manager.passes + 1),
    droppedIds settings (c.visits settings t), distinctCount t.answers.desired, ?_, ?_,
    Dict.keys_ascending _, fun id => ?_, fun id => ?_, fun id => ?_⟩, fun id e he => ?_,
    fun moves => ?_⟩
  · exact logs_runPass t.world settings _ _ t.state
  · rw [attempts_report]
    exact outcomeLines_visited t.world settings _ _ t.state
  · rw [passes_run]
    exact mem_unseenRunning_iff past settings turns t id
  · exact count_unlistedLine t.world settings _ _ t.state id
  · exact count_droppedLine t.world settings _ _ t.state id
  · have sound := (sound_visits settings past turns t id).swept (c.manager.passes + 1)
      settings.retentionPasses
    rw [← standing_pass settings c t id] at sound
    exact sound.past e he
  · intro m id e he
    exact ((Manager.steady_empty.moves settings moves).1.sound id).past e he

/-- A rule that runs is listed, then missing from a list, then its kind cannot be fetched: of the
    three passes after the first only the second warns of it. -/
example :
    let listed : Turn Nat := ⟨sampleWorld (rulesOnly [sampleRule]), 0⟩
    let gone : Turn Nat := ⟨sampleWorld (rulesOnly []), 0⟩
    let down : Turn Nat := ⟨sampleWorld fun _ => .error (.decode "hub" "no list"), 0⟩
    let warnings := fun turns t =>
      ((run {} turns).report {} t).logs.count (unlistedLine "rule_r")
    warnings [listed] listed = 0 ∧ warnings [listed, listed] gone = 1 ∧
      warnings [listed, listed, gone] down = 0 := by
  decide +kernel

end Course

end JobKeeper
