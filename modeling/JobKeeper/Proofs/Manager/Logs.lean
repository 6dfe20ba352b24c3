/-
  File:      JobKeeper/Proofs/Manager/Logs.lean
  Subject:   The log of a pass: what is logged before its close, and what the close adds.

  * `EarlyLine`, `early_visited`: every line that a pass logs before its close is of one of six
    kinds;
  * `logs_runPass`: the close adds the running jobs that are no longer listed, the failed ones that
    are dropped, and the line that sums up the pass;
  * `EarlyLine.ne_dropped` and its like: no other line reads like one about a dropped job.
-/
import JobKeeper.Proofs.Dict
import JobKeeper.Proofs.Manager.Pass
import JobKeeper.Proofs.Plan.Execution

namespace JobKeeper

/-! ## 1. Lines before the close -/

/-- **The lines that a pass logs before its close.** -/
inductive EarlyLine : Log.Line → Prop where
  | started (pass) : EarlyLine (passStartedLine pass)
  | fetchFailed (kind error) : EarlyLine (fetchFailedLine kind error)
  | retry (id previous) : EarlyLine (retryLine id previous)
  | stepDone (step : Step) : EarlyLine step.doneLine
  | stopped {l} (pipelineName step created) (h : l ∈ stoppedLines pipelineName step created) :
      EarlyLine l
  | outcome (id outcome) : EarlyLine (outcomeLine id outcome)

section Visited

variable {σ : Type} (world : World σ) (settings : ManagerSettings)

theorem early_fetchKind (kind : JobKind) {r : PassReport σ} (h : ∀ l ∈ r.logs, EarlyLine l) :
    ∀ l ∈ (fetchKind world kind r).2.logs, EarlyLine l := by
  unfold fetchKind
  cases hf : world.fetch kind r.state with
  | mk answer state =>
    cases answer with
    | ok jobs => exact h
    | error error =>
      intro l hl
      rcases List.mem_append.mp hl with hl | hl
      · exact h l hl
      · exact List.mem_singleton.mp hl ▸ .fetchFailed kind error

theorem early_visitJob (job : Job) {r : PassReport σ} (h : ∀ l ∈ r.logs, EarlyLine l) :
    ∀ l ∈ (visitJob world settings r job).logs, EarlyLine l := by
  cases hr : r.registry.isRunning job.trackingId with
  | true =>
    rw [visitJob_of_running world settings hr]
    exact h
  | false =>
    unfold visitJob
    rw [if_neg (by simp [hr])]
    intro l hl
    -- the lines so far with a retry, the lines of the run, and the outcome
    rcases List.mem_append.mp hl with hl | hl
    · rcases List.mem_append.mp hl with hl | hl
      · rcases List.mem_append.mp hl with hl | hl
        · exact h l hl
        · obtain ⟨previous, _, rfl⟩ := Option.map_eq_some_iff.mp (Option.mem_toList.mp hl)
          exact .retry _ _
      · rcases mem_logs_compile hl with ⟨step, rfl⟩ | ⟨pipelineName, step, created, hl⟩
        · exact .stepDone step
        · exact .stopped pipelineName step created hl
    · exact List.mem_singleton.mp hl ▸ .outcome _ _

/-- **Every line that a pass logs before its close is of one of the six kinds.** -/
theorem early_visited (pass : Nat) (registry : Registry) (state : σ) :
    ∀ l ∈ (visited world settings pass registry state).logs, EarlyLine l := by
  have begun : ∀ l ∈ (PassReport.begin pass registry state).logs, EarlyLine l :=
    fun l hl => List.mem_singleton.mp hl ▸ .started pass
  have hf : ∀ l ∈ (fetched world pass registry state).logs, EarlyLine l :=
    early_fetchKind world .rule (early_fetchKind world .behavior begun)
  unfold visited
  generalize fetched world pass registry state = r at hf
  induction (world.answers state).desired generalizing r with
  | nil => exact hf
  | cons job jobs ih => exact ih _ (early_visitJob world settings job hf)

end Visited

/-! ## 2. What the close adds -/

/-- The ids of the failed jobs that the close of a pass drops, in ascending order. -/
def droppedIds {σ : Type} (settings : ManagerSettings) (r : PassReport σ) : List String :=
  (r.registry.evictFailed r.summary.pass settings.retentionPasses).1

theorem mem_droppedIds_iff {σ : Type} (settings : ManagerSettings) (r : PassReport σ)
    (id : String) :
    id ∈ droppedIds settings r ↔ ∃ e, (r.registry.standing id).failed = some e ∧
      Registry.isStale r.summary.pass settings.retentionPasses e = true :=
  Dict.mem_keys_filter _ _ _

theorem droppedIds_ascending {σ : Type} (settings : ManagerSettings) (r : PassReport σ) :
    (droppedIds settings r).Pairwise (· < ·) := Dict.keys_ascending _

theorem nodup_droppedIds {σ : Type} (settings : ManagerSettings) (r : PassReport σ) :
    (droppedIds settings r).Nodup := Dict.nodup_keys _

theorem logs_closePass {σ : Type} (settings : ManagerSettings) (desired : Nat)
    (r : PassReport σ) :
    (closePass settings desired r).logs =
      r.logs ++ (r.registry.unseenRunning r.summary.pass).map unlistedLine
        ++ (droppedIds settings r).map droppedLine
        ++ [passDoneLine (closePass settings desired r).summary desired] := rfl

section Close

variable {σ : Type} (world : World σ) (settings : ManagerSettings) (pass : Nat)
  (registry : Registry) (state : σ)

/-- **The log of a pass**: the lines before its close, then the running jobs that were not seen,
    the failed jobs that are dropped, and the numbers. -/
theorem logs_runPass :
    let v := visited world settings pass registry state
    (runPass world settings pass registry state).logs =
      v.logs ++ (v.registry.unseenRunning pass).map unlistedLine
        ++ (droppedIds settings v).map droppedLine
        ++ [passDoneLine (runPass world settings pass registry state).summary
              (distinctCount (world.answers state).desired)] := by
  intro v
  rw [runPass_eq, logs_closePass, visited_pass]

/-- The numbers of a pass: those after the visits, with the number of jobs dropped. -/
theorem summary_runPass :
    (runPass world settings pass registry state).summary =
      { (visited world settings pass registry state).summary with
        evicted := (droppedIds settings (visited world settings pass registry state)).length } := by
  rw [runPass_eq]
  rfl

end Close

/-! ## 3. Lines about dropped jobs -/

/-- The text of a line about a dropped job begins with its own word. -/
theorem droppedLine_ne_info {s : String} (h : s.toList.head? ≠ some 'D') (id : String) :
    droppedLine id ≠ .info s := by
  intro he
  have hs := congrArg Log.Line.message he
  apply h
  rw [← show (droppedLine id).message = s from hs]
  simp [droppedLine, Log.Line.info]

theorem droppedLine_ne_of_level {l : Log.Line} (h : l.level ≠ .info) (id : String) :
    droppedLine id ≠ l := by
  rintro rfl
  exact h rfl

theorem droppedLine_injective {id id' : String} (h : droppedLine id = droppedLine id') :
    id = id' := by
  have hs := congrArg (fun l => l.message.toList) h
  simp only [droppedLine, Log.Line.info, String.toList_append, List.append_assoc,
    List.append_cancel_left_eq, List.append_cancel_right_eq] at hs
  exact String.toList_inj.mp hs

/-- No line before the close reads like one about a dropped job. -/
theorem EarlyLine.ne_dropped {l : Log.Line} (h : EarlyLine l) (id : String) :
    droppedLine id ≠ l := by
  cases h with
  | started pass => exact droppedLine_ne_info (by simp) id
  | fetchFailed kind error =>
    exact droppedLine_ne_of_level (by simp [fetchFailedLine, Log.Line.error]) id
  | retry id' previous => exact droppedLine_ne_info (by simp) id
  | stepDone step => exact droppedLine_ne_info (by simp) id
  | stopped pipelineName step created hl =>
    unfold stoppedLines at hl
    split at hl
    · exact absurd hl List.not_mem_nil
    · rw [List.mem_singleton.mp hl]
      exact droppedLine_ne_of_level (by simp [Log.Line.warn]) id
  | outcome id' outcome =>
    cases outcome with
    | ok job => exact droppedLine_ne_info (by simp) id
    | error error => exact droppedLine_ne_of_level (by simp [outcomeLine, Log.Line.error]) id

/-- **The log tells once of each dropped job, and of no other one.** -/
theorem count_droppedLine {σ : Type} (world : World σ) (settings : ManagerSettings) (pass : Nat)
    (registry : Registry) (state : σ) (id : String) :
    (runPass world settings pass registry state).logs.count (droppedLine id) =
      if id ∈ droppedIds settings (visited world settings pass registry state) then 1 else 0 := by
  have early : (visited world settings pass registry state).logs.count (droppedLine id) = 0 :=
    List.count_eq_zero.mpr fun h =>
      (early_visited world settings pass registry state _ h).ne_dropped id rfl
  have unlisted : ∀ ids : List String, (ids.map unlistedLine).count (droppedLine id) = 0 := by
    intro ids
    refine List.count_eq_zero.mpr fun h => ?_
    obtain ⟨id', _, he⟩ := List.mem_map.mp h
    have hl : (unlistedLine id').level ≠ .info := by simp [unlistedLine, Log.Line.warn]
    exact droppedLine_ne_of_level hl id he.symm
  have done : ∀ s n, [passDoneLine s n].count (droppedLine id) = 0 := by
    intro s n
    refine List.count_eq_zero.mpr fun h => ?_
    exact droppedLine_ne_info (by simp) id (List.mem_singleton.mp h)
  have once := nodup_droppedIds settings (visited world settings pass registry state)
  rw [logs_runPass, List.count_append, List.count_append, List.count_append, early, unlisted, done,
    List.count_map_of_injective _ _ fun _ _ => droppedLine_injective, List.Nodup.count once]
  omega

end JobKeeper
