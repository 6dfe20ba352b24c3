/-
  File:      JobKeeper/Proofs/Manager/Balance.lean
  Subject:   The numbers of a pass add up, and no desired job is lost.

  Each visit adds one to one of three counters, and a visit that adds to `started` adds an entry to
  the running map; so over any list of jobs the counters add up to its length (`balance_visits`).
  That each listed job ends up with an entry that the pass has seen is read off its fate
  (`seen_of_lists`). `accounts_for_each_listing` puts the two together for a whole pass.
-/
import JobKeeper.Proofs.Manager.Course
import JobKeeper.Proofs.Manager.Logs

namespace JobKeeper

/-! ## 1. One visit -/

/-- How many listings a pass has accounted for. -/
def PassSummary.handled (s : PassSummary) : Nat := s.started + s.failed + s.alreadyRunning

theorem PassSummary.handled_count (s : PassSummary) (outcome : Except CompileError StartedJob) :
    (s.count outcome).handled = s.handled + 1 := by
  cases outcome with
  | ok job => simp only [count, handled]; omega
  | error error => simp only [count, handled]; omega

theorem PassSummary.started_count (s : PassSummary) (outcome : Except CompileError StartedJob) :
    (s.count outcome).started = s.started + if outcome.isOk then 1 else 0 := by
  cases outcome <;> rfl

section Visit

variable {σ : Type} (world : World σ) (settings : ManagerSettings) (r : PassReport σ) (job : Job)

theorem handled_visitJob :
    (visitJob world settings r job).summary.handled = r.summary.handled + 1 := by
  rw [summary_visitJob]
  split
  · exact (Nat.add_assoc _ _ 1).symm
  · exact r.summary.handled_count _

theorem fetchErrors_visitJob :
    (visitJob world settings r job).summary.fetchErrors = r.summary.fetchErrors := by
  rw [summary_visitJob]
  split
  · rfl
  · cases (attemptOn world settings job r.state).outcome <;> rfl

/-- A touch gives no job an entry and takes none away. -/
theorem Registry.size_running_touch (registry : Registry) (id : String) (pass : Nat) :
    (registry.touch id pass).running.size = registry.running.size := by
  refine Dict.size_congr fun id' => ?_
  have hs := congrArg (fun s => s.running.isSome) (registry.standing_touch id pass id')
  refine hs.trans ?_
  split
  · next hid =>
    subst hid
    show _ = (registry.standing id).running.isSome
    unfold Standing.seenIn
    cases hr : (registry.standing id).running with
    | some e => rfl
    | none => rfl
  · rfl

/-- The record of an attempt for an idle job: a success is one more running job, a failure is
    none. -/
theorem Registry.size_running_record {registry : Registry} {id : String}
    (h : registry.isRunning id = false) (kind : JobKind) (stamp : Instant) (pass : Nat)
    (outcome : Except CompileError StartedJob) :
    (registry.record id kind stamp pass outcome).running.size =
      registry.running.size + if outcome.isOk then 1 else 0 := by
  have idle : registry.running.get? id = none := by
    rwa [isRunning, Dict.contains, Option.isSome_eq_false_iff, Option.isNone_iff_eq_none] at h
  cases outcome with
  | ok job => exact Dict.size_insert_of_new idle _
  | error error =>
    refine Dict.size_congr fun id' => ?_
    show ((registry.running.erase id).get? id').isSome = _
    rw [Dict.get?_erase]
    split
    · next hid => rw [← hid, idle]
    · rfl

/-- A visit adds as many running jobs as it adds to the number of those started. -/
theorem size_running_visitJob :
    (visitJob world settings r job).registry.running.size + r.summary.started =
      r.registry.running.size + (visitJob world settings r job).summary.started := by
  rw [summary_visitJob]
  cases h : r.registry.isRunning job.trackingId with
  | true =>
    rw [visitJob_of_running world settings h, if_pos rfl]
    show (r.registry.touch job.trackingId r.summary.pass).running.size + _ = _
    rw [Registry.size_running_touch]
  | false =>
    have cleared : (r.registry.clearFailed job.trackingId).2.isRunning job.trackingId = false := h
    rw [(visitJob_of_idle world settings h).1, if_neg (by simp)]
    show ((r.registry.clearFailed job.trackingId).2.record job.trackingId _ _ _ _).running.size
      + _ = _
    rw [Registry.size_running_record cleared]
    show r.registry.running.size + _ + _ = _
    rw [PassSummary.started_count]
    omega

end Visit

/-! ## 2. All visits of a pass -/

section Visits

variable {σ : Type} (world : World σ) (settings : ManagerSettings)

/-- **The visits of any jobs balance**: each listing adds one to the counters, and as many jobs
    have begun to run as were started. -/
theorem balance_visits (jobs : List Job) (r : PassReport σ) :
    let r' := jobs.foldl (visitJob world settings) r
    r'.summary.handled = r.summary.handled + jobs.length ∧
      r'.summary.fetchErrors = r.summary.fetchErrors ∧
      r'.registry.running.size + r.summary.started =
        r.registry.running.size + r'.summary.started := by
  induction jobs generalizing r with
  | nil => exact ⟨rfl, rfl, rfl⟩
  | cons job jobs ih =>
    obtain ⟨handled, errors, size⟩ := ih (visitJob world settings r job)
    have handled₁ := handled_visitJob world settings r job
    have errors₁ := fetchErrors_visitJob world settings r job
    have size₁ := size_running_visitJob world settings r job
    refine ⟨?_, errors.trans errors₁, ?_⟩
    · rw [List.foldl_cons, List.length_cons]
      omega
    · rw [List.foldl_cons]
      omega

theorem Registry.size_running_refetched (registry : Registry) (kind : JobKind) (pass : Nat)
    (failed : Bool) :
    (registry.refetched kind pass failed).running.size = registry.running.size := by
  cases failed with
  | false => rfl
  | true => exact Dict.size_map _ _

/-- The visits of a pass balance, from the empty counters on. -/
theorem balance_visited (pass : Nat) (registry : Registry) (state : σ) :
    let v := visited world settings pass registry state
    v.summary.handled = (world.answers state).desired.length ∧
      v.summary.fetchErrors = (world.answers state).fetchErrors ∧
      v.registry.running.size = registry.running.size + v.summary.started := by
  obtain ⟨handled, errors, size⟩ := balance_visits world settings (world.answers state).desired
    (fetched world pass registry state)
  rw [fetched_summary] at handled errors size
  rw [fetched_registry, Registry.size_running_refetched, Registry.size_running_refetched] at size
  exact ⟨handled.trans (Nat.zero_add _), errors, size⟩

end Visits

/-! ## 3. Different jobs -/

theorem nodup_eraseDups {α : Type} [BEq α] [LawfulBEq α] (l : List α) : l.eraseDups.Nodup := by
  induction hn : l.length using Nat.strongRecOn generalizing l with
  | ind n ih =>
    cases l with
    | nil => exact List.nodup_nil
    | cons a l =>
      subst hn
      rw [List.eraseDups_cons, List.nodup_cons]
      refine ⟨?_, ih _ (Nat.lt_succ_of_le (List.length_filter_le _ _)) _ rfl⟩
      rw [List.mem_eraseDups, List.mem_filter]
      simp

/-- The number of different jobs is that of their ids as a set. -/
theorem distinctCount_eq_card (jobs : List Job) :
    distinctCount jobs = (jobs.map Job.trackingId).toFinset.card := by
  have same : (jobs.map Job.trackingId).eraseDups.toFinset =
      (jobs.map Job.trackingId).toFinset := by
    ext id
    rw [List.mem_toFinset, List.mem_toFinset, List.mem_eraseDups]
  rw [distinctCount, ← List.toFinset_card_of_nodup (nodup_eraseDups _), same]

/-! ## 4. The whole pass -/

namespace Course

section Pass

variable {ρ σ : Type} (past settings : ManagerSettings) (turns : List (Turn ρ)) (t : Turn σ)

/-- A listed job ends up with one entry, which the pass has seen. -/
theorem seen_of_lists {id : String} (h : t.answers.Lists id) :
    ∃ e, e.lastSeenPass = turns.length + 1 ∧
      (((run past turns).pass settings t).standing id = ⟨some e, none⟩ ∨
        ((run past turns).pass settings t).standing id = ⟨none, some e⟩) := by
  obtain ⟨job, hjob, rfl⟩ := h
  have listed : t.answers.Lists (job.kind.namespaced job.id) := ⟨job, hjob, rfl⟩
  have fate := fate_pass settings past turns t job.kind job.id
  have sound := sound_visits settings past turns t (job.kind.namespaced job.id)
  rw [decide_eq_true listed] at fate
  rw [standing_pass, passes_run]
  exact fate.entry_of_listed sound settings.retentionPasses

/-- A job is dropped exactly if it counts as failed before the close and not after it; a listed one
    is not. -/
theorem mem_droppedIds_visits (id : String) :
    let c := run past turns
    (id ∈ droppedIds settings (c.visits settings t) ↔
      (c.visits settings t).registry.failed.contains id = true ∧
        (c.pass settings t).manager.registry.failed.contains id = false) ∧
    (id ∈ droppedIds settings (c.visits settings t) → ¬ t.answers.Lists id) := by
  intro c
  have after : (c.pass settings t).manager.registry.failed.get? id =
      ((c.visits settings t).registry.failed.get? id).filter fun e =>
        !Registry.isStale (turns.length + 1) settings.retentionPasses e := by
    rw [← passes_run past turns]
    exact congrArg Standing.failed (standing_pass settings c t id)
  have member := mem_droppedIds_iff settings (c.visits settings t) id
  rw [pass_visits] at member
  constructor
  · rw [member, Dict.contains, Dict.contains, after]
    show (∃ e, (c.visits settings t).registry.failed.get? id = some e ∧ _) ↔ _
    cases (c.visits settings t).registry.failed.get? id with
    | none => simp
    | some e =>
      cases hst : Registry.isStale (turns.length + 1) settings.retentionPasses e <;>
        simp [hst, Option.filter]
  · intro hd hl
    have sound := sound_visits settings past turns t id
    have hgone := ((sound.stale_iff _ _).mp (member.mp hd)).2
    obtain ⟨e, _, hs⟩ := seen_of_lists past settings turns t hl
    rw [standing_pass, passes_run, hgone] at hs
    rcases hs with hs | hs <;> cases hs

end Pass

end Course

end JobKeeper
