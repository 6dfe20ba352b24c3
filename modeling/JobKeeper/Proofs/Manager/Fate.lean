/-
  File:      JobKeeper/Proofs/Manager/Fate.lean
  Subject:   What becomes of one job in the visits of a pass.

  A job may be listed many times in one pass, and each visit sees what the ones before it wrote.
  Yet only three things can come of it all (`Fate`): it was not listed; it ran already; or it was
  attempted, and the last attempt decides where it stands.

  * `fate_foldl`: the visits of any list of jobs bring one of the three;
  * `fate_visited`: so do the visits of a whole pass, after its fetches.
-/
import JobKeeper.Proofs.Manager.Pass
import Mathlib.Data.List.Induction

namespace JobKeeper

/-! ## 1. Three fates -/

/-- **What the visits of a pass can come to for a job** that stood at `s`: whether it was listed,
    where it stands afterwards, and the attempts made for it. -/
inductive Fate (id : String) (pass : Nat) (s : Standing) :
    Bool → Standing → List Attempt → Prop where
  /-- It was not listed. -/
  | unlisted : Fate id pass s false s []
  /-- It was listed and ran already. -/
  | seen (e : JobEntry) (running : s.running = some e) :
      Fate id pass s true { s with running := some (e.seenIn pass) } []
  /-- It was listed and did not run: the last attempt counts. -/
  | tried (attempts : List Attempt) (a : Attempt) (idle : s.running = none)
      (last : attempts.getLast? = some a) (own : a.id = id) :
      Fate id pass s true (.recorded id a.kind a.stamp pass a.outcome) attempts

namespace Fate

variable {id : String} {pass : Nat} {s s' : Standing} {listed : Bool} {new : List Attempt}

/-- A job that runs now is seen once more by the next visit of it. -/
theorem visit_running (h : Fate id pass s listed s' new) {e : JobEntry}
    (hr : s'.running = some e) (a : Attempt) : Fate id pass s true (s'.visited pass a) new := by
  cases h with
  | unlisted =>
    have seen : Fate id pass s true _ [] := .seen e hr
    simpa only [Standing.visited, hr] using seen
  | seen e₀ hr₀ => exact .seen e₀ hr₀
  | tried attempts a₀ idle last own =>
    have tried : Fate id pass s true _ new := .tried new a₀ idle last own
    cases ho : a₀.outcome with
    | ok job =>
      rw [ho] at tried
      exact tried
    | error error =>
      rw [ho] at hr
      cases hr

/-- A job that does not run now is attempted by the next visit of it. -/
theorem visit_idle (h : Fate id pass s listed s' new) (hr : s'.running = none) {a : Attempt}
    (ha : a.id = id) : Fate id pass s true (s'.visited pass a) (new ++ [a]) := by
  have idle : s.running = none := by
    cases h with
    | unlisted => exact hr
    | seen e he => cases hr
    | tried attempts a₀ idle last own => exact idle
  have tried : Fate id pass s true _ (new ++ [a]) := .tried _ a idle List.getLast?_concat ha
  simpa only [Standing.visited, hr, ha] using tried

/-- A job of which the close of the pass leaves nothing was not listed. -/
theorem of_swept_empty (h : Fate id pass s listed s' new) {retention : Nat}
    (hgone : s'.swept pass retention = {}) : listed = false ∧ s' = s := by
  cases h with
  | unlisted => exact ⟨rfl, rfl⟩
  | seen e he => cases hgone
  | tried attempts a idle last own =>
    rw [Standing.recorded_swept] at hgone
    cases ho : a.outcome <;> rw [ho] at hgone <;> cases hgone

/-- **A listed job ends up with one entry**, which the pass has seen and its close leaves alone. -/
theorem entry_of_listed (h : Fate id pass s true s' new) {latest : Nat}
    (sound : s'.Sound latest id) (retention : Nat) :
    ∃ e, e.lastSeenPass = pass ∧ (s'.swept pass retention = ⟨some e, none⟩ ∨
      s'.swept pass retention = ⟨none, some e⟩) := by
  cases h with
  | seen e he =>
    refine ⟨e.seenIn pass, rfl, Or.inl (Standing.ext rfl ?_)⟩
    have none_failed := sound.failed_eq_none (e := e.seenIn pass) rfl
    show Option.filter _ s.failed = none
    rw [none_failed]
    rfl
  | tried attempts a idle last own =>
    rw [Standing.recorded_swept]
    cases a.outcome with
    | ok job => exact ⟨_, rfl, Or.inl rfl⟩
    | error error => exact ⟨_, rfl, Or.inr rfl⟩

/-- A job that is not listed is not attempted. -/
theorem attempts_eq_nil (h : Fate id pass s false s' new) : new = [] := by
  cases h
  rfl

end Fate

/-! ## 2. The visits of a list of jobs -/

section Visits

variable {σ : Type} (world : World σ) (settings : ManagerSettings)

/-- **The visits of any jobs bring one of the three fates.** The induction is on the last visit,
    since it is the last attempt that counts. -/
theorem fate_foldl (id : String) (jobs : List Job) (r : PassReport σ) :
    ∃ new, Fate id r.summary.pass (r.registry.standing id) (jobs.any (·.trackingId = id))
        ((jobs.foldl (visitJob world settings) r).registry.standing id) new ∧
      (jobs.foldl (visitJob world settings) r).attempts.filter (·.id = id) =
        r.attempts.filter (·.id = id) ++ new := by
  induction jobs using List.reverseRecOn with
  | nil => exact ⟨[], .unlisted, (List.append_nil _).symm⟩
  | append_singleton jobs job ih =>
    obtain ⟨new, fate, hnew⟩ := ih
    have hpass := foldl_visitJob_pass world settings jobs r
    rw [List.foldl_append, List.foldl_cons, List.foldl_nil, List.any_append,
      List.any_cons, List.any_nil, Bool.or_false]
    generalize jobs.foldl (visitJob world settings) r = r' at fate hnew hpass
    rw [standing_visitJob, attempts_visitJob, List.filter_append, hnew, hpass]
    by_cases hid : job.trackingId = id
    · subst hid
      rw [if_pos rfl, decide_eq_true rfl, Bool.or_true, Registry.isRunning_eq]
      cases hr : (r'.registry.standing job.trackingId).running with
      | some e => exact ⟨new, fate.visit_running hr _, by simp⟩
      | none =>
        refine ⟨new ++ [attemptOn world settings job r'.state], fate.visit_idle hr rfl, ?_⟩
        simp [attemptOn]
    · rw [if_neg hid]
      refine ⟨new, ?_, ?_⟩
      · simpa [hid] using fate
      · split
        · simp
        · simp [attemptOn, hid]

end Visits

/-! ## 3. The visits of a pass -/

instance (a : Answers) (id : String) : Decidable (a.Lists id) :=
  inferInstanceAs (Decidable (∃ job ∈ a.desired, job.trackingId = id))

/-- **The visits of a pass bring one of the three fates** to each job, from where it stands after
    the fetches. -/
theorem fate_visited {σ : Type} (world : World σ) (settings : ManagerSettings) {latest pass : Nat}
    {registry : Registry} (h : registry.Sound latest) (hle : latest ≤ pass) (state : σ)
    (kind : JobKind) (name : String) :
    let id := kind.namespaced name
    let r := visited world settings pass registry state
    Fate id pass ((registry.standing id).refetched pass ((world.answers state).failed kind))
      ((world.answers state).Lists id) (r.registry.standing id)
      (r.attempts.filter (·.id = id)) := by
  intro id r
  obtain ⟨new, fate, hnew⟩ := fate_foldl world settings id (world.answers state).desired
    (fetched world pass registry state)
  have listed : (world.answers state).desired.any (·.trackingId = id) =
      decide ((world.answers state).Lists id) := by
    rw [Bool.eq_iff_iff, List.any_eq_true, decide_eq_true_iff]
    simp only [decide_eq_true_iff]
    rfl
  rw [standing_fetched world (h.mono hle), fetched_summary, listed] at fate
  rw [fetched_attempts, List.filter_nil, List.nil_append] at hnew
  rw [show r.attempts.filter (·.id = id) = new from hnew]
  exact fate

end JobKeeper
