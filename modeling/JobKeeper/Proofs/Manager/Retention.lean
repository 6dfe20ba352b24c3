/-
  File:      JobKeeper/Proofs/Manager/Retention.lean
  Subject:   How long a failed job is kept, and when it is dropped.

  The registry keeps one number of a failed job, the pass that last saw it, and a pass compares
  that number with its own. Over a course of passes this comes to a statement about the whole
  history of answers:

  * `Chronicle`: what the standing of a job tells about the passes so far; the age of a failed
    entry is the number of passes in a row that have shown the job gone;
  * `chronicle_run`: it holds after every course;
  * `failed_lifetime`: a failed job is kept exactly until it has been gone for long, and the pass
    that completes the time drops it and says so once.
-/
import JobKeeper.Proofs.Manager.Absence
import JobKeeper.Proofs.Manager.Course
import JobKeeper.Proofs.Manager.Logs

namespace JobKeeper

namespace Course

/-! ## 1. What a course has seen of a job -/

section Definitions

variable (c : Course)

/-- A pass has listed the job. -/
def Listed (id : String) : Prop := ∃ a ∈ c.answers, a.Lists id

/-- The attempts for the job, in order. -/
def attemptsFor (id : String) : List Attempt := c.attempts.filter (·.id = id)

/-- An attempt for the job has succeeded. -/
def Succeeded (id : String) : Prop := ∃ a ∈ c.attemptsFor id, a.outcome.isOk = true

/-- The entry tells of the latest attempt for the job: when it began, and its error. -/
def FailedAs (id : String) (e : JobEntry) : Prop :=
  ∃ a error, (c.attemptsFor id).getLast? = some a ∧ a.outcome = .error error ∧
    e.error = some error.message ∧ e.attemptedAt = a.stamp

/-- **The job counts as failed**: it was listed, it was never started, and it has not been gone for
    long since. Zero passes are for ever. -/
def OpenFailure (retention : Nat) (kind : JobKind) (name : String) : Prop :=
  c.Listed (kind.namespaced name) ∧ ¬ c.Succeeded (kind.namespaced name) ∧
    (retention = 0 ∨ ¬ LongGone retention kind name c.answers)

end Definitions

/-- **What an entry among the failed jobs tells about the passes so far.** The passes since it was
    last seen are those in a row that have shown the job gone. -/
structure FailedEntry (c : Course) (retention : Nat) (kind : JobKind) (name : String)
    (e : JobEntry) : Prop where
  listed : c.Listed (kind.namespaced name)
  age : e.lastSeenPass + goneFor kind name c.answers = c.answers.length
  kept : retention = 0 ∨ ¬ LongGone retention kind name c.answers
  latest : c.FailedAs (kind.namespaced name) e

/-- **What the standing of a job tells about the passes so far.** -/
inductive Chronicle (c : Course) (retention : Nat) (kind : JobKind) (name : String) :
    Standing → Prop where
  | running (e : JobEntry) (succeeded : c.Succeeded (kind.namespaced name)) :
      Chronicle c retention kind name ⟨some e, none⟩
  | failed (e : JobEntry) (entry : c.FailedEntry retention kind name e) :
      Chronicle c retention kind name ⟨none, some e⟩
  | absent (why : ¬ c.Listed (kind.namespaced name) ∨
        (retention ≠ 0 ∧ LongGone retention kind name c.answers)) :
      Chronicle c retention kind name ⟨none, none⟩

/-! ## 2. One more pass -/

section Pass

variable {c c' : Course} {retention : Nat} {kind : JobKind} {name : String} {a : Answers}
  {new : List Attempt}

theorem listed_concat_iff {id : String} (ha : c'.answers = c.answers ++ [a]) :
    c'.Listed id ↔ c.Listed id ∨ a.Lists id := by
  unfold Listed
  rw [ha]
  simp only [List.mem_append, List.mem_singleton, or_and_right, exists_or, exists_eq_left]

theorem length_concat (ha : c'.answers = c.answers ++ [a]) :
    c'.answers.length = c.answers.length + 1 := by
  rw [ha, List.length_append]
  rfl

theorem Succeeded.append {id : String} (h : c.Succeeded id)
    (hn : c'.attemptsFor id = c.attemptsFor id ++ new) : c'.Succeeded id := by
  obtain ⟨b, hb, hok⟩ := h
  exact ⟨b, hn ▸ List.mem_append_left _ hb, hok⟩

/-- Without a new attempt the entry still tells of the latest one. -/
theorem FailedAs.same {id : String} {e : JobEntry} (h : c.FailedAs id e)
    (hn : c'.attemptsFor id = c.attemptsFor id) : c'.FailedAs id e := by
  obtain ⟨b, error, hb, rest⟩ := h
  exact ⟨b, error, hn ▸ hb, rest⟩

/-- A failure in the new pass makes an entry that the pass has seen. -/
theorem failedEntry_of_lists (ha : c'.answers = c.answers ++ [a])
    (hl : a.Lists (kind.namespaced name)) {last : Attempt}
    (latest : (c'.attemptsFor (kind.namespaced name)).getLast? = some last)
    {error : CompileError} (ho : last.outcome = .error error) (id : String) (jobKind : JobKind) :
    c'.FailedEntry retention kind name
      (.failed id jobKind error.message last.stamp (c.answers.length + 1)) where
  listed := (listed_concat_iff ha).mpr (Or.inr hl)
  age := by
    rw [length_concat ha, ha,
      goneFor_concat_of_not_gone _ (Answers.not_showsGone_of_lists hl)]
    rfl
  kept := by
    rw [ha]
    exact kept_concat fun _ => Or.inl hl
  latest := ⟨last, error, latest, ho, rfl, rfl⟩

namespace FailedEntry

variable {e : JobEntry}

/-- A failed fetch tells nothing about the job, so its entry counts as seen. -/
theorem unheard (h : c.FailedEntry retention kind name e) (ha : c'.answers = c.answers ++ [a])
    (hn : c'.attemptsFor (kind.namespaced name) = c.attemptsFor (kind.namespaced name))
    (hf : a.failed kind = true) :
    c'.FailedEntry retention kind name (e.seenIn (c.answers.length + 1)) := by
  have unknown : ¬ a.ShowsGone kind name := Answers.not_showsGone_of_failed hf
  have none_gone := goneFor_concat_of_not_gone c.answers unknown
  refine ⟨(listed_concat_iff ha).mpr (Or.inl h.listed), ?_, ?_, h.latest.same hn⟩
  · rw [length_concat ha, ha, none_gone]
    rfl
  · rw [ha]
    refine kept_concat fun hr => Or.inr ⟨h.kept.resolve_left hr, ?_⟩
    rw [none_gone]
    exact Nat.pos_of_ne_zero hr

/-- An entry is stale exactly if, with the new pass, enough passes in a row have shown the job
    gone. -/
theorem isStale_iff (h : c.FailedEntry retention kind name e)
    (ha : c'.answers = c.answers ++ [a]) (hg : a.ShowsGone kind name) :
    Registry.isStale (c.answers.length + 1) retention e = true ↔
      retention ≠ 0 ∧ LongGone retention kind name c'.answers := by
  have one_more := goneFor_concat_of_gone c.answers hg
  have age := h.age
  have hage : c.answers.length + 1 - e.lastSeenPass = goneFor kind name c'.answers := by
    rw [ha, one_more]
    omega
  simp only [Registry.isStale, Bool.and_eq_true, decide_eq_true_eq, ne_eq, hage]
  refine and_congr_right fun hr => ?_
  rw [ha, longGone_concat hr, ← ha]
  exact ⟨fun hle => ⟨hg.2, Or.inr hle⟩, fun h' => h'.2.resolve_left (h.kept.resolve_left hr)⟩

/-- An entry that is not stale grows older by one pass. -/
theorem older (h : c.FailedEntry retention kind name e) (ha : c'.answers = c.answers ++ [a])
    (hn : c'.attemptsFor (kind.namespaced name) = c.attemptsFor (kind.namespaced name))
    (hg : a.ShowsGone kind name)
    (hst : Registry.isStale (c.answers.length + 1) retention e = false) :
    c'.FailedEntry retention kind name e := by
  refine ⟨(listed_concat_iff ha).mpr (Or.inl h.listed), ?_, ?_, h.latest.same hn⟩
  · rw [length_concat ha, ha, goneFor_concat_of_gone c.answers hg, ← Nat.add_assoc, h.age]
  · rw [← Bool.not_eq_true, h.isStale_iff ha hg] at hst
    by_cases hr : retention = 0
    · exact Or.inl hr
    · exact Or.inr fun hlong => hst ⟨hr, hlong⟩

end FailedEntry

namespace Chronicle

/-- A job that was attempted in the new pass stands as its last attempt says. -/
theorem recorded (ha : c'.answers = c.answers ++ [a])
    (hn : c'.attemptsFor (kind.namespaced name) = c.attemptsFor (kind.namespaced name) ++ new)
    (hl : a.Lists (kind.namespaced name)) {last : Attempt} (hlast : new.getLast? = some last)
    (id : String) (jobKind : JobKind) :
    c'.Chronicle retention kind name
      ((Standing.recorded id jobKind last.stamp (c.answers.length + 1) last.outcome).swept
        (c.answers.length + 1) retention) := by
  have latest : (c'.attemptsFor (kind.namespaced name)).getLast? = some last := by
    rw [hn, List.getLast?_append, hlast]
    rfl
  cases ho : last.outcome with
  | ok job => exact .running _ ⟨last, List.mem_of_getLast? latest, by rw [ho]; rfl⟩
  | error error =>
    have entry : c'.FailedEntry retention kind name _ :=
      failedEntry_of_lists ha hl latest ho id jobKind
    rw [Standing.recorded_swept]
    exact .failed _ entry

/-- A job that is neither running nor listed: only its failed entry can change. -/
theorem unlisted {o : Option JobEntry} (h : c.Chronicle retention kind name ⟨none, o⟩)
    (ha : c'.answers = c.answers ++ [a])
    (hn : c'.attemptsFor (kind.namespaced name) = c.attemptsFor (kind.namespaced name))
    (hnot : ¬ a.Lists (kind.namespaced name)) :
    c'.Chronicle retention kind name
      ((Standing.refetched ⟨none, o⟩ (c.answers.length + 1) (a.failed kind)).swept
        (c.answers.length + 1) retention) := by
  cases h with
  | failed e entry =>
    cases hf : a.failed kind with
    | true =>
      have seen : ∀ e', some (e.seenIn (c.answers.length + 1)) = some e' →
          e'.lastSeenPass = c.answers.length + 1 := by
        intro e' he
        cases he
        rfl
      rw [Standing.swept_of_seen seen]
      exact .failed _ (entry.unheard ha hn hf)
    | false =>
      have hg : a.ShowsGone kind name := ⟨hf, hnot⟩
      show c'.Chronicle retention kind name ⟨none, Option.filter _ (some e)⟩
      cases hst : Registry.isStale (c.answers.length + 1) retention e with
      | true =>
        rw [Option.filter_some_neg (by simp [hst])]
        exact .absent (Or.inr ((entry.isStale_iff ha hg).mp hst))
      | false =>
        rw [Option.filter_some_pos (by simp [hst])]
        exact .failed e (entry.older ha hn hg hst)
  | absent why =>
    have still : c'.Chronicle retention kind name ⟨none, none⟩ := by
      refine .absent (why.imp ?_ ?_)
      · intro never h
        exact ((listed_concat_iff ha).mp h).elim never hnot
      · intro h
        rw [ha, longGone_concat h.1]
        exact ⟨h.1, hnot, Or.inl h.2⟩
    cases a.failed kind <;> exact still

/-- **One more pass keeps the chronicle.** The cases are the fates of the job in the pass. -/
theorem pass {s v : Standing} (h : c.Chronicle retention kind name s)
    (ha : c'.answers = c.answers ++ [a])
    (hn : c'.attemptsFor (kind.namespaced name) = c.attemptsFor (kind.namespaced name) ++ new)
    (fate : Fate (kind.namespaced name) (c.answers.length + 1)
      (s.refetched (c.answers.length + 1) (a.failed kind)) (a.Lists (kind.namespaced name)) v new) :
    c'.Chronicle retention kind name (v.swept (c.answers.length + 1) retention) := by
  generalize hl : decide (a.Lists (kind.namespaced name)) = listed at fate
  cases fate with
  | unlisted =>
    rw [List.append_nil] at hn
    have hnot := of_decide_eq_false hl
    cases h with
    | running e succeeded =>
      have again : c'.Succeeded (kind.namespaced name) :=
        succeeded.append (hn.trans (List.append_nil _).symm)
      cases a.failed kind <;> exact .running _ again
    | failed e entry => exact (Chronicle.failed e entry).unlisted ha hn hnot
    | absent why => exact (Chronicle.absent why).unlisted ha hn hnot
  | seen e he =>
    cases h with
    | running e' succeeded =>
      have again := succeeded.append hn
      cases a.failed kind <;> exact .running _ again
    | failed e' entry => cases hf : a.failed kind <;> simp [Standing.refetched, hf] at he
    | absent why => cases hf : a.failed kind <;> simp [Standing.refetched, hf] at he
  | tried attempts last idle hlast own =>
    exact recorded ha hn (of_decide_eq_true hl) hlast _ _

end Chronicle

end Pass

/-! ## 3. Whole courses -/

section Run

variable {σ : Type} (settings : ManagerSettings) (turns : List (Turn σ)) (t : Turn σ)
  (kind : JobKind) (name : String)

theorem attemptsFor_pass (c : Course) (t : Turn σ) (id : String) :
    (c.pass settings t).attemptsFor id =
      c.attemptsFor id ++ (c.visits settings t).attempts.filter (·.id = id) := by
  rw [attemptsFor, pass, attempts_report, List.filter_append, attemptsFor]

/-- **The chronicle holds after every course.** -/
theorem chronicle_run :
    (run settings turns).Chronicle settings.retentionPasses kind name
      ((run settings turns).standing (kind.namespaced name)) := by
  induction turns using List.reverseRecOn with
  | nil =>
    refine .absent (Or.inl fun h => ?_)
    obtain ⟨a, ha, _⟩ := h
    cases ha
  | append_singleton turns t ih =>
    have fate := fate_pass settings settings turns t kind name
    rw [← length_answers_run settings turns] at fate
    rw [run_concat, standing_pass, passes_run, ← length_answers_run settings turns]
    exact ih.pass rfl (attemptsFor_pass settings _ t _) fate

/-- A job for which an attempt has succeeded runs. -/
theorem Succeeded.running {id : String} (h : (run settings turns).Succeeded id) :
    ∃ e, ((run settings turns).standing id).running = some e := by
  obtain ⟨a, ha, hok⟩ := h
  obtain ⟨ha, hid⟩ := List.mem_filter.mp ha
  cases ho : a.outcome with
  | error error =>
    rw [ho] at hok
    cases hok
  | ok job =>
    obtain ⟨e, he, _⟩ := (steady_run settings turns).started a ha job ho
    exact ⟨e, of_decide_eq_true hid ▸ he⟩

/-- **A job has an entry among the failed ones exactly if it counts as failed.** -/
theorem failed_isSome_iff :
    ((run settings turns).standing (kind.namespaced name)).failed.isSome = true ↔
      (run settings turns).OpenFailure settings.retentionPasses kind name := by
  have chronicle := chronicle_run settings turns kind name
  have started : (run settings turns).Succeeded (kind.namespaced name) → _ :=
    Succeeded.running settings turns
  generalize (run settings turns).standing (kind.namespaced name) = s at chronicle started
  cases chronicle with
  | running e succeeded => exact ⟨fun h => (nomatch h), fun h => absurd succeeded h.2.1⟩
  | failed e entry =>
    have never : ¬ (run settings turns).Succeeded (kind.namespaced name) := by
      intro h
      obtain ⟨e', he'⟩ := started h
      cases he'
    exact ⟨fun _ => ⟨entry.listed, never, entry.kept⟩, fun _ => rfl⟩
  | absent why =>
    refine ⟨fun h => (nomatch h), fun h => ?_⟩
    rcases why with never | ⟨hr, hlong⟩
    · exact absurd h.1 never
    · exact absurd hlong (h.2.2.resolve_left hr)

theorem failedAs_of_failed {e : JobEntry}
    (h : ((run settings turns).standing (kind.namespaced name)).failed = some e) :
    (run settings turns).FailedAs (kind.namespaced name) e := by
  have chronicle := chronicle_run settings turns kind name
  generalize (run settings turns).standing (kind.namespaced name) = s at chronicle h
  cases chronicle with
  | failed e' entry =>
    cases h
    exact entry.latest
  | running => cases h
  | absent => cases h

/-! ## 4. Drops -/

/-- The jobs that the close of one more pass drops. -/
def dropped (c : Course) : List String := droppedIds settings (c.visits settings t)

/-- A job is dropped exactly if it had an entry among the failed ones and the pass leaves nothing
    of it. -/
theorem mem_dropped_iff :
    kind.namespaced name ∈ dropped settings t (run settings turns) ↔
      ((run settings turns).standing (kind.namespaced name)).failed.isSome = true ∧
        ((run settings turns).pass settings t).standing (kind.namespaced name) = {} := by
  have fate := fate_pass settings settings turns t kind name
  have sound := sound_visits settings settings turns t (kind.namespaced name)
  rw [dropped, mem_droppedIds_iff, pass_visits, sound.stale_iff, standing_pass, passes_run]
  refine and_congr_left fun hgone => ?_
  rw [(fate.of_swept_empty hgone).2]
  cases t.answers.failed kind <;> simp [Standing.refetched]

/-- **A failed job is dropped by the pass with which it has been gone for long.** -/
theorem mem_dropped_iff_longGone :
    kind.namespaced name ∈ dropped settings t (run settings turns) ↔
      settings.retentionPasses ≠ 0 ∧
        (run settings turns).OpenFailure settings.retentionPasses kind name ∧
        LongGone settings.retentionPasses kind name
          ((run settings turns).answers ++ [t.answers]) := by
  have after := chronicle_run settings (turns ++ [t]) kind name
  rw [run_concat] at after
  rw [mem_dropped_iff, failed_isSome_iff]
  constructor
  · intro h
    obtain ⟨hopen, hgone⟩ := h
    rw [hgone] at after
    cases after with
    | absent why =>
      have listed : ((run settings turns).pass settings t).Listed (kind.namespaced name) :=
        (listed_concat_iff rfl).mpr (Or.inl hopen.1)
      obtain ⟨hr, hlong⟩ := why.resolve_left fun never => never listed
      exact ⟨hr, hopen, hlong⟩
  · intro h
    obtain ⟨hr, hopen, hlong⟩ := h
    refine ⟨hopen, ?_⟩
    have hnot := ((longGone_concat hr).mp hlong).1
    generalize ((run settings turns).pass settings t).standing (kind.namespaced name) = s at after ⊢
    cases after with
    | running e succeeded =>
      -- a pass that does not list the job does not attempt it
      have fate := fate_pass settings settings turns t kind name
      rw [decide_eq_false hnot] at fate
      rw [Succeeded, attemptsFor_pass, fate.attempts_eq_nil, List.append_nil] at succeeded
      exact absurd succeeded hopen.2.1
    | failed e entry => exact absurd hlong (entry.kept.resolve_left hr)
    | absent => rfl

theorem mem_dropped_iff_contains (id : String) :
    let c := run settings turns
    let c' := c.pass settings t
    id ∈ dropped settings t c ↔
      c.manager.registry.failed.contains id = true ∧
        c'.manager.registry.failed.contains id = false ∧
        c'.manager.registry.running.contains id = false := by
  intro c c'
  have whole : (∃ kind name, JobKind.namespaced kind name = id) →
      (id ∈ dropped settings t c ↔ c.manager.registry.failed.contains id = true ∧
        c'.manager.registry.failed.contains id = false ∧
        c'.manager.registry.running.contains id = false) := by
    intro h
    obtain ⟨kind, name, rfl⟩ := h
    rw [mem_dropped_iff]
    refine and_congr_right fun _ => ?_
    rw [Standing.ext_iff, and_comm, Dict.contains, Dict.contains, Option.isSome_eq_false_iff,
      Option.isSome_eq_false_iff, Option.isNone_iff_eq_none, Option.isNone_iff_eq_none]
    rfl
  constructor
  · intro hd
    obtain ⟨e, he, _⟩ := (mem_droppedIds_iff settings _ id).mp hd
    obtain ⟨_, name, hname⟩ := (sound_visits settings settings turns t id).own e (Or.inr he)
    exact (whole ⟨e.kind, name, hname⟩).mp hd
  · intro hc
    obtain ⟨e, he⟩ := Option.isSome_iff_exists.mp hc.1
    obtain ⟨_, name, hname⟩ := (sound_run settings turns id).own e (Or.inr he)
    exact (whole ⟨e.kind, name, hname⟩).mpr hc

end Run

/-! ## 5. The lifetime of a failed job -/

/-- **How long a failed job is kept.** After any course of passes, the jobs that count as failed
    are those that were listed, were never started, and have not been gone for `retention` passes
    in a row since; the entry of each tells of its latest attempt. One more pass drops, at its
    end, exactly those with which such a row is complete. It counts each of them once, tells of
    each once in its log, in ascending order, and nothing is left of them in the registry. -/
theorem failed_lifetime {σ : Type} (settings : ManagerSettings) (turns : List (Turn σ))
    (t : Turn σ) :
    let retention := settings.retentionPasses
    let c := run settings turns
    let c' := c.pass settings t
    let report := c.report settings t
    (∀ kind name, c.manager.registry.failed.contains (kind.namespaced name) = true ↔
      c.OpenFailure retention kind name) ∧
    (∀ id e, c.manager.registry.failed.get? id = some e →
      (∃ (kind : JobKind) (name : String), kind.namespaced name = id) ∧ c.FailedAs id e) ∧
    ∃ (dropped : List String) (before : List Log.Line) (last : Log.Line),
      dropped.Pairwise (· < ·) ∧
      (∀ id, id ∈ dropped ↔ c.manager.registry.failed.contains id = true ∧
        c'.manager.registry.failed.contains id = false ∧
        c'.manager.registry.running.contains id = false) ∧
      (∀ kind name, kind.namespaced name ∈ dropped ↔
        retention ≠ 0 ∧ c.OpenFailure retention kind name ∧
          LongGone retention kind name c'.answers) ∧
      (∀ id ∈ dropped, (c.visits settings t).registry.failed.contains id = true) ∧
      report.summary.evicted = dropped.length ∧
      report.logs = before ++ dropped.map droppedLine ++ [last] ∧
      ∀ id, report.logs.count (droppedLine id) = if id ∈ dropped then 1 else 0 := by
  intro retention c c' report
  refine ⟨failed_isSome_iff settings turns, ?_, dropped settings t c, _, _,
    droppedIds_ascending settings _, mem_dropped_iff_contains settings turns t,
    mem_dropped_iff_longGone settings turns t, ?_, ?_, logs_runPass t.world settings _ _ t.state,
    count_droppedLine t.world settings _ _ t.state⟩
  · intro id e he
    obtain ⟨_, name, rfl⟩ := (sound_run settings turns id).own e (Or.inr he)
    exact ⟨⟨e.kind, name, rfl⟩, failedAs_of_failed settings turns e.kind name he⟩
  · intro id hid
    obtain ⟨e, he, _⟩ := (mem_droppedIds_iff settings _ id).mp hid
    exact Option.isSome_iff_exists.mpr ⟨e, he⟩
  · exact congrArg PassSummary.evicted (summary_runPass t.world settings _ _ t.state)

/-- A rule without a plan is listed once. With a retention of two passes the second pass without
    it keeps its entry, and the third one drops it. -/
example :
    let listed : Turn Nat := ⟨sampleWorld (rulesOnly [blankRule]), 0⟩
    let gone : Turn Nat := ⟨sampleWorld (rulesOnly []), 0⟩
    let two : ManagerSettings := { retentionPasses := 2 }
    dropped two gone (run two [listed]) = [] ∧
      dropped two gone (run two [listed, gone]) = ["rule_q"] := by
  decide +kernel

end Course

end JobKeeper
