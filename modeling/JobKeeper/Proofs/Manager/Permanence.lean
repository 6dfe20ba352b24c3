/-
  File:      JobKeeper/Proofs/Manager/Permanence.lean
  Subject:   A job that runs stays running and is never started again.

  `recordFailed` takes a job out of the running map, so permanence rests on that call never being
  reached for a running job. The invariant that says so is `Steady.idle`: the job that an attempt
  is under way for is not running. It holds when the attempt begins, and it lasts because a pass
  works on one job at a time and no second pass begins meanwhile.

  * `Keeps`: every running job is running still, with the same entry but for a later pass;
  * `Steady`: the invariant of every run, kept by each move (`Steady.move`);
  * `running_is_permanent`: after a successful attempt the job runs at every later point, and no
    attempt is made for it again.
-/
import JobKeeper.Proofs.Manager.Moves

namespace JobKeeper

/-! ## 1. Running jobs are kept -/

/-- **Every running job of the first registry runs in the second**, with the same entry, except
    that a later pass may have seen it. -/
def Registry.Keeps (r r' : Registry) : Prop :=
  ∀ id e, (r.standing id).running = some e →
    ∃ pass, e.lastSeenPass ≤ pass ∧ (r'.standing id).running = some (e.seenIn pass)

namespace Registry

theorem Keeps.refl (r : Registry) : r.Keeps r :=
  fun _ e h => ⟨e.lastSeenPass, Nat.le_refl _, h⟩

theorem Keeps.trans {r₁ r₂ r₃ : Registry} (h : r₁.Keeps r₂) (h' : r₂.Keeps r₃) : r₁.Keeps r₃ := by
  intro id e he
  obtain ⟨pass, hle, he₂⟩ := h id e he
  obtain ⟨pass', hle', he₃⟩ := h' id (e.seenIn pass) he₂
  exact ⟨pass', Nat.le_trans hle hle', he₃⟩

/-- A registry that has the same running jobs keeps them. -/
theorem Keeps.of_eq {r r' : Registry}
    (h : ∀ id, (r'.standing id).running = (r.standing id).running) : r.Keeps r' :=
  fun id e he => ⟨e.lastSeenPass, Nat.le_refl _, (h id).trans he⟩

variable {r : Registry} {latest : Nat}

theorem keeps_touch (hs : r.Sound latest) (id : String) : r.Keeps (r.touch id latest) := by
  intro id' e he
  rw [standing_touch]
  split
  · next hid =>
    subst hid
    refine ⟨latest, (hs id).past e (Or.inl he), ?_⟩
    simp only [Standing.seenIn, he]
  · exact ⟨e.lastSeenPass, Nat.le_refl _, he⟩

theorem keeps_touchKind (hs : r.Sound latest) (kind : JobKind) :
    r.Keeps (r.touchKind kind latest) := by
  intro id e he
  rw [standing_touchKind]
  simp only [Standing.seenIfOf, he, Option.map_some, seenIfOf]
  split
  · exact ⟨latest, (hs id).past e (Or.inl he), rfl⟩
  · exact ⟨e.lastSeenPass, Nat.le_refl _, rfl⟩

theorem keeps_clearFailed (id : String) : r.Keeps (r.clearFailed id).2 := by
  refine Keeps.of_eq fun id' => ?_
  rw [standing_clearFailed]
  split
  · next hid => rw [hid]; rfl
  · rfl

theorem keeps_evictFailed (pass retention : Nat) :
    r.Keeps (r.evictFailed pass retention).2 := by
  refine Keeps.of_eq fun id => ?_
  rw [standing_evictFailed]
  rfl

/-- The outcome of an attempt leaves running jobs alone, if its own job does not run. -/
theorem keeps_record {id : String} (hid : r.isRunning id = false) (kind : JobKind)
    (stamp : Instant) (pass : Nat) (outcome : Except CompileError StartedJob) :
    r.Keeps (r.record id kind stamp pass outcome) := by
  intro id' e he
  rw [standing_record]
  split
  · next hid' =>
    subst hid'
    rw [isRunning_eq, he] at hid
    cases hid
  · exact ⟨e.lastSeenPass, Nat.le_refl _, he⟩

end Registry

/-! ## 2. The invariant of every run -/

namespace Manager

/-- The job of a successful attempt runs, with the entry that the attempt made for it. -/
def Started (r : Registry) (a : Attempt) : Prop :=
  ∀ job, a.outcome = .ok job → ∃ e, (r.standing a.id).running = some e ∧
    e.kind = a.kind ∧ e.clusterJobId = job.clusterJobId ∧ e.attemptedAt = a.stamp

/-- **The invariant of every run**: `m` is the manager and `past` are the attempts so far. -/
structure Steady (m : Manager) (past : List Attempt) : Prop where
  sound : m.registry.Sound m.passes
  numbered : ∀ p, m.current = some p → p.summary.pass = m.passes
  named : ∀ kind id, m.underWay? = some (kind, id) → ∃ name, kind.namespaced name = id
  idle : ∀ kind id, m.underWay? = some (kind, id) → m.registry.isRunning id = false
  started : ∀ a ∈ past, Started m.registry a
  once : past.Pairwise fun a b => ∀ job, a.outcome = .ok job → b.id ≠ a.id

theorem Started.keeps {r r' : Registry} {a : Attempt} (h : Started r a) (hk : r.Keeps r') :
    Started r' a := by
  intro job hjob
  obtain ⟨e, he, hkind, hcluster, hstamp⟩ := h job hjob
  obtain ⟨pass, _, he'⟩ := hk a.id e he
  exact ⟨e.seenIn pass, he', hkind, hcluster, hstamp⟩

/-- The record of an attempt makes its own entry. -/
theorem started_record (r : Registry) (a : Attempt) (pass : Nat) :
    Started (r.record a.id a.kind a.stamp pass a.outcome) a := by
  intro job hjob
  rw [Registry.standing_record, if_pos rfl, hjob]
  exact ⟨_, rfl, rfl, rfl, rfl⟩

theorem steady_empty : Steady {} [] where
  sound := Registry.sound_empty 0
  numbered p h := by cases h
  named kind id h := by cases h
  idle kind id h := by cases h
  started a h := absurd h List.not_mem_nil
  once := List.Pairwise.nil

/-- While no attempt is under way nothing is asked of one. -/
theorem nothing_underWay {P : JobKind → String → Prop} :
    ∀ kind id, (none : Option (JobKind × String)) = some (kind, id) → P kind id := by
  intro kind id h
  cases h

/-- **What the six effects keep**: soundness, the running jobs, and that the job under way does not
    run and has an id of its kind. -/
theorem Effect.keeps {pass retention : Nat} {r r' : Registry} {u u' : Option (JobKind × String)}
    {recorded : Option Attempt} (h : Effect pass retention r u r' u' recorded)
    (hs : r.Sound pass) (hn : ∀ kind id, u = some (kind, id) → ∃ name, kind.namespaced name = id)
    (hi : ∀ kind id, u = some (kind, id) → r.isRunning id = false) :
    r'.Sound pass ∧ r.Keeps r' ∧
      (∀ kind id, u' = some (kind, id) → ∃ name, kind.namespaced name = id) ∧
      ∀ kind id, u' = some (kind, id) → r'.isRunning id = false := by
  cases h with
  | stay => exact ⟨hs, .refl r, hn, hi⟩
  | unfetched kind =>
    exact ⟨hs.touchKind kind, Registry.keeps_touchKind hs kind, nothing_underWay, nothing_underWay⟩
  | seen id hr =>
    exact ⟨hs.touch id, Registry.keeps_touch hs id, nothing_underWay, nothing_underWay⟩
  | begin job hidle =>
    refine ⟨hs.clearFailed _, Registry.keeps_clearFailed _, ?_, ?_⟩
    · intro kind id h
      cases h
      exact ⟨job.id, rfl⟩
    · intro kind id h
      cases h
      rw [Registry.isRunning_eq, Registry.standing_clearFailed, if_pos rfl]
      exact hidle
  | record a =>
    exact ⟨hs.record (hn _ _ rfl) a.stamp a.outcome, Registry.keeps_record (hi _ _ rfl) _ _ _ _,
      nothing_underWay, nothing_underWay⟩
  | close =>
    exact ⟨hs.evictFailed _ _, Registry.keeps_evictFailed _ _, nothing_underWay, nothing_underWay⟩

/-- An attempt is recorded only for the job that was under way, and by its own record. -/
theorem Effect.recorded {pass retention : Nat} {r r' : Registry}
    {u u' : Option (JobKind × String)} {a : Attempt}
    (h : Effect pass retention r u r' u' (some a)) :
    u = some (a.kind, a.id) ∧ r' = r.record a.id a.kind a.stamp pass a.outcome := by
  cases h
  exact ⟨rfl, rfl⟩

section Runs

variable {σ : Type} (settings : ManagerSettings) {m : Manager} {past : List Attempt}

/-- **One move keeps the invariant and the running jobs.** -/
theorem Steady.move (h : Steady m past) (v : Move σ) :
    Steady (m.move settings v).1 (past ++ (m.move settings v).2.toList) ∧
      m.registry.Keeps (m.move settings v).1.registry := by
  cases v with
  | tick =>
    rw [show (m.move settings (.tick : Move σ)).2 = none from rfl, Option.toList_none,
      List.append_nil]
    show Steady m.tick.1 past ∧ m.registry.Keeps m.tick.1.registry
    rcases m.tick_cases with ⟨p, _, ht⟩ | ⟨_, ht⟩
    · rw [ht]
      exact ⟨h, .refl _⟩
    · rw [ht]
      refine ⟨⟨h.sound.mono (Nat.le_succ _), ?_, nothing_underWay, nothing_underWay, h.started,
        h.once⟩, .refl _⟩
      intro p hp
      cases hp
      rfl
  | step world state =>
    show Steady (m.advance world settings state).manager
        (past ++ (m.advance world settings state).attempt.toList) ∧
      m.registry.Keeps (m.advance world settings state).manager.registry
    cases hp : m.current with
    | none =>
      rw [advance_idle world settings hp state]
      exact ⟨by simpa using h, .refl _⟩
    | some p =>
      have heff := advance_effect world settings hp state
      obtain ⟨hpasses, hnumber⟩ := advance_numbers world settings hp state
      rw [h.numbered p hp] at heff hnumber
      obtain ⟨hs, hk, hn, hi⟩ := heff.keeps h.sound h.named h.idle
      refine ⟨⟨hpasses ▸ hs, fun p' hp' => (hnumber p' hp').trans hpasses.symm, hn, hi, ?_, ?_⟩, hk⟩
      · intro a ha
        rcases List.mem_append.mp ha with ha | ha
        · exact (h.started a ha).keeps hk
        · rw [Option.mem_toList.mp ha] at heff
          rw [heff.recorded.2]
          exact started_record _ a _
      · refine List.pairwise_append.mpr ⟨h.once, ?_, ?_⟩
        · cases (m.advance world settings state).attempt <;> simp
        · -- the job of the new attempt was not running, those of the earlier successes were
          intro a ha b hb job hjob heq
          rw [Option.mem_toList.mp hb] at heff
          have hidle := h.idle _ _ heff.recorded.1
          obtain ⟨e, he, _⟩ := h.started a ha job hjob
          rw [heq, Registry.isRunning_eq, he] at hidle
          cases hidle

/-- **A list of moves keeps the invariant and the running jobs.** -/
theorem Steady.moves (h : Steady m past) (vs : List (Move σ)) :
    Steady (m.moves settings vs).1 (past ++ (m.moves settings vs).2) ∧
      m.registry.Keeps (m.moves settings vs).1.registry := by
  induction vs generalizing m past with
  | nil =>
    rw [show m.moves settings ([] : List (Move σ)) = (m, []) from rfl, List.append_nil]
    exact ⟨h, .refl _⟩
  | cons v vs ih =>
    obtain ⟨hv, hk⟩ := h.move settings v
    obtain ⟨hvs, hk'⟩ := ih hv
    refine ⟨?_, hk.trans hk'⟩
    rw [List.append_assoc] at hvs
    exact hvs

end Runs

/-! ## 3. Permanence -/

theorem countP_le_one {α : Type} {p : α → Bool} {l : List α}
    (h : l.Pairwise fun a b => p a = true → p b = false) : l.countP p ≤ 1 := by
  induction l with
  | nil => exact Nat.zero_le 1
  | cons a l ih =>
    obtain ⟨ha, hl⟩ := List.pairwise_cons.mp h
    cases hp : p a with
    | false => simpa [hp] using ih hl
    | true =>
      have none_later : l.countP p = 0 := by
        rw [List.countP_eq_zero]
        intro b hb
        simp [ha b hb hp]
      exact Nat.le_of_eq ((List.countP_cons_of_pos hp).trans (congrArg (· + 1) none_later))

/-- Of the attempts for one job at most one succeeds. -/
theorem Steady.countP_started_le_one {m : Manager} {past : List Attempt} (h : Steady m past)
    (id : String) : past.countP (fun a => a.id = id && a.outcome.isOk) ≤ 1 := by
  refine countP_le_one (h.once.imp fun {a b} hab hp => ?_)
  obtain ⟨hid, hok⟩ := Bool.and_eq_true_iff.mp hp
  cases ho : a.outcome with
  | error error => rw [ho] at hok; cases hok
  | ok job =>
    have hne : b.id ≠ id := (of_decide_eq_true hid) ▸ hab job ho
    simp [hne]

/-- **A job that runs stays running and is never started again.** Take any moves `before` a point
    of a run from the empty registry and any moves `after` it. A job that an attempt has started
    by then runs at that point and at the later one, and counts as failed at neither; its kind,
    its id on the cluster and the time of its attempt are those of that attempt at both points,
    and the pass that last saw it does not go down. At the later point no attempt is under way for
    it, and none was made in between, so no job is started twice. -/
theorem running_is_permanent {σ : Type} (settings : ManagerSettings)
    (before after : List (Move σ)) :
    let m := (({} : Manager).moves settings before).1
    let tried := (({} : Manager).moves settings before).2
    let m' := (m.moves settings after).1
    let retried := (m.moves settings after).2
    (∀ a ∈ tried, ∀ job, a.outcome = .ok job →
      (∃ e pass, m.registry.running.get? a.id = some e ∧ m.registry.failed.get? a.id = none ∧
        m'.registry.running.get? a.id = some { e with lastSeenPass := pass } ∧
        m'.registry.failed.get? a.id = none ∧
        e.kind = a.kind ∧ e.clusterJobId = job.clusterJobId ∧ e.attemptedAt = a.stamp ∧
        e.lastSeenPass ≤ pass) ∧
      (∀ kind, m'.underWay? ≠ some (kind, a.id)) ∧
      ∀ b ∈ retried, b.id ≠ a.id) ∧
    ∀ id, tried.countP (fun a => a.id = id && a.outcome.isOk) ≤ 1 := by
  intro m tried m' retried
  obtain ⟨hm, _⟩ := steady_empty.moves settings before
  obtain ⟨hm', hk⟩ := hm.moves settings after
  rw [List.nil_append] at hm
  rw [List.nil_append] at hm'
  refine ⟨fun a ha job hjob => ⟨?_, ?_, ?_⟩, fun id => ?_⟩
  · obtain ⟨e, he, hkind, hcluster, hstamp⟩ := hm.started a ha job hjob
    obtain ⟨pass, hle, he'⟩ := hk a.id e he
    exact ⟨e, pass, he, (hm.sound a.id).failed_eq_none he, he', (hm'.sound a.id).failed_eq_none he',
      hkind, hcluster, hstamp, hle⟩
  · intro kind hu
    obtain ⟨e, he, _⟩ := hm'.started a (List.mem_append_left _ ha) job hjob
    have hidle := hm'.idle kind a.id hu
    rw [Registry.isRunning_eq, he] at hidle
    cases hidle
  · intro b hb
    exact (List.pairwise_append.mp hm'.once).2.2 a ha b hb job hjob
  · refine countP_le_one (hm.once.imp fun {a b} hab hp => ?_)
    obtain ⟨hid, hok⟩ := Bool.and_eq_true_iff.mp hp
    cases ho : a.outcome with
    | error error => rw [ho] at hok; cases hok
    | ok job =>
      have hne : b.id ≠ id := (of_decide_eq_true hid) ▸ hab job ho
      simp [hne]

/-- The first listing of `rule_r` starts it. The second one, the end of the pass and another pass
    with two more listings start nothing. -/
theorem running_is_permanent_rule_r :
    let step := Move.step (sampleWorld (rulesOnly [sampleRule, sampleRule])) 7
    let m := (({} : Manager).moves {} (.tick :: List.replicate 10 step)).1
    let later := m.moves {} (step :: step :: .tick :: List.replicate 5 step)
    later.1.passes = 2 ∧ later.1.registry.isRunning "rule_r" = true ∧
      ∀ b ∈ later.2, b.id ≠ "rule_r" := by
  intro step m later
  have tried : (({} : Manager).moves {} (.tick :: List.replicate 10 step)).2.map
      (fun a => (a.id, a.outcome.isOk)) = [("rule_r", true)] := by decide +kernel
  obtain ⟨a, ha, hid⟩ := List.map_eq_singleton_iff.mp tried
  obtain ⟨hid, hok⟩ := Prod.mk.inj hid
  cases ho : a.outcome with
  | error error => rw [ho] at hok; cases hok
  | ok job =>
    have permanent := (running_is_permanent {} (.tick :: List.replicate 10 step)
      (step :: step :: .tick :: List.replicate 5 step)).1 a (ha ▸ List.mem_singleton_self a) job ho
    obtain ⟨⟨e, pass, _, _, he', _⟩, _, hnone⟩ := permanent
    rw [hid] at he' hnone
    refine ⟨by decide +kernel, ?_, hnone⟩
    rw [Registry.isRunning, Dict.contains, he']
    rfl

end Manager

end JobKeeper
