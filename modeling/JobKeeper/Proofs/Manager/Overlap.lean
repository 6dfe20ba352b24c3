/-
  File:      JobKeeper/Proofs/Manager/Overlap.lean
  Subject:   Ticks that fire while a pass is in progress, on whatever clone of the manager.

  The registry is not locked between the look that finds a job idle and the record of its outcome.
  That no other pass comes in between is the work of the guard, over all orders in which the steps
  of the calls may follow each other.

  * `Clones.step_cases`: what a step tells of its call;
  * `Clones.Apart`: the deeds of two passes do not mix, kept by each step;
  * `Clones.Numbered`: passes have the numbers one, two, three and so on, kept by each step;
  * `Clones.run_unskipped`: without the calls that were skipped all others do the same;
  * `Clones.overlapping_ticks_are_harmless`: these, for all steps of all calls in any order.
-/
import JobKeeper.Proofs.Manager.Calls
import Mathlib.Data.List.Basic

namespace JobKeeper

/-- The number of the pass of a call, once it has one. -/
def Call.pass? : Call → Option Nat
  | .running p => some p.summary.pass
  | .leaving summary => some summary.pass
  | .returned (some summary) => some summary.pass
  | _ => none

namespace Clones

variable {σ : Type} (settings : ManagerSettings)

/-! ## 1. What a step tells of its call -/

/-- What comes of a tick that is skipped: a warning is logged and the call returns nothing. The
    world is not asked anything, and the clones share what they did. -/
def skip (c : Clones) (t : CallStep σ) : CallReport σ where
  clones := c.setCall t.call (.returned none)
  state := t.state
  logs := [Manager.skippedLine]
  deed := some .skipped

/-- What a pass does between its number and its end is no skipped tick and takes no number. -/
theorem deed?_within {registry : Registry} {p : PassInProgress} {d : Deed}
    (h : p.deed? registry = some d) : d.isSkipped = false ∧ d.number? = none := by
  unfold PassInProgress.deed? at h
  split at h
  · cases h
    exact ⟨rfl, rfl⟩
  · cases h
    exact ⟨rfl, rfl⟩
  · cases h
    exact ⟨rfl, rfl⟩
  · obtain ⟨_, _, rfl⟩ := Option.map_eq_some_iff.mp h
    exact ⟨rfl, rfl⟩
  · cases h
    exact ⟨rfl, rfl⟩

/-- **What a step tells of its call.** The tick fires and is skipped, or it fires and is let in, or
    the pass of the call goes on or comes to its end, or the call has returned before. -/
theorem step_cases (c : Clones) (t : CallStep σ) :
    let r := c.step settings t
    (c.call t.call = .due ∧ c.guarded = true ∧ r = c.skip t) ∨
    (c.call t.call = .due ∧ c.guarded = false ∧ r.deed = some .admitted ∧
      r.clones.call t.call = .admitted) ∨
    ((c.call t.call).inProgress = true ∧ (∀ d, r.deed = some d → d.isSkipped = false) ∧
      r.clones.call t.call ≠ .due ∧ (r.clones.call t.call).wasSkipped = false) ∨
    ((∃ result, c.call t.call = .returned result) ∧ r.clones = c ∧ r.deed = none) := by
  intro r
  cases hcall : c.call t.call with
  | due =>
    cases hguard : c.guarded with
    | true => exact Or.inl ⟨rfl, rfl, by simp [r, step, skip, hcall, hguard]⟩
    | false => exact Or.inr (Or.inl ⟨rfl, rfl, by simp [r, step, hcall, hguard]⟩)
  | admitted =>
    refine Or.inr (Or.inr (Or.inl ⟨rfl, ?_, ?_⟩))
    · intro d hd
      simp only [r, step, hcall, Option.some.injEq] at hd
      rw [← hd]
      rfl
    · simp [r, step, hcall, Call.wasSkipped]
  | running p =>
    refine Or.inr (Or.inr (Or.inl ⟨rfl, ?_, ?_⟩))
    · intro d hd
      simp only [r, step, hcall] at hd
      exact (deed?_within hd).1
    · simp only [r, step, hcall, setCall_call, Function.update_self]
      split <;> exact ⟨nofun, rfl⟩
  | leaving summary =>
    refine Or.inr (Or.inr (Or.inl ⟨rfl, ?_, ?_⟩))
    · intro d hd
      simp only [r, step, hcall, Option.some.injEq] at hd
      rw [← hd]
      rfl
    · simp [r, step, hcall, Call.wasSkipped]
  | returned result =>
    exact Or.inr (Or.inr (Or.inr ⟨⟨result, rfl⟩, by simp [r, step, hcall]⟩))

/-! ## 2. Passes do not mix -/

/-- **The deeds of two passes do not mix**: `past` is what was done so far. -/
structure Apart (c : Clones) (past : List (Nat × Deed)) : Prop where
  /-- A call does nothing before its tick fires. -/
  fresh : ∀ e ∈ past, c.call e.1 ≠ .due
  /-- A skipped call does nothing else, and no other call is skipped. -/
  skipped : ∀ e ∈ past, e.2.isSkipped = (c.call e.1).wasSkipped
  /-- After the first deed of a pass in progress no other call does anything but being skipped. -/
  alone : ∀ before i d after, past = before ++ (i, d) :: after → (c.call i).inProgress = true →
    ∀ e ∈ after, e.1 = i ∨ e.2.isSkipped = true
  /-- Nor does one between any two deeds of one call. -/
  apart : ∀ before i d between d' after,
    past = before ++ (i, d) :: (between ++ (i, d') :: after) →
    ∀ e ∈ between, e.1 = i ∨ e.2.isSkipped = true

theorem apart_start (c : Clones) : Apart c [] where
  fresh e he := absurd he List.not_mem_nil
  skipped e he := absurd he List.not_mem_nil
  alone before i d after h := by simp at h
  apart before i d between d' after h := by simp at h

section OneDeed

variable {c c' : Clones} {past : List (Nat × Deed)} {i : Nat}

/-- A call in progress was not skipped. -/
theorem wasSkipped_of_inProgress {k : Call} (h : k.inProgress = true) : k.wasSkipped = false := by
  cases k with
  | returned result => cases h
  | _ => rfl

/-- A call that goes on without a deed changes nothing about the deeds so far. -/
theorem Apart.quiet (h : Apart c past) (hothers : ∀ j, j ≠ i → c'.call j = c.call j)
    (hbefore : (c.call i).inProgress = true) (hdue : c'.call i ≠ .due)
    (hskipped : (c'.call i).wasSkipped = false) : Apart c' past := by
  refine ⟨fun e he => ?_, fun e he => ?_, fun before j d after hpast hj => ?_, h.apart⟩
  · by_cases hi : e.1 = i
    · rwa [hi]
    · rw [hothers _ hi]
      exact h.fresh e he
  · by_cases hi : e.1 = i
    · rw [h.skipped e he, hi, hskipped, wasSkipped_of_inProgress hbefore]
    · rw [hothers _ hi]
      exact h.skipped e he
  · refine h.alone before j d after hpast ?_
    by_cases hi : j = i
    · rwa [hi]
    · rwa [← hothers j hi]

/-- One more deed: the call has done nothing before, or its pass is in progress; and if that of
    another call is, this one is skipped. -/
theorem Apart.concat (h : Apart c past) {d : Deed} (hothers : ∀ j, j ≠ i → c'.call j = c.call j)
    (hdue : c'.call i ≠ .due) (hskipped : d.isSkipped = (c'.call i).wasSkipped)
    (hbefore : ∀ e ∈ past, e.1 = i →
      (c.call i).inProgress = true ∧ (c'.call i).wasSkipped = false)
    (halone : ∀ j, j ≠ i → (c.call j).inProgress = true → d.isSkipped = true) :
    Apart c' (past ++ [(i, d)]) := by
  refine ⟨fun e he => ?_, fun e he => ?_, fun before j d₁ after hpast hj => ?_,
    fun before j d₁ between d₂ after hpast => ?_⟩
  · by_cases hi : e.1 = i
    · rwa [hi]
    · rw [hothers _ hi]
      rcases List.mem_append.mp he with he | he
      · exact h.fresh e he
      · exact absurd (congrArg Prod.fst (List.mem_singleton.mp he)) hi
  · rcases List.mem_append.mp he with he | he
    · by_cases hi : e.1 = i
      · obtain ⟨hprogress, hnot⟩ := hbefore e he hi
        rw [h.skipped e he, hi, hnot, wasSkipped_of_inProgress hprogress]
      · rw [hothers _ hi]
        exact h.skipped e he
    · rw [List.mem_singleton.mp he]
      exact hskipped
  · rcases concat_eq_append_cons hpast with ⟨rfl, _, _⟩ | ⟨later, rfl, rfl⟩
    · exact fun e he => absurd he List.not_mem_nil
    · by_cases hi : j = i
      · subst hi
        have hprogress := (hbefore (j, d₁) (by simp) rfl).1
        intro e he
        rcases List.mem_append.mp he with he | he
        · exact h.alone before j d₁ later rfl hprogress e he
        · exact Or.inl (congrArg Prod.fst (List.mem_singleton.mp he))
      · rw [hothers j hi] at hj
        intro e he
        rcases List.mem_append.mp he with he | he
        · exact h.alone before j d₁ later rfl hj e he
        · rw [List.mem_singleton.mp he]
          exact Or.inr (halone j hi hj)
  · rcases concat_eq_append_cons hpast with ⟨hnil, _, _⟩ | ⟨later, hlater, rfl⟩
    · exact absurd hnil (by simp)
    · rcases concat_eq_append_cons hlater.symm with ⟨_, rfl, hlast⟩ | ⟨later', _, rfl⟩
      · -- the last deed is that of the call itself, whose pass has been in progress since `d₁`
        obtain ⟨rfl, _⟩ := Prod.mk.inj hlast
        exact h.alone before i d₁ later rfl (hbefore (i, d₁) (by simp) rfl).1
      · exact h.apart before j d₁ between d₂ later' rfl

end OneDeed

/-- What was done, with what the next step does. -/
def withDeed (past : List (Nat × Deed)) (t : CallStep σ) (deed : Option Deed) :
    List (Nat × Deed) := past ++ (deed.map fun d => (t.call, d)).toList

/-- **One step keeps passes apart.** -/
theorem Apart.step {c : Clones} {past : List (Nat × Deed)} {holder : Option Nat}
    (h : Apart c past) (hheld : c.HeldBy holder) (t : CallStep σ) :
    Apart (c.step settings t).clones (withDeed past t (c.step settings t).deed) := by
  have hothers : ∀ j, j ≠ t.call → (c.step settings t).clones.call j = c.call j :=
    fun j hj => c.step_call_of_ne settings t hj
  unfold withDeed
  rcases c.step_cases settings t with ⟨hdue, _, hr⟩ | ⟨hdue, hfree, hdeed, hafter⟩ |
    ⟨hprogress, hdeeds, hdue, hskipped⟩ | ⟨_, hclones, hdeed⟩
  · rw [hr] at hothers ⊢
    refine h.concat hothers ?_ ?_ (fun e he hi => absurd hdue (hi ▸ h.fresh e he)) ?_
    · simp [skip]
    · simp [skip, Deed.isSkipped, Call.wasSkipped]
    · exact fun _ _ _ => rfl
  · rw [hdeed]
    refine h.concat hothers ?_ ?_ (fun e he hi => absurd hdue (hi ▸ h.fresh e he)) ?_
    · simp [hafter]
    · simp [hafter, Deed.isSkipped, Call.wasSkipped]
    · intro j _ hj
      rw [hheld.1, hheld.eq_of_inProgress hj] at hfree
      cases hfree
  · cases hdeed : (c.step settings t).deed with
    | none =>
      rw [Option.map_none, Option.toList_none, List.append_nil]
      exact h.quiet hothers hprogress hdue hskipped
    | some d =>
      refine h.concat hothers hdue ((hdeeds d hdeed).trans hskipped.symm)
        (fun _ _ _ => ⟨hprogress, hskipped⟩) fun j hj hother => ?_
      have hsame := (hheld.eq_of_inProgress hother).symm.trans (hheld.eq_of_inProgress hprogress)
      exact absurd (Option.some.inj hsame) hj
  · rw [hclones, hdeed, Option.map_none, Option.toList_none, List.append_nil]
    exact h

/-! ## 3. Passes are numbered -/

/-- **Passes have the numbers one, two, three and so on**, in the order in which they begin, and
    the call of a pass keeps the number that the pass took. -/
structure Numbered (c : Clones) (past : List (Nat × Deed)) : Prop where
  numbers : past.filterMap (fun e => e.2.number?) = List.range' 1 c.passes
  taken : ∀ i n, (c.call i).pass? = some n → (i, .began n) ∈ past

theorem numbered_start (registry : Registry) : Numbered { registry } [] where
  numbers := rfl
  taken i n h := by cases h

/-- A step that takes no number and leaves its call the one that it has. -/
theorem Numbered.keep {c c' : Clones} {past : List (Nat × Deed)} (h : Numbered c past)
    (t : CallStep σ) {deed : Option Deed} (hpasses : c'.passes = c.passes)
    (hdeed : ∀ d, deed = some d → d.number? = none)
    (hcall : ∀ i n, (c'.call i).pass? = some n → (c.call i).pass? = some n) :
    Numbered c' (withDeed past t deed) := by
  unfold withDeed
  refine ⟨?_, fun i n hn => List.mem_append_left _ (h.taken i n (hcall i n hn))⟩
  rw [List.filterMap_append, h.numbers, hpasses]
  cases deed with
  | none => exact List.append_nil _
  | some d => simp [hdeed d rfl]

/-- The calls that a change of one of them leaves with the numbers that they have. -/
theorem pass?_setCall {c : Clones} {i : Nat} {k : Call}
    (hk : ∀ n, k.pass? = some n → (c.call i).pass? = some n) :
    ∀ j n, ((c.setCall i k).call j).pass? = some n → (c.call j).pass? = some n := by
  intro j n hn
  rw [setCall_call] at hn
  by_cases hj : j = i
  · subst hj
    rw [Function.update_self] at hn
    exact hk n hn
  · rwa [Function.update_of_ne hj] at hn

/-- **One step keeps the numbers.** -/
theorem Numbered.step {c : Clones} {past : List (Nat × Deed)} (h : Numbered c past)
    (t : CallStep σ) :
    Numbered (c.step settings t).clones (withDeed past t (c.step settings t).deed) := by
  unfold Clones.step
  split
  next hdue =>
    split
    · exact h.keep t rfl (by simp [Deed.number?]) (pass?_setCall (by simp [Call.pass?]))
    · exact h.keep t rfl (by simp [Deed.number?]) (pass?_setCall (by simp [Call.pass?]))
  next =>
    unfold withDeed
    refine ⟨?_, fun i n hn => ?_⟩
    · rw [List.filterMap_append, h.numbers]
      show List.range' 1 c.passes ++ [c.passes + 1] = List.range' 1 (c.passes + 1)
      rw [List.range'_1_concat, Nat.add_comm 1]
    · rw [setCall_call] at hn
      by_cases hi : i = t.call
      · subst hi
        rw [Function.update_self] at hn
        cases hn
        exact List.mem_append_right _ (List.mem_singleton_self _)
      · rw [Function.update_of_ne hi] at hn
        exact List.mem_append_left _ (h.taken i n hn)
  next p hrunning =>
    obtain ⟨hpasses, hnumber⟩ := Manager.advance_numbers
      (m := ⟨c.registry, c.passes, some p⟩) t.world settings rfl t.state
    refine h.keep t hpasses (fun d hd => (deed?_within hd).2) (pass?_setCall fun n hn => ?_)
    rw [hrunning, ← hn]
    rcases advance_ends t.world settings c.registry c.passes p t.state with
      ⟨p', hcurrent, hsummary⟩ | ⟨_, s, hsummary, hs⟩
    · rw [hsummary, hcurrent]
      exact congrArg some (hnumber p' hcurrent).symm
    · rw [hsummary]
      exact congrArg some hs.symm
  next summary hleaving =>
    exact h.keep t rfl (by simp [Deed.number?])
      (pass?_setCall (by simp [Call.pass?, hleaving]))
  next => exact h.keep t rfl (by simp) fun _ _ hn => hn

/-! ## 4. Whole runs -/

theorem run_deeds_cons (c : Clones) (past : List (Nat × Deed)) (t : CallStep σ)
    (ts : List (CallStep σ)) :
    past ++ (c.run settings (t :: ts)).2 = withDeed past t (c.step settings t).deed
      ++ ((c.step settings t).clones.run settings ts).2 := by
  rw [run, withDeed, List.append_assoc]

/-- After any run one call has the guard or none, and passes are apart and numbered. -/
theorem run_invariant {c : Clones} {past : List (Nat × Deed)} {holder : Option Nat}
    (hheld : c.HeldBy holder) (hapart : Apart c past) (hnumbered : Numbered c past)
    (ts : List (CallStep σ)) :
    (∃ holder', (c.run settings ts).1.HeldBy holder') ∧
      Apart (c.run settings ts).1 (past ++ (c.run settings ts).2) ∧
      Numbered (c.run settings ts).1 (past ++ (c.run settings ts).2) := by
  induction ts generalizing c past holder with
  | nil =>
    rw [run, List.append_nil]
    exact ⟨⟨holder, hheld⟩, hapart, hnumbered⟩
  | cons t ts ih =>
    obtain ⟨_, hheld'⟩ := hheld.step settings t
    rw [run_deeds_cons]
    exact ih hheld' (hapart.step settings hheld t) (hnumbered.step settings t)

/-! ## 5. Without the calls that were skipped -/

/-- A call whose tick has fired keeps it, and is not skipped later. -/
theorem wasSkipped_step {c : Clones} (t : CallStep σ) {i : Nat} (h : c.call i ≠ .due) :
    (c.step settings t).clones.call i ≠ .due ∧
      ((c.step settings t).clones.call i).wasSkipped = (c.call i).wasSkipped := by
  by_cases hi : i = t.call
  · subst hi
    rcases c.step_cases settings t with ⟨hdue, _⟩ | ⟨hdue, _⟩ | ⟨hprogress, _, hdue, hskipped⟩ |
      ⟨_, hclones, _⟩
    · exact absurd hdue h
    · exact absurd hdue h
    · exact ⟨hdue, hskipped.trans (wasSkipped_of_inProgress hprogress).symm⟩
    · rw [hclones]
      exact ⟨h, rfl⟩
  · rw [c.step_call_of_ne settings t hi]
    exact ⟨h, rfl⟩

theorem wasSkipped_run {c : Clones} (ts : List (CallStep σ)) {i : Nat} (h : c.call i ≠ .due) :
    ((c.run settings ts).1.call i).wasSkipped = (c.call i).wasSkipped := by
  induction ts generalizing c with
  | nil => rfl
  | cons t ts ih =>
    obtain ⟨hdue, hskipped⟩ := wasSkipped_step settings t h
    exact (ih hdue).trans hskipped

/-- **Alike but for some calls**: what is shared is the same, and so are all calls but those. -/
structure AlikeBut (ignored : Nat → Bool) (c c' : Clones) : Prop where
  registry : c.registry = c'.registry
  passes : c.passes = c'.passes
  guarded : c.guarded = c'.guarded
  call : ∀ i, ignored i = false → c.call i = c'.call i

section AlikeBut

variable {ignored : Nat → Bool} {c c' : Clones}

theorem AlikeBut.refl (ignored : Nat → Bool) (c : Clones) : AlikeBut ignored c c :=
  ⟨rfl, rfl, rfl, fun _ _ => rfl⟩

/-- The same change of what is shared and of one call leaves the others alike. -/
theorem AlikeBut.change (h : AlikeBut ignored c c') (registry : Registry) (passes : Nat)
    (guarded : Bool) (i : Nat) (k : Call) :
    AlikeBut ignored (Clones.setCall ⟨registry, passes, guarded, c.call⟩ i k)
      (Clones.setCall ⟨registry, passes, guarded, c'.call⟩ i k) := by
  refine ⟨rfl, rfl, rfl, fun j hj => ?_⟩
  rw [setCall_call, setCall_call]
  by_cases hi : j = i
  · rw [hi, Function.update_self, Function.update_self]
  · rw [Function.update_of_ne hi, Function.update_of_ne hi]
    exact h.call j hj

/-- **A step of a call that is not ignored does the same on both sides.** -/
theorem AlikeBut.step (h : AlikeBut ignored c c') (t : CallStep σ)
    (ht : ignored t.call = false) :
    AlikeBut ignored (c.step settings t).clones (c'.step settings t).clones ∧
      (c.step settings t).deed = (c'.step settings t).deed := by
  obtain ⟨registry, passes, guarded, call⟩ := c
  obtain ⟨registry', passes', guarded', call'⟩ := c'
  obtain ⟨rfl, rfl, rfl⟩ : registry = registry' ∧ passes = passes' ∧ guarded = guarded' :=
    ⟨h.registry, h.passes, h.guarded⟩
  have hcall : call' t.call = call t.call := (h.call _ ht).symm
  simp only [Clones.step, hcall]
  cases call t.call with
  | due =>
    cases guarded with
    | true => exact ⟨h.change _ _ _ _ _, rfl⟩
    | false => exact ⟨h.change _ _ _ _ _, rfl⟩
  | admitted => exact ⟨h.change _ _ _ _ _, rfl⟩
  | running p => exact ⟨h.change _ _ _ _ _, rfl⟩
  | leaving summary => exact ⟨h.change _ _ _ _ _, rfl⟩
  | returned result => exact ⟨h, rfl⟩

/-- A skipped tick concerns its own call only. -/
theorem AlikeBut.skip (h : AlikeBut ignored c c') (t : CallStep σ) (ht : ignored t.call = true) :
    AlikeBut ignored (c.skip t).clones c' := by
  refine ⟨h.registry, h.passes, h.guarded, fun i hi => ?_⟩
  have hne : i ≠ t.call := fun heq => by rw [heq, ht] at hi; cases hi
  rw [← h.call i hi]
  exact Function.update_of_ne hne _ _

end AlikeBut

/-- The deeds that are not skipped ticks. -/
def unskipped (deeds : List (Nat × Deed)) : List (Nat × Deed) := deeds.filter fun e => !e.2.isSkipped

section Unskipped

variable {ignored : Nat → Bool} {c c' : Clones} {t : CallStep σ}
  (hnow : (c.step settings t).clones.call t.call ≠ .due →
    ignored t.call = ((c.step settings t).clones.call t.call).wasSkipped)

include hnow

/-- A step of a call that comes to be skipped is the skipped tick, or does nothing: such a call was
    not let in before. -/
theorem AlikeBut.step_ignored (h : AlikeBut ignored c c') (ht : ignored t.call = true) :
    AlikeBut ignored (c.step settings t).clones c' ∧
      unskipped (withDeed [] t (c.step settings t).deed) = [] := by
  rcases c.step_cases settings t with ⟨_, _, hr⟩ | ⟨_, _, _, hafter⟩ | ⟨_, _, hdue, hskipped⟩ |
    ⟨_, hclones, hdeed⟩
  · rw [hr]
    exact ⟨h.skip t ht, rfl⟩
  · rw [hafter, ht] at hnow
    exact absurd (hnow nofun) nofun
  · rw [ht, hskipped] at hnow
    exact absurd (hnow hdue) nofun
  · rw [hclones, hdeed]
    exact ⟨h, rfl⟩

/-- A step of any other call is no skipped tick. -/
theorem unskipped_step (ht : ignored t.call = false) :
    unskipped (withDeed [] t (c.step settings t).deed) =
      withDeed [] t (c.step settings t).deed := by
  rcases c.step_cases settings t with ⟨_, _, hr⟩ | ⟨_, _, hdeed, _⟩ | ⟨_, hdeed, _, _⟩ |
    ⟨_, _, hdeed⟩
  · rw [hr, ht] at hnow
    simp [skip, Call.wasSkipped] at hnow
  · rw [hdeed]
    rfl
  · cases hd : (c.step settings t).deed with
    | none => rfl
    | some d => simp [withDeed, unskipped, hdeed d hd]
  · rw [hdeed]
    rfl

end Unskipped

/-- **Without the steps of the calls that come to be skipped** all other calls do the same, with
    the same registry and numbers. -/
theorem run_unskipped {ignored : Nat → Bool} {c c' : Clones} (h : AlikeBut ignored c c')
    (ts : List (CallStep σ))
    (hignored : ∀ i, ignored i = ((c.run settings ts).1.call i).wasSkipped) :
    let r := c'.run settings (ts.filter fun t => !ignored t.call)
    AlikeBut ignored (c.run settings ts).1 r.1 ∧ unskipped (c.run settings ts).2 = r.2 := by
  induction ts generalizing c c' with
  | nil => exact ⟨h, rfl⟩
  | cons t ts ih =>
    have hlater : ∀ i, ignored i =
        (((c.step settings t).clones.run settings ts).1.call i).wasSkipped := hignored
    have hnow : (c.step settings t).clones.call t.call ≠ .due →
        ignored t.call = ((c.step settings t).clones.call t.call).wasSkipped := fun hdue =>
      (hlater t.call).trans (wasSkipped_run settings ts hdue)
    have hdeeds : unskipped (c.run settings (t :: ts)).2 =
        unskipped (withDeed [] t (c.step settings t).deed)
          ++ unskipped ((c.step settings t).clones.run settings ts).2 := List.filter_append _ _
    intro r
    simp only [r]
    cases ht : ignored t.call with
    | true =>
      obtain ⟨halike, hnothing⟩ := h.step_ignored settings hnow ht
      have hfilter : (t :: ts).filter (fun t => !ignored t.call) =
          ts.filter fun t => !ignored t.call := by simp [ht]
      rw [hdeeds, hnothing, List.nil_append, hfilter]
      exact ih halike hlater
    | false =>
      obtain ⟨halike, hsame⟩ := h.step settings t ht
      have hfilter : (t :: ts).filter (fun t => !ignored t.call) =
          t :: ts.filter fun t => !ignored t.call := by simp [ht]
      obtain ⟨hend, hrest⟩ := ih halike hlater
      rw [hdeeds, unskipped_step settings hnow ht, hfilter, run, hrest, hsame]
      exact ⟨hend, rfl⟩

/-! ## 6. Overlapping ticks -/

/-- Call 1 comes while call 0 has a pass in progress and is skipped. Call 2 comes when that pass
    has ended and has the next one. -/
example :
    let step (i : Nat) : CallStep Nat := ⟨i, sampleWorld (rulesOnly [sampleRule]), 7⟩
    let r := ({} : Clones).run {}
      ([step 0, step 0, step 1] ++ List.replicate 20 (step 0) ++ [step 1, step 2, step 2])
    r.2.filterMap (fun e => e.2.number?.map fun n => (e.1, n)) = [(0, 1), (2, 2)] ∧
      (r.1.call 1).wasSkipped = true := by decide +kernel

end Clones

end JobKeeper
