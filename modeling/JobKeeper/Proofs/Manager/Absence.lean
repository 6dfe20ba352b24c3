/-
  File:      JobKeeper/Proofs/Manager/Absence.lean
  Subject:   What the answers of the source, pass after pass, say about a job that is gone.

  A failed fetch says nothing about the jobs of its kind, so a pass shows that a job is gone only
  if its kind was fetched and the job was not listed. `LongGone` speaks of the whole history;
  `goneFor` is the one number that decides, with each pass, whether it comes to hold
  (`longGone_concat`).
-/
import JobKeeper.Proofs.Manager.Fate
import Mathlib.Data.List.DropRight

namespace JobKeeper

/-! ## 1. One pass -/

/-- The pass shows that the job is gone: its kind was fetched, and the job was not listed. -/
def Answers.ShowsGone (a : Answers) (kind : JobKind) (name : String) : Prop :=
  a.failed kind = false ∧ ¬ a.Lists (kind.namespaced name)

instance (a : Answers) (kind : JobKind) (name : String) : Decidable (a.ShowsGone kind name) :=
  inferInstanceAs (Decidable (_ ∧ _))

/-! ## 2. Passes in a row -/

/-- **The job has been gone for long**: since the last pass that listed it, so many passes in a row
    have shown that it is gone. -/
def LongGone (retention : Nat) (kind : JobKind) (name : String) (answers : List Answers) : Prop :=
  ∃ before block after, answers = before ++ block ++ after ∧ block.length = retention ∧
    (∀ a ∈ block, a.ShowsGone kind name) ∧ ∀ a ∈ after, ¬ a.Lists (kind.namespaced name)

/-- How many passes in a row, up to the latest one, have shown that the job is gone. -/
def goneFor (kind : JobKind) (name : String) (answers : List Answers) : Nat :=
  (answers.rtakeWhile fun a => a.ShowsGone kind name).length

/-- A list ends in so many elements that pass a test exactly if its longest such end is as long. -/
theorem le_length_rtakeWhile_iff {α : Type} {p : α → Bool} {l : List α} {n : Nat} :
    n ≤ (l.rtakeWhile p).length ↔
      ∃ before block, l = before ++ block ∧ block.length = n ∧ ∀ a ∈ block, p a = true := by
  constructor
  · intro h
    let keep := (l.rtakeWhile p).length - n
    refine ⟨l.rdropWhile p ++ (l.rtakeWhile p).take keep, (l.rtakeWhile p).drop keep, ?_, ?_, ?_⟩
    · rw [List.append_assoc, List.take_append_drop, List.rdropWhile_append_rtakeWhile]
    · rw [List.length_drop]
      omega
    · intro a ha
      exact List.mem_rtakeWhile_imp (List.mem_of_mem_drop ha)
  · intro h
    obtain ⟨before, block, rfl, rfl, hp⟩ := h
    have whole : (before ++ block).rtakeWhile p = before.rtakeWhile p ++ block := by
      rw [List.rtakeWhile, List.reverse_append,
        List.takeWhile_append_of_pos fun a ha => hp a (List.mem_reverse.mp ha),
        List.reverse_append, List.reverse_reverse, List.rtakeWhile]
    rw [whole, List.length_append]
    omega

section History

variable {kind : JobKind} {name : String} (answers : List Answers) {a : Answers}

theorem goneFor_concat_of_gone (h : a.ShowsGone kind name) :
    goneFor kind name (answers ++ [a]) = goneFor kind name answers + 1 := by
  rw [goneFor, List.rtakeWhile_concat_pos _ _ _ (by simpa using h), List.length_append]
  rfl

theorem goneFor_concat_of_not_gone (h : ¬ a.ShowsGone kind name) :
    goneFor kind name (answers ++ [a]) = 0 := by
  rw [goneFor, List.rtakeWhile_concat_neg _ _ _ (by simpa using h)]
  rfl

theorem Answers.not_showsGone_of_lists (h : a.Lists (kind.namespaced name)) :
    ¬ a.ShowsGone kind name := fun hg => hg.2 h

theorem Answers.not_showsGone_of_failed (h : a.failed kind = true) :
    ¬ a.ShowsGone kind name := by
  intro hg
  have hf := hg.1
  rw [h] at hf
  cases hf

variable {answers} {retention : Nat}

/-- **With one more pass a job is gone for long** if the pass does not list it, and either it was
    gone for long before or the passes in a row, with this one, are enough. -/
theorem longGone_concat (hr : retention ≠ 0) :
    LongGone retention kind name (answers ++ [a]) ↔
      ¬ a.Lists (kind.namespaced name) ∧
        (LongGone retention kind name answers ∨
          retention ≤ goneFor kind name (answers ++ [a])) := by
  constructor
  · intro h
    obtain ⟨before, block, after, heq, hlen, hblock, hafter⟩ := h
    rcases List.eq_nil_or_concat' after with rfl | ⟨after, b, rfl⟩
    · rw [List.append_nil] at heq
      rcases List.eq_nil_or_concat' block with rfl | ⟨block', b, rfl⟩
      · exact absurd hlen.symm hr
      · -- the new pass is the last one of the block
        have hab : a = b := by
          rw [← List.append_assoc] at heq
          exact List.singleton_inj.mp (List.append_inj' heq rfl).2
        subst hab
        refine ⟨(hblock a (by simp)).2, Or.inr (le_length_rtakeWhile_iff.mpr ?_)⟩
        exact ⟨before, _, heq, hlen, fun b hb => decide_eq_true (hblock b hb)⟩
    · -- the new pass comes after the block
      rw [← List.append_assoc] at heq
      obtain ⟨rfl, hab⟩ := List.append_inj' heq rfl
      obtain rfl : a = b := List.singleton_inj.mp hab
      refine ⟨hafter a (by simp), Or.inl ⟨before, block, after, rfl, hlen, hblock, ?_⟩⟩
      exact fun b hb => hafter b (List.mem_append_left _ hb)
  · intro h
    obtain ⟨hnot, ⟨before, block, after, rfl, hlen, hblock, hafter⟩ | hlong⟩ := h
    · refine ⟨before, block, after ++ [a], by simp, hlen, hblock, fun b hb => ?_⟩
      rcases List.mem_append.mp hb with hb | hb
      · exact hafter b hb
      · exact List.mem_singleton.mp hb ▸ hnot
    · obtain ⟨before, block, heq, hlen, hblock⟩ := le_length_rtakeWhile_iff.mp hlong
      exact ⟨before, block, [], by rw [List.append_nil, heq], hlen,
        fun b hb => of_decide_eq_true (hblock b hb), fun b hb => absurd hb List.not_mem_nil⟩

/-- A job that was not gone for long is not so either after a pass that lists it, or with which
    the passes in a row are too few. -/
theorem kept_concat (h : retention ≠ 0 → a.Lists (kind.namespaced name) ∨
      (¬ LongGone retention kind name answers ∧
        goneFor kind name (answers ++ [a]) < retention)) :
    retention = 0 ∨ ¬ LongGone retention kind name (answers ++ [a]) := by
  by_cases hr : retention = 0
  · exact Or.inl hr
  · refine Or.inr fun hlong => ?_
    obtain ⟨hnot, hwhy⟩ := (longGone_concat hr).mp hlong
    obtain ⟨hshort, hfew⟩ := (h hr).resolve_left hnot
    exact hwhy.elim hshort (Nat.not_le_of_lt hfew)

end History

end JobKeeper
