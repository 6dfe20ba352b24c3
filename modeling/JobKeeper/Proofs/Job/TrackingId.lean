/-
  File:      JobKeeper/Proofs/Job/TrackingId.lean
  Subject:   A tracking id tells the kind of its job and the id in the job's definition.
-/
import JobKeeper.Job.Basic

namespace JobKeeper

/-- **A tracking id belongs to one kind and one id.** The names of the kinds differ in their first
    letter, and nothing of the id is lost behind them. -/
theorem JobKind.namespaced_inj {k k' : JobKind} {id id' : String}
    (h : k.namespaced id = k'.namespaced id') : k = k' ∧ id = id' := by
  have hl := congrArg String.toList h
  cases k <;> cases k' <;> simp [namespaced, name] at hl
  · exact ⟨rfl, String.toList_inj.mp hl⟩
  · exact ⟨rfl, String.toList_inj.mp hl⟩

end JobKeeper
