/-
  File:      JobKeeper/Sql/Error.lean
  Subject:   Why a statement cannot be written, and the test every required part passes.
-/
import JobKeeper.Text.Blank

namespace JobKeeper.Sql

/-! ## 1. Causes -/

/-- Why a clause or a statement cannot be written. -/
inductive Error where
  /-- A table whose schema text is blank. -/
  | missingSchema (table : String)
  /-- A schema without a single column. -/
  | emptySchema
  /-- A connector clause without options. -/
  | noConnectorOptions
  /-- A window that groups by no entity or by no attribute. -/
  | emptyFieldGroup (group : String)
  /-- A second event time in one schema. -/
  | duplicateWatermark (existing requested : String)
  /-- A statement set without inserts. -/
  | emptyStatementSet
  /-- A window of less than one minute. -/
  | invalidWindow (minutes : Int)
  /-- A required part that is blank. -/
  | missing (part : String)
  deriving DecidableEq, Repr

/-- The wording of a cause. -/
def Error.message : Error → String
  | .missingSchema table => "table `" ++ table ++ "` has no schema"
  | .emptySchema => "schema has no columns"
  | .noConnectorOptions => "connector clause needs at least one option"
  | .emptyFieldGroup group => group ++ " field group is empty"
  | .duplicateWatermark existing requested =>
    "schema already has a watermark on `" ++ existing ++ "`, cannot add another on `"
      ++ requested ++ "`"
  | .emptyStatementSet => "statement set has no insert statements"
  | .invalidWindow minutes =>
    "tumbling window must span at least one minute, got " ++ toString minutes
  | .missing part => "missing " ++ part

/-! ## 2. Required parts -/

/-- A required part: used as it stands, untrimmed, unless it is blank. -/
def require (part value : String) : Except Error String :=
  if Text.isBlank value then .error (.missing part) else .ok value

theorem require_of_blank {part value : String} (h : Text.isBlank value = true) :
    require part value = .error (.missing part) := by simp [require, h]

theorem require_of_not_blank {part value : String} (h : Text.isBlank value = false) :
    require part value = .ok value := by simp [require, h]

/-- What passes is the value itself, and it is not blank. -/
theorem require_eq_ok_iff (part value out : String) :
    require part value = .ok out ↔ Text.isBlank value = false ∧ out = value := by
  by_cases h : Text.isBlank value = true
  · simp [require, h]
  · simp only [require, if_neg h]
    simp only [Bool.not_eq_true] at h
    simp [h, eq_comm]

end JobKeeper.Sql
