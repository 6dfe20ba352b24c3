/-
  File:      JobKeeper/Text/Unsigned.lean
  Subject:   Unsigned decimal numbers up to a limit, as people type them.
-/
namespace JobKeeper.Text

namespace Unsigned

/-- Why a text is no such number. -/
inductive Error where
  | empty
  | invalidDigit
  | tooLarge
  deriving DecidableEq, Repr

/-- The wording of a cause. -/
def Error.message : Error → String
  | .empty => "cannot parse integer from empty string"
  | .invalidDigit => "invalid digit found in string"
  | .tooLarge => "number too large to fit in target type"

/-- Reads on from the number `n`: the first character that is no digit, or at which the number
    passes the limit, decides. -/
def readDigits (limit n : Nat) : List Char → Except Error Nat
  | [] => .ok n
  | c :: rest =>
    if c.isDigit then
      let n' := 10 * n + (c.toNat - 48)
      if n' ≤ limit then readDigits limit n' rest else .error .tooLarge
    else .error .invalidDigit

/-- The number of a text: at least one ASCII digit, after an optional plus sign. -/
def read (limit : Nat) (s : String) : Except Error Nat :=
  match s.toList with
  | [] => .error .empty
  | ['+'] => .error .invalidDigit
  | '+' :: rest => readDigits limit 0 rest
  | cs => readDigits limit 0 cs

end Unsigned

end JobKeeper.Text
