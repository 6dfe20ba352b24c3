/-
  File:      JobKeeper/Json/Print.lean
  Subject:   The compact text of a JSON value.
-/
import JobKeeper.Json.Value
import JobKeeper.Text.Join

namespace JobKeeper.Json

/-! ## 1. Strings -/

/-- A hexadecimal digit in lower case. -/
def hexDigit (n : Nat) : Char :=
  if n < 10 then Char.ofNat (48 + n) else Char.ofNat (87 + n)

/-- So many hexadecimal digits of a number, the last ones. -/
def hexDigits (n : Nat) : Nat → List Char
  | 0 => []
  | places + 1 => hexDigits (n / 16) places ++ [hexDigit (n % 16)]

/-- A character inside a string: quotes, backslashes and control characters are escaped. -/
def escape (c : Char) : List Char :=
  if c = '"' then ['\\', '"']
  else if c = '\\' then ['\\', '\\']
  else if c.toNat = 8 then ['\\', 'b']
  else if c.toNat = 12 then ['\\', 'f']
  else if c = '\n' then ['\\', 'n']
  else if c = '\r' then ['\\', 'r']
  else if c = '\t' then ['\\', 't']
  else if c.toNat < 32 then ['\\', 'u'] ++ hexDigits c.toNat 4
  else [c]

/-- A text as a JSON string. -/
def stringText (s : String) : String :=
  String.ofList ('"' :: (s.toList.flatMap escape ++ ['"']))

/-! ## 2. Numbers -/

/-- A run of digits as text. -/
def digitsText (ds : Digits) : String := String.ofList (ds.map fun d => Char.ofNat (48 + d.val))

/-- A numeral as text; an exponent always has a sign. -/
def numeralText (n : Numeral) : String :=
  (if n.negative then "-" else "") ++ digitsText n.whole
    ++ (if n.fraction.isEmpty then "" else "." ++ digitsText n.fraction)
    ++ match n.exponent with
      | none => ""
      | some (negative, ds) => (if negative then "e-" else "e+") ++ digitsText ds

/-! ## 3. Values -/

mutual

/-- The text of a value, without blanks. -/
def text : Json → String
  | .null => "null"
  | .bool b => if b then "true" else "false"
  | .number n => numeralText (.ofNumber n)
  | .string s => stringText s
  | .array items => "[" ++ Text.join "," (itemTexts items) ++ "]"
  | .object fields => "\x7b" ++ Text.join "," (fieldTexts fields) ++ "\x7d"

/-- The texts of the items of an array. -/
def itemTexts : List Json → List String
  | [] => []
  | item :: rest => text item :: itemTexts rest

/-- The texts of the fields of an object. -/
def fieldTexts : List (String × Json) → List String
  | [] => []
  | (key, value) :: rest => (stringText key ++ ":" ++ text value) :: fieldTexts rest

end

/-- A string stands for itself; any other value for its text. -/
def plainText : Json → String
  | .string s => s
  | v => text v

end JobKeeper.Json
