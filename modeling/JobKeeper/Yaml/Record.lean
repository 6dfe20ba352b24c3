/-
  File:      JobKeeper/Yaml/Record.lean
  Subject:   Mappings read as records of known fields.

  A field is a text or an unsigned number. Every scalar is a text, whatever its style; a number is
  a plain scalar. A record that is left out has no fields.
-/
import JobKeeper.Yaml.Node

namespace JobKeeper.Yaml

/-! ## 1. Numbers -/

/-- Reads on from the number `n` in a base, up to a limit. -/
def readBase? (base limit : Nat) (n : Nat) : List Char → Option Nat
  | [] => some n
  | c :: rest => do
    let digit ← Text.hexValue? c
    let n' := n * base + digit
    if digit < base && n' ≤ limit then readBase? base limit n' rest else none

/-- The number of one digit or more in a base, up to a limit. -/
def numberInBase? (base limit : Nat) (digits : List Char) : Option Nat :=
  if digits.isEmpty then none else readBase? base limit 0 digits

/-- The unsigned number of a text, up to a limit: decimal without leading zeros, or in base 16, 8 or
    2 with the mark of it. A plus sign may come first. -/
def unsignedOfText? (limit : Nat) (s : String) : Option Nat :=
  let cs := match s.toList with
    | '+' :: rest => rest
    | cs => cs
  match cs with
  | '0' :: 'x' :: digits => numberInBase? 16 limit digits
  | '0' :: 'o' :: digits => numberInBase? 8 limit digits
  | '0' :: 'b' :: digits => numberInBase? 2 limit digits
  | '0' :: _ :: _ => none
  | digits => numberInBase? 10 limit digits

/-! ## 2. Fields -/

/-- The tag of integers. -/
def integerTag : String := "tag:yaml.org,2002:int"

namespace Document

/-- A node as a text. -/
def text? (d : Document) (n : Node) : Option String :=
  match d.resolve n with
  | .scalar _ _ text => some text
  | _ => none

/-- A node as an unsigned number up to a limit: a plain scalar, or a literal one tagged as an
    integer. -/
def unsigned? (d : Document) (limit : Nat) (n : Node) : Option Nat :=
  match d.resolve n with
  | .scalar style tag text =>
    if style = .plain || (style = .literal && tag = some integerTag) then
      unsignedOfText? limit text
    else none
  | _ => none

/-- A node as a mapping; where none is written it has no entries. -/
def entries? (d : Document) (n : Node) : Option (List (Node × Node)) :=
  match d.resolve n with
  | .mapping entries => some entries
  | .scalar .plain _ "" => some []
  | _ => none

end Document

/-! ## 3. Records -/

/-- The fields of a record by name, those that nobody knows among them. -/
structure Fields where
  document : Document
  entries : List (String × Node)

namespace Fields

/-- A node as a record with known fields: each key is a text, and a known one comes once. -/
def ofNode? (d : Document) (known : List String) (n : Node) : Option Fields := do
  let entries ← (← d.entries? n).mapM fun (key, value) => do return (← d.text? key, value)
  if known.any fun name => 1 < entries.countP (·.1 = name) then none
  return ⟨d, entries⟩

/-- The root of a document as a record; a document without one has no fields. -/
def ofRoot? (d : Document) (known : List String) : Option Fields :=
  ofNode? d known (d.root.getD (.missing none))

/-- A field that is a text, with what it is when absent. -/
def text? (f : Fields) (name default : String) : Option String :=
  match f.entries.lookup name with
  | none => some default
  | some n => f.document.text? n

/-- A field that is an unsigned number, with what it is when absent. -/
def unsigned? (f : Fields) (name : String) (limit default : Nat) : Option Nat :=
  match f.entries.lookup name with
  | none => some default
  | some n => f.document.unsigned? limit n

/-- A field that is a record; when absent it has no fields. -/
def record? (f : Fields) (name : String) (known : List String) : Option Fields :=
  match f.entries.lookup name with
  | none => some ⟨f.document, []⟩
  | some n => ofNode? f.document known n

end Fields

end JobKeeper.Yaml
