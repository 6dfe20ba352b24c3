/-
  File:      JobKeeper/Json/Record.lean
  Subject:   Records: documents whose fields are known by name, or by position in an array.

  A record keeps the documents of its known fields in the order in which the fields are declared.
  So neither the order of the keys in the text nor a key that names no field can show in it. A
  field that is left out has an empty value, which each reader below supplies.
-/
import JobKeeper.Json.Doc

namespace JobKeeper.Json

/-- The documents of the fields that are present, in the order of their declaration. -/
abbrev Record := List (String × Doc)

namespace Record

/-! ## 1. From documents -/

/-- How many of the written fields have a key. -/
def occurrences (key : String) (fields : List (Option String × Doc)) : Nat :=
  fields.countP fun f => f.1 == some key

/-- The document at a key of the written fields, the first one if there are several. -/
def field? (key : String) : List (Option String × Doc) → Option Doc
  | [] => none
  | (k, d) :: rest => if k = some key then some d else field? key rest

/-- The record of a document. In an object every key must be text and no known key may occur twice;
    in an array the items are the fields in order, and there may be fewer but not more of them. -/
def ofDoc? (names : List String) : Doc → Option Record
  | .object fields =>
    if fields.any (fun f => f.1.isNone) || names.any (fun n => 1 < occurrences n fields) then none
    else some (names.filterMap fun n => (field? n fields).map fun d => (n, d))
  | .array items => if names.length < items.length then none else some (names.zip items)
  | _ => none

/-- The document of a field, if it is present. -/
def get? (r : Record) (name : String) : Option Doc :=
  match r with
  | [] => none
  | (n, d) :: rest => if n = name then some d else get? rest name

/-! ## 2. Reading fields -/

/-- A text. -/
def textOf? : Doc → Option String
  | .string s => s
  | _ => none

/-- A whole number from -2^63 to 2^63 - 1, written as one. -/
def intOf? : Doc → Option Int
  | .number n => match n.toNumber? with
    | some (.integer i) => if i < 0x8000000000000000 then some i else none
    | _ => none
  | _ => none

/-- A number of any form that a double can come near to. -/
def doubleOf? : Doc → Option Binary64
  | .number n => match n.toNumber? with
    | some (.integer i) => Binary64.ofInt? i
    | some (.double d) => some d
    | none => none
  | _ => none

/-- The items of an array. -/
def listOf? {α : Type} (item : Doc → Option α) : Doc → Option (List α)
  | .array items => items.mapM item
  | _ => none

/-- The entries of an object; of several with one key the last counts, but each must be sound. -/
def dictOf? {α : Type} (value : Doc → Option α) : Doc → Option (Dict α)
  | .object fields => do
    let entries ← fields.mapM fun f => do
      let key ← f.1
      return (key, ← value f.2)
    return Dict.ofList entries
  | _ => none

/-- Nothing for `null`, else what the reader makes of the document. -/
def nullable {α : Type} (read : Doc → Option α) : Doc → Option (Option α)
  | .null => some none
  | d => (read d).map some

/-- A field of a record: `missing` if it is left out. -/
def read {α : Type} (r : Record) (name : String) (missing : α) (value : Doc → Option α) :
    Option α :=
  match r.get? name with
  | none => some missing
  | some d => value d

/-- A field with a text, empty if left out. -/
def text? (r : Record) (name : String) : Option String := r.read name "" textOf?

/-- A field with a text or nothing. -/
def optionalText? (r : Record) (name : String) : Option (Option String) :=
  r.read name none (nullable textOf?)

/-- A field with a whole number, zero if left out. -/
def int? (r : Record) (name : String) : Option Int := r.read name 0 intOf?

/-- A field with a number, zero if left out. -/
def double? (r : Record) (name : String) : Option Binary64 := r.read name .zero doubleOf?

end Record

end JobKeeper.Json
