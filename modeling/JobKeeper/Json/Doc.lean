/-
  File:      JobKeeper/Json/Doc.lean
  Subject:   JSON documents as they are written: fields in order with repetitions, numbers as
             numerals, strings whose content may be no text; and the values kept of them.
-/
import JobKeeper.Json.Token

namespace JobKeeper.Json

/-! ## 1. Documents -/

/-- A document. A string without text has escapes that do not form text. -/
inductive Doc where
  | null
  | bool (b : Bool)
  | number (n : Numeral)
  | string (text : Option String)
  | array (items : List Doc)
  | object (fields : List (Option String × Doc))

instance : Inhabited Doc := ⟨.null⟩

/-! ## 2. From tokens -/

/-- An array or object that is not closed yet, with what it holds so far in reverse. -/
inductive Frame where
  | array (items : List Doc)
  | object (fields : List (Option String × Doc)) (key : Option String)

/-- What may follow the tokens read so far. The frames are the open arrays and objects, the
    innermost first. -/
inductive Progress where
  /-- A value. -/
  | value (frames : List Frame)
  /-- The first item of an array, or its end. -/
  | item (frames : List Frame)
  /-- The first key of an object, or its end. -/
  | field (frames : List Frame)
  /-- A further key of an object. -/
  | key (fields : List (Option String × Doc)) (frames : List Frame)
  /-- The colon after a key. -/
  | colon (fields : List (Option String × Doc)) (key : Option String) (frames : List Frame)
  /-- What follows a complete value. -/
  | complete (doc : Doc) (frames : List Frame)

namespace Progress

/-- A token where a value is due. -/
def startValue (frames : List Frame) : Token → Option Progress
  | .null => some (.complete .null frames)
  | .bool b => some (.complete (.bool b) frames)
  | .number n => some (.complete (.number n) frames)
  | .string s => some (.complete (.string s) frames)
  | .openArray => some (.item frames)
  | .openObject => some (.field frames)
  | _ => none

/-- One token. -/
def step : Progress → Token → Option Progress
  | .value frames, t => startValue frames t
  | .item frames, .closeArray => some (.complete (.array []) frames)
  | .item frames, t => startValue (.array [] :: frames) t
  | .field frames, .closeObject => some (.complete (.object []) frames)
  | .field frames, .string k => some (.colon [] k frames)
  | .key fields frames, .string k => some (.colon fields k frames)
  | .colon fields k frames, .colon => some (.value (.object fields k :: frames))
  | .complete d (.array items :: frames), .comma => some (.value (.array (d :: items) :: frames))
  | .complete d (.array items :: frames), .closeArray =>
    some (.complete (.array (d :: items).reverse) frames)
  | .complete d (.object fields k :: frames), .comma => some (.key ((k, d) :: fields) frames)
  | .complete d (.object fields k :: frames), .closeObject =>
    some (.complete (.object ((k, d) :: fields).reverse) frames)
  | _, _ => none

end Progress

/-- The one document of a list of tokens. -/
def Doc.ofTokens? (tokens : List Token) : Option Doc :=
  match tokens.foldlM Progress.step (.value []) with
  | some (.complete doc []) => some doc
  | _ => none

/-- The one document of a text, with blanks around it. -/
def Doc.ofText? (s : String) : Option Doc := (Token.ofText? s).bind Doc.ofTokens?

/-! ## 3. Kept values -/

/-- How deep a kept value may be nested, counted from the root of its document. -/
def deepest : Nat := 127

mutual

/-- The value of a document that has room for so many levels of arrays and objects. Of several
    fields with one key the last one counts. -/
def Doc.keep (room : Nat) : Doc → Option Json
  | .null => some .null
  | .bool b => some (.bool b)
  | .number n => n.toNumber?.map .number
  | .string s => s.map .string
  | .array items => match room with
    | 0 => none
    | room + 1 => (keepItems room items).map .array
  | .object fields => match room with
    | 0 => none
    | room + 1 => (keepFields room fields).map .fields

/-- The values of the items of an array. -/
def Doc.keepItems (room : Nat) : List Doc → Option (List Json)
  | [] => some []
  | item :: rest => do
    let value ← item.keep room
    return value :: (← keepItems room rest)

/-- The fields of an object, in the order written. -/
def Doc.keepFields (room : Nat) : List (Option String × Doc) → Option (List (String × Json))
  | [] => some []
  | (key, value) :: rest => do
    let key ← key
    let value ← value.keep room
    return (key, value) :: (← keepFields room rest)

end

/-- The value of a text. -/
def ofText? (s : String) : Option Json := (Doc.ofText? s).bind (Doc.keep deepest)

/-! ## 4. Values as documents -/

mutual

/-- The document that a value is written as. -/
def toDoc : Json → Doc
  | .null => .null
  | .bool b => .bool b
  | .number n => .number (.ofNumber n)
  | .string s => .string (some s)
  | .array items => .array (itemDocs items)
  | .object fields => .object (fieldDocs fields)

/-- The documents of the items of an array. -/
def itemDocs : List Json → List Doc
  | [] => []
  | item :: rest => toDoc item :: itemDocs rest

/-- The fields of an object as written. -/
def fieldDocs : List (String × Json) → List (Option String × Doc)
  | [] => []
  | (key, value) :: rest => (some key, toDoc value) :: fieldDocs rest

end

end JobKeeper.Json
