/-
  File:      JobKeeper/Yaml/Tag.lean
  Subject:   Tags, and the directives that say what the handles of tags stand for.

  A tag is a handle with a suffix, or is written out between angle brackets. Suffixes are made of
  the characters of addresses, others as escaped octets. An octet stands here as the character of
  its number, so that two tags are equal when their octets are.
-/
import JobKeeper.Text.Hexadecimal
import JobKeeper.Yaml.Character

namespace JobKeeper.Yaml

/-! ## 1. Addresses -/

/-- Whether a character may stand in the address of a tag; `wide` addresses may also hold those
    that separate the items of flow sequences. -/
def isAddressChar (wide : Bool) (c : Char) : Bool :=
  isNameChar c || ";/?:@&=+$.%!~*'()".toList.contains c
    || (wide && (c = ',' || c = '[' || c = ']'))

/-- How many octets the first one of a sequence announces. -/
def sequenceLength? (octet : Nat) : Option Nat :=
  if octet < 0x80 then some 1
  else if octet < 0xC0 then none
  else if octet < 0xE0 then some 2
  else if octet < 0xF0 then some 3
  else if octet < 0xF8 then some 4
  else none

/-- The octets of an address, of which the next `pending` ones have to be escaped because they go
    on with a sequence. -/
def addressOctets? (pending : Nat) : List Char → Option (List Char)
  | '%' :: a :: b :: rest => do
    let octet := (← Text.hexValue? a) * 16 + (← Text.hexValue? b)
    if pending = 0 then
      let length ← sequenceLength? octet
      return Char.ofNat octet :: (← addressOctets? (length - 1) rest)
    else if octet / 64 = 2 then
      return Char.ofNat octet :: (← addressOctets? (pending - 1) rest)
    else none
  | c :: rest =>
    if pending = 0 && c ≠ '%' then (addressOctets? 0 rest).map (c :: ·) else none
  | [] => if pending = 0 then some [] else none

/-- The address at the front of a text, as it counts, and the text after it. A zero octet and what
    follows it do not count. -/
def address? (wide : Bool) (cs : List Char) : Option (String × List Char) := do
  let octets ← addressOctets? 0 (cs.takeWhile (isAddressChar wide))
  return (String.ofList (octets.takeWhile (·.toNat ≠ 0)), cs.dropWhile (isAddressChar wide))

/-! ## 2. Tags -/

/-- A tag as it is written; without a handle the suffix is the whole tag. -/
structure Tag where
  handle : String
  suffix : String
  deriving DecidableEq, Repr

namespace Tag

/-- A handle with exclamation marks around its name, which may be empty, and what follows it. -/
def namedHandle? (cs : List Char) : Option (String × List Char) :=
  match cs with
  | '!' :: cs =>
    match cs.dropWhile isNameChar with
    | '!' :: rest => some (String.ofList ('!' :: cs.takeWhile isNameChar ++ ['!']), rest)
    | _ => none
  | _ => none

/-- The tag after its exclamation mark between angle brackets. -/
def verbatim? (cs : List Char) : Option (Tag × List Char) := do
  if !cs.head?.any (isAddressChar true) then none
  match ← address? true cs with
  | (suffix, '>' :: rest) => return (⟨"", suffix⟩, rest)
  | _ => none

/-- The tag at the front of a text, and the text after it. A lone exclamation mark is a tag of its
    own. -/
def scan? (cs : List Char) : Option (Tag × List Char) :=
  match cs with
  | '!' :: '<' :: rest => verbatim? rest
  | cs =>
    match namedHandle? cs with
    | some (handle, rest) =>
      if !rest.head?.any (isAddressChar false) then none
      else (address? false rest).map fun (suffix, rest) => (⟨handle, suffix⟩, rest)
    | none =>
      (address? false (cs.drop 1)).map fun (suffix, rest) =>
        (if suffix = "" then ⟨"", "!"⟩ else ⟨"!", suffix⟩, rest)

/-- A handle and what it stands for. -/
abbrev Handle := String × String

/-- The handles that need no declaration. -/
def standard : List Handle := [("!", "!"), ("!!", "tag:yaml.org,2002:")]

/-- A tag with its handle written out; the first declaration of a handle counts. -/
def resolve? (handles : List Handle) (t : Tag) : Option String :=
  if t.handle = "" then some t.suffix
  else ((handles ++ standard).lookup t.handle).map (· ++ t.suffix)

end Tag

/-! ## 3. Directives -/

inductive Directive where
  | version (major minor : Nat)
  | handle (h : Tag.Handle)
  deriving DecidableEq, Repr

namespace Directive

/-- A number of up to nine digits, and what follows it. -/
def number? (cs : List Char) : Option (Nat × List Char) :=
  let digits := cs.takeWhile Char.isDigit
  if digits.isEmpty || 9 < digits.length then none
  else
    some (digits.foldl (fun n c => n * 10 + (c.toNat - 48)) 0, cs.dropWhile Char.isDigit)

/-- The two numbers of a version. -/
def version? (cs : List Char) : Option (Directive × List Char) := do
  match ← number? cs with
  | (major, '.' :: rest) =>
    let (minor, rest) ← number? rest
    return (.version major minor, rest)
  | _ => none

/-- A handle and the address that it stands for. -/
def handle? (cs : List Char) : Option (Directive × List Char) := do
  let (name, rest) ← match Tag.namedHandle? cs with
    | some found => some found
    | none => if cs.head? = some '!' then some ("!", cs.drop 1) else none
  if !startsBlank rest then none
  let rest := rest.dropWhile isBlank
  if !rest.head?.any (isAddressChar true) then none
  let (value, rest) ← address? true rest
  if !endsWord rest then none
  return (.handle (name, value), rest)

/-- The directive of a line after its percent sign, and the text from the end of the line on. Only a
    comment may follow it. -/
def scan? (cs : List Char) : Option (Directive × List Char) := do
  let name := cs.takeWhile isNameChar
  let rest := cs.dropWhile isNameChar
  if !endsWord rest then none
  let value := rest.dropWhile isBlank
  let (directive, rest) ← match String.ofList name with
    | "YAML" => version? value
    | "TAG" => handle? value
    | _ => none
  let rest := rest.dropWhile isBlank
  let rest := if rest.head? = some '#' then rest.dropWhile (!isBreak ·) else rest
  if endsLine rest then return (directive, rest) else none

/-- Whether a directive is a version that is known. -/
def isKnown : Directive → Bool
  | .version major minor => major = 1 && (minor = 1 || minor = 2)
  | .handle _ => true

/-- What directives have in common that only one of a document may have: there is one version, and
    a handle is declared once. -/
def subject : Directive → Option String
  | .version _ _ => none
  | .handle h => some h.1

/-- The handles that directives declare. -/
def handles (ds : List Directive) : List Tag.Handle :=
  ds.filterMap fun d =>
    match d with
    | .version _ _ => none
    | .handle h => some h

/-- Whether directives may stand together in front of a document. -/
def agree (ds : List Directive) : Bool :=
  ds.all isKnown && (ds.map subject).Nodup

end Directive

end JobKeeper.Yaml
