/-
  File:      JobKeeper/Yaml/Token.lean
  Subject:   The tokens of a YAML text, with the block structure that indentation gives.

  A block collection starts where a first entry or key stands further right than the collection
  around it, and ends where a line starts further left. A scalar may turn out to be a key only at
  the colon after it, which must stand on the same line; its key token is then put in front of it.
-/
import JobKeeper.Yaml.Tag

namespace JobKeeper.Yaml

/-! ## 1. Tokens -/

/-- How a scalar is written. -/
inductive Style where
  | plain
  | quoted
  | literal
  | folded
  deriving DecidableEq, Repr

inductive Token where
  | documentStart
  | documentEnd
  | directive (d : Directive)
  | blockSequenceStart
  | blockMappingStart
  | blockEnd
  | flowSequenceStart
  | flowSequenceEnd
  | flowMappingStart
  | flowMappingEnd
  | blockEntry
  | flowEntry
  | key
  | value
  | alias (name : String)
  | anchor (name : String)
  | tag (t : Tag)
  | scalar (style : Style) (text : String)
  deriving DecidableEq, Repr

/-! ## 2. Markers -/

/-- Whether a line that starts here is a document marker. -/
def isMarker : List Char → Bool
  | '-' :: '-' :: '-' :: rest => endsWord rest
  | '.' :: '.' :: '.' :: rest => endsWord rest
  | _ => false

/-! ## 3. Places -/

/-- A place in the text. -/
structure Place where
  /-- How many bytes come before it; columns count characters. -/
  offset : Nat := 0
  line : Nat := 0
  column : Nat := 0
  deriving Repr

namespace Place

/-- The place after some characters of one byte each. -/
def right (p : Place) (n : Nat) : Place :=
  { p with offset := p.offset + n, column := p.column + n }

/-- The place after a character. -/
def past (p : Place) (c : Char) : Place :=
  { p with offset := p.offset + c.utf8Size, column := p.column + 1 }

/-- The place after the characters of a text within one line. -/
def pastAll (p : Place) (cs : List Char) : Place := cs.foldl past p

/-- The place after a line break, and after what comes before it, of some bytes together. -/
def nextLine (p : Place) (bytes : Nat) : Place :=
  { offset := p.offset + bytes, line := p.line + 1, column := 0 }

end Place

/-! ## 4. The inside of scalars -/

/-- A scalar as far as it has been read. Blanks and breaks count only when text follows them. -/
structure Partial where
  /-- The text, in reverse. -/
  text : List Char := []
  /-- The blanks since the text, in reverse, while no break came. -/
  blanks : List Char := []
  /-- Whether a break came since the text. -/
  broken : Bool := false
  /-- The first break since the text; a break that was escaped leaves none. -/
  firstBreak : Option Char := none
  /-- The further breaks since the text, in reverse. -/
  moreBreaks : List Char := []

namespace Partial

/-- The blanks and breaks since the text become part of it: a single line feed becomes a space,
    and of several the first vanishes. -/
def joined (p : Partial) : Partial :=
  if p.broken then
    let fold := match p.firstBreak with
      | some '\n' => if p.moreBreaks.isEmpty then [' '] else p.moreBreaks
      | some c => p.moreBreaks ++ [c]
      | none => p.moreBreaks
    { text := fold ++ p.text }
  else { text := p.blanks ++ p.text }

def addBlank (p : Partial) (c : Char) : Partial :=
  if p.broken then p else { p with blanks := c :: p.blanks }

def addBreak (p : Partial) (c : Char) : Partial :=
  if p.broken then { p with moreBreaks := normalBreak c :: p.moreBreaks }
  else { p with blanks := [], broken := true, firstBreak := some (normalBreak c) }

def push (p : Partial) (c : Char) : Partial := { p with text := c :: p.text }

def toString (p : Partial) : String := String.ofList p.text.reverse

end Partial

/-- A scalar, where it ends, and what follows it. -/
structure Scanned where
  content : Partial
  place : Place
  rest : List Char

/-- A plain scalar from its first character on. -/
def scanPlain (inFlow : Bool) (indent : Int) (p : Partial) (place : Place) :
    List Char → Option Scanned
  | [] => some ⟨p, place, []⟩
  | '\r' :: '\n' :: rest => scanPlain inFlow indent (p.addBreak '\n') (place.nextLine 2) rest
  | c :: rest =>
    if isBlank c then
      if p.broken && (place.column : Int) < indent && c = '\t' then none
      else scanPlain inFlow indent (p.addBlank c) (place.past c) rest
    else if isBreak c then scanPlain inFlow indent (p.addBreak c) (place.nextLine c.utf8Size) rest
    else
      let afterGap := p.broken || !p.blanks.isEmpty
      let outside := p.broken && !inFlow && (place.column : Int) < indent
      let stops := afterGap && (c = '#' || (place.column = 0 && isMarker (c :: rest)))
      if outside || stops then some ⟨p, place, c :: rest⟩
      else if inFlow && c = ':' && rest.head?.any (fun d => d = '?' || isFlowIndicator d) then none
      else if (c = ':' && endsWord rest) || (inFlow && isFlowIndicator c) then
        some ⟨p, place, c :: rest⟩
      else scanPlain inFlow indent (p.joined.push c) (place.past c) rest

/-- What a one-letter escape stands for. -/
def escaped? (c : Char) : Option Char :=
  match c with
  | '0' => some (Char.ofNat 0)
  | 'a' => some (Char.ofNat 7)
  | 'b' => some (Char.ofNat 8)
  | 't' => some '\t'
  | '\t' => some '\t'
  | 'n' => some '\n'
  | 'v' => some (Char.ofNat 11)
  | 'f' => some (Char.ofNat 12)
  | 'r' => some '\r'
  | 'e' => some (Char.ofNat 27)
  | ' ' => some ' '
  | '"' => some '"'
  | '/' => some '/'
  | '\\' => some '\\'
  | 'N' => some (Char.ofNat 0x85)
  | '_' => some (Char.ofNat 0xA0)
  | 'L' => some (Char.ofNat 0x2028)
  | 'P' => some (Char.ofNat 0x2029)
  | _ => none

/-- The character of a code in hexadecimal digits. -/
def codeChar? (digits : List Char) : Option Char := do
  let n ← digits.foldlM (fun n c => (Text.hexValue? c).map (n * 16 + ·)) 0
  if (0xD800 ≤ n && n ≤ 0xDFFF) || 0x10FFFF < n then none else some (Char.ofNat n)

/-- A single-quoted scalar from after its opening quote to after its closing one. -/
def scanSingle (p : Partial) (place : Place) : List Char → Option Scanned
  | [] => none
  | '\r' :: '\n' :: rest => scanSingle (p.addBreak '\n') (place.nextLine 2) rest
  | '\'' :: '\'' :: rest => scanSingle (p.joined.push '\'') (place.right 2) rest
  | c :: rest =>
    if isBlank c then scanSingle (p.addBlank c) (place.past c) rest
    else if isBreak c then scanSingle (p.addBreak c) (place.nextLine c.utf8Size) rest
    else if place.column = 0 && isMarker (c :: rest) then none
    else if c = '\'' then some ⟨p.joined, place.right 1, rest⟩
    else scanSingle (p.joined.push c) (place.past c) rest

/-- A double-quoted scalar from after its opening quote to after its closing one. -/
def scanDouble (p : Partial) (place : Place) : List Char → Option Scanned
  | [] => none
  | '\r' :: '\n' :: rest => scanDouble (p.addBreak '\n') (place.nextLine 2) rest
  | '\\' :: '\r' :: '\n' :: rest =>
    scanDouble { p.joined with broken := true } (place.nextLine 3) rest
  | '\\' :: 'x' :: a :: b :: rest =>
    match codeChar? [a, b] with
    | some c => scanDouble (p.joined.push c) (place.right 4) rest
    | none => none
  | '\\' :: 'u' :: a :: b :: c :: d :: rest =>
    match codeChar? [a, b, c, d] with
    | some c => scanDouble (p.joined.push c) (place.right 6) rest
    | none => none
  | '\\' :: 'U' :: a :: b :: c :: d :: e :: f :: g :: h :: rest =>
    match codeChar? [a, b, c, d, e, f, g, h] with
    | some c => scanDouble (p.joined.push c) (place.right 10) rest
    | none => none
  | '\\' :: c :: rest =>
    if isBreak c then
      scanDouble { p.joined with broken := true } (place.nextLine (1 + c.utf8Size)) rest
    else
      match escaped? c with
      | some d => scanDouble (p.joined.push d) (place.right 2) rest
      | none => none
  | c :: rest =>
    if isBlank c then scanDouble (p.addBlank c) (place.past c) rest
    else if isBreak c then scanDouble (p.addBreak c) (place.nextLine c.utf8Size) rest
    else if c = '\\' || (place.column = 0 && isMarker (c :: rest)) then none
    else if c = '"' then some ⟨p.joined, place.right 1, rest⟩
    else scanDouble (p.joined.push c) (place.past c) rest

/-! ## 5. Block scalars -/

/-- What becomes of the breaks at the end of a block scalar. -/
inductive Chomp where
  | strip
  | clip
  | keep
  deriving DecidableEq, Repr

/-- The indicators after a block scalar's first character: chomping and indentation, in either
    order. -/
def blockHeader : List Char → Option (Chomp × Nat × List Char) :=
  let chomp := fun (c : Char) => if c = '+' then Chomp.keep else Chomp.strip
  let isChomp := fun (c : Char) => c = '+' || c = '-'
  fun cs => match cs with
  | a :: b :: rest =>
    if isChomp a then
      if b.isDigit then if b = '0' then none else some (chomp a, b.toNat - 48, rest)
      else some (chomp a, 0, b :: rest)
    else if a.isDigit then
      if a = '0' then none
      else if isChomp b then some (chomp b, a.toNat - 48, rest)
      else some (.clip, a.toNat - 48, b :: rest)
    else some (.clip, 0, a :: b :: rest)
  | [a] =>
    if isChomp a then some (chomp a, 0, [])
    else if a.isDigit then if a = '0' then none else some (.clip, a.toNat - 48, [])
    else some (.clip, 0, [a])
  | [] => some (.clip, 0, [])

/-- The place and text after a line break at the front. -/
def skipBreak (place : Place) : List Char → Place × List Char
  | '\r' :: '\n' :: rest => (place.nextLine 2, rest)
  | c :: rest => (place.nextLine c.utf8Size, rest)
  | [] => (place, [])

/-- The empty lines before a line of a block scalar, of indentation zero while that is unknown:
    the breaks in reverse, the widest line of spaces, and what follows. -/
def blockBreaks (indent widest : Nat) (breaks : List Char) (place : Place) :
    List Char → Option (List Char × Nat × Place × List Char)
  | [] => some (breaks, max widest place.column, place, [])
  | '\r' :: '\n' :: rest =>
    blockBreaks indent (max widest place.column) ('\n' :: breaks) (place.nextLine 2) rest
  | c :: rest =>
    let inIndent := indent = 0 || place.column < indent
    if inIndent && c = ' ' then blockBreaks indent widest breaks (place.right 1) rest
    else if inIndent && c = '\t' then none
    else if isBreak c then
      blockBreaks indent (max widest place.column) (normalBreak c :: breaks)
        (place.nextLine c.utf8Size) rest
    else some (breaks, max widest place.column, place, c :: rest)

/-- The lines of a block scalar. `text` is in reverse; `lead` is the break after the last line and
    `breaks` are those of the empty lines after it. -/
def blockLines (literal : Bool) (indent : Nat) (fuel : Nat) (text lead breaks : List Char)
    (lastBlank : Bool) (place : Place) (cs : List Char) :
    Option (List Char × List Char × List Char × Place × List Char) :=
  match fuel, cs with
  | 0, _ => some (text, lead, breaks, place, cs)
  | _, [] => some (text, lead, breaks, place, [])
  | fuel + 1, c :: rest =>
    if place.column ≠ indent then some (text, lead, breaks, place, c :: rest)
    else
      let blank := isBlank c
      let folds := !literal && lead = ['\n'] && !lastBlank && !blank
      let gap := if folds then (if breaks.isEmpty then [' '] else breaks) else breaks ++ lead
      let line := (c :: rest).takeWhile (!isBreak ·)
      let after := (c :: rest).dropWhile (!isBreak ·)
      let place' := place.pastAll line
      let lead' := match after with
        | [] => []
        | d :: _ => [normalBreak d]
      let (place', after) := skipBreak place' after
      match blockBreaks indent 0 [] place' after with
      | none => none
      | some (breaks', _, place', after) =>
        blockLines literal indent fuel (line.reverse ++ gap ++ text) lead' breaks' blank place'
          after

/-- A block scalar from after its first character on, in a block of some indentation. -/
def scanBlock (literal : Bool) (outer : Int) (place : Place) (cs : List Char) :
    Option (String × Place × List Char) := do
  let (chomp, increment, rest) ← blockHeader cs
  let place := place.right (cs.length - rest.length)
  let blanks := rest.takeWhile isBlank
  let place := place.right blanks.length
  let rest := rest.dropWhile isBlank
  let comment := if rest.head? = some '#' then rest.takeWhile (!isBreak ·) else []
  let place := place.pastAll comment
  let rest := rest.drop comment.length
  if !endsWord rest then none
  let (place, rest) := skipBreak place rest
  let given := if increment = 0 then 0 else (if 0 ≤ outer then outer.toNat else 0) + increment
  let (breaks, widest, place, rest) ← blockBreaks given 0 [] place rest
  let indent := if given = 0 then max (max widest (outer + 1).toNat) 1 else given
  let (text, lead, breaks, place, rest) ←
    blockLines literal indent rest.length [] [] breaks false place rest
  let ending := match chomp with
    | .strip => []
    | .clip => lead
    | .keep => breaks ++ lead
  return (String.ofList (ending ++ text).reverse, place, rest)

end JobKeeper.Yaml
