/-
  File:      JobKeeper/Yaml/Layout.lean
  Subject:   The token list of a YAML text: block structure from indentation, and keys that are
             recognised only at the colon after them.
-/
import JobKeeper.Yaml.Token

namespace JobKeeper.Yaml

/-! ## 1. Where the reading stands -/

/-- A scalar or collection that may turn out to be a key. -/
structure KeyCandidate where
  /-- Whether the block structure leaves it no choice. -/
  required : Bool
  /-- How many tokens come before it. -/
  position : Nat
  place : Place

/-- Where the reading of a text stands. -/
structure Layout where
  rest : List Char
  place : Place := {}
  tokens : Array Token := #[]
  /-- The column of the innermost block collection; -1 outside of all. -/
  indent : Int := -1
  /-- The columns of the collections around it, the innermost first. -/
  outer : List Int := []
  /-- The key candidate of each open flow collection, the innermost first, and of the block. -/
  candidates : List (Option KeyCandidate) := [none]
  /-- Whether a key may start here. -/
  keyAllowed : Bool := true

namespace Layout

/-- Whether the reading is inside of a flow collection. -/
def inFlow (l : Layout) : Bool := 1 < l.candidates.length

def emit (l : Layout) (t : Token) : Layout := { l with tokens := l.tokens.push t }

/-- Moves on by characters of one line. -/
def skip (l : Layout) (n : Nat) : Layout :=
  { l with rest := l.rest.drop n, place := l.place.pastAll (l.rest.take n) }

/-! ## 2. Key candidates -/

/-- Drops a candidate; one that had to be a key is missed. -/
def dropCandidate (l : Layout) : Option Layout :=
  match l.candidates with
  | some c :: others => if c.required then none else some { l with candidates := none :: others }
  | _ => some l

/-- What starts here may be a key, if a key may start here. -/
def saveCandidate (l : Layout) : Option Layout :=
  if l.keyAllowed then do
    let l ← l.dropCandidate
    let c : KeyCandidate :=
      { required := !l.inFlow && l.indent = l.place.column, position := l.tokens.size,
        place := l.place }
    return { l with candidates := some c :: l.candidates.drop 1 }
  else some l

/-- Whether a candidate is too far back: on an earlier line, or over 1024 bytes away. -/
def isStale (l : Layout) (c : KeyCandidate) : Bool :=
  c.place.line < l.place.line || c.place.offset + 1024 < l.place.offset

/-- Drops the candidates that are too far back. -/
def dropStale (l : Layout) : Option Layout := do
  let candidates ← l.candidates.mapM fun c =>
    match c with
    | some k => if l.isStale k then (if k.required then none else some none) else some (some k)
    | none => some none
  return { l with candidates }

/-! ## 3. Indentation -/

/-- Opens a block collection at a column, if that is further right than the innermost one. Its
    token goes to a position of the list. -/
def openBlock (l : Layout) (column : Nat) (position : Nat) (t : Token) : Layout :=
  if !l.inFlow && l.indent < column then
    { l with
      outer := l.indent :: l.outer
      indent := column
      tokens := l.tokens.insertIdxIfInBounds position t }
  else l

/-- Closes the block collections further right than a column, out of `indents` around them. -/
def closeBlocks (column : Int) : List Int → Layout → Layout
  | [], l => l
  | i :: outer, l =>
    if column < l.indent then
      closeBlocks column outer { l.emit .blockEnd with indent := i, outer }
    else l

/-- Closes the block collections further right than a column; flow collections know no columns. -/
def unroll (l : Layout) (column : Int) : Layout :=
  if l.inFlow then l else closeBlocks column l.outer l

/-! ## 4. Between tokens -/

/-- Skips blanks, comments and line breaks. A tab may not stand where a key may start. A key may
    start on a new line of a block. A byte order mark may start a line and takes a column of it. -/
def skipGap (fuel : Nat) (l : Layout) : Layout :=
  match fuel with
  | 0 => l
  | fuel + 1 =>
    match l.rest with
    | [] => l
    | c :: rest =>
      if c = ' ' || (c = '\t' && (l.inFlow || !l.keyAllowed)) then skipGap fuel (l.skip 1)
      else if l.place.column = 0 && c.toNat = 0xFEFF then skipGap fuel (l.skip 1)
      else if c = '#' then skipGap fuel (l.skip ((c :: rest).takeWhile (!isBreak ·)).length)
      else if isBreak c then
        let (place, rest) := skipBreak l.place (c :: rest)
        skipGap fuel { l with place, rest, keyAllowed := l.keyAllowed || !l.inFlow }
      else l

/-! ## 5. One token -/

/-- A token of one character that opens a flow collection. -/
def openFlow (l : Layout) (t : Token) : Option Layout := do
  let l ← l.saveCandidate
  return { (l.emit t).skip 1 with candidates := none :: l.candidates, keyAllowed := true }

/-- A token of one character that closes a flow collection. -/
def closeFlow (l : Layout) (t : Token) : Option Layout := do
  let l ← l.dropCandidate
  let candidates := if l.inFlow then l.candidates.drop 1 else l.candidates
  return { (l.emit t).skip 1 with candidates, keyAllowed := false }

/-- A dash before an entry. -/
def blockEntry (l : Layout) : Option Layout :=
  if !l.inFlow && !l.keyAllowed then none
  else do
    let l := l.openBlock l.place.column l.tokens.size .blockSequenceStart
    let l ← l.dropCandidate
    return { (l.emit .blockEntry).skip 1 with keyAllowed := true }

/-- A question mark before a key. -/
def explicitKey (l : Layout) : Option Layout :=
  if !l.inFlow && !l.keyAllowed then none
  else do
    let l := l.openBlock l.place.column l.tokens.size .blockMappingStart
    let l ← l.dropCandidate
    return { (l.emit .key).skip 1 with keyAllowed := !l.inFlow }

/-- A colon before a value: what was a candidate is now a key. -/
def value (l : Layout) : Option Layout :=
  match l.candidates with
  | some c :: others =>
    let l := { l with tokens := l.tokens.insertIdxIfInBounds c.position .key }
    let l := l.openBlock c.place.column c.position .blockMappingStart
    some { (l.emit .value).skip 1 with candidates := none :: others, keyAllowed := false }
  | _ =>
    if !l.inFlow && !l.keyAllowed then none
    else
      let l := l.openBlock l.place.column l.tokens.size .blockMappingStart
      some { (l.emit .value).skip 1 with keyAllowed := !l.inFlow }

/-- A name after `&` or `*`. -/
def named (l : Layout) (t : String → Token) : Option Layout := do
  let l ← l.saveCandidate
  let name := (l.rest.drop 1).takeWhile isNameChar
  let after := (l.rest.drop 1).dropWhile isNameChar
  let ends := endsWord after || after.head?.any fun c =>
    ['?', ':', ',', ']', '\x7d', '%', '@', '\x60'].contains c
  if name.isEmpty || !ends then none
  return { (l.emit (t (String.ofList name))).skip (name.length + 1) with keyAllowed := false }

/-- A tag. In flow collections a comma may follow it without a blank. -/
def tagged (l : Layout) : Option Layout := do
  let l ← l.saveCandidate
  let (tag, after) ← Tag.scan? l.rest
  if !(endsWord after || (l.inFlow && after.head? = some ',')) then none
  return { (l.emit (.tag tag)).skip (l.rest.length - after.length) with keyAllowed := false }

/-- A scalar with quotes around it. -/
def quotedScalar (l : Layout) (scan : Partial → Place → List Char → Option Scanned) :
    Option Layout := do
  let l ← l.saveCandidate
  let s ← scan {} (l.place.right 1) (l.rest.drop 1)
  return { l.emit (.scalar .quoted s.content.toString) with
    place := s.place, rest := s.rest, keyAllowed := false }

/-- A scalar without quotes. A line break after it lets a key follow. -/
def plainScalar (l : Layout) : Option Layout := do
  let l ← l.saveCandidate
  let s ← scanPlain l.inFlow (l.indent + 1) {} l.place l.rest
  return { l.emit (.scalar .plain s.content.toString) with
    place := s.place, rest := s.rest, keyAllowed := s.content.broken }

/-- A scalar of whole lines. -/
def blockScalar (l : Layout) (style : Style) : Option Layout := do
  let l ← l.dropCandidate
  let (text, place, rest) ←
    scanBlock (style = .literal) l.indent (l.place.right 1) (l.rest.drop 1)
  return { l.emit (.scalar style text) with place, rest, keyAllowed := true }

/-- A marker at the start of a line ends all block collections. -/
def marker (l : Layout) (t : Token) (length : Nat) : Option Layout := do
  let l ← (l.unroll (-1)).dropCandidate
  return { (l.emit t).skip length with keyAllowed := false }

/-- A directive is a marker that takes its line, the break after it included. -/
def directive (l : Layout) (rest : List Char) : Option Layout := do
  let (d, after) ← Directive.scan? rest
  let l ← l.marker (.directive d) (l.rest.length - after.length)
  let (place, rest) := skipBreak l.place l.rest
  return { l with place, rest }

/-- Whether a plain scalar may start here. -/
def startsPlain (inFlow : Bool) (c : Char) (rest : List Char) : Bool :=
  let indicators := ['-', '?', ':', ',', '[', ']', '\x7b', '\x7d', '#', '&', '*', '!', '|', '>',
    '\'', '"', '%', '@', '\x60']
  !(endsWord [c] || indicators.contains c)
    || (c = '-' && !startsBlank rest)
    || (!inFlow && (c = '?' || c = ':') && !endsWord rest)

/-- The token that starts with a character. -/
def token (l : Layout) (c : Char) (rest : List Char) : Option Layout :=
  if l.place.column = 0 && c = '%' then l.directive rest
  else if l.place.column = 0 && isMarker l.rest then
    l.marker (if c = '-' then .documentStart else .documentEnd) 3
  else if c = '[' then l.openFlow .flowSequenceStart
  else if c = '\x7b' then l.openFlow .flowMappingStart
  else if c = ']' then l.closeFlow .flowSequenceEnd
  else if c = '\x7d' then l.closeFlow .flowMappingEnd
  else if c = ',' then do
    let l ← l.dropCandidate
    return { (l.emit .flowEntry).skip 1 with keyAllowed := true }
  else if c = '-' && endsWord rest then l.blockEntry
  else if c = '?' && (l.inFlow || endsWord rest) then l.explicitKey
  else if c = ':' && (l.inFlow || endsWord rest) then l.value
  else if c = '*' then l.named .alias
  else if c = '&' then l.named .anchor
  else if c = '!' then l.tagged
  else if c = '|' && !l.inFlow then l.blockScalar .literal
  else if c = '>' && !l.inFlow then l.blockScalar .folded
  else if c = '\'' then l.quotedScalar scanSingle
  else if c = '"' then l.quotedScalar scanDouble
  else if startsPlain l.inFlow c rest then l.plainScalar
  else none

/-! ## 6. All tokens -/

/-- The end of the text, on a line of its own. -/
def finish (l : Layout) : Option Layout := (l.unroll (-1)).dropCandidate

/-- Reads tokens, `fuel` at most, until the text ends. -/
def readAll : Nat → Layout → Option Layout
  | 0, l => l.finish
  | fuel + 1, l => do
    let l := l.skipGap (l.rest.length + 1)
    let l ← l.dropStale
    let l := l.unroll l.place.column
    match l.rest with
    | [] => l.finish
    | c :: rest => readAll fuel (← l.token c rest)

end Layout

/-- The tokens of a text. Every token takes a character or more, so there are no more tokens to
    read than characters. -/
def tokens? (s : String) : Option (List Token) :=
  let cs := s.toList
  if cs.all isAllowed then
    (Layout.readAll (cs.length + 1) { rest := cs }).map fun l => l.tokens.toList
  else none

end JobKeeper.Yaml
