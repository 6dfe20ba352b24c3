/-
  File:      JobKeeper/Url/Domain.lean
  Subject:   Domain names in their ASCII form: letters in lower case, and labels with other
             characters in their bootstring form.

  A name is first brought into its canonical form, so that names that look alike are the same. What
  is refused then is what could still be taken for another name: labels that start with a mark, that
  hold joiners where they do not show, or that run in two directions.
-/
import JobKeeper.Text.Composed
import JobKeeper.Text.Direction
import JobKeeper.Text.Joining
import JobKeeper.Url.Bootstring
import JobKeeper.Url.Mapping
import JobKeeper.Url.Percent

namespace JobKeeper.Url

open JobKeeper.Text

/-! ## 1. Characters -/

def isAscii (c : Char) : Bool := c.toNat < 0x80

/-- Characters that no host may hold. -/
def forbiddenInHost (c : Char) : Bool :=
  c.toNat = 0 || ['\t', '\n', '\r', ' ', '#', '/', ':', '<', '>', '?', '@', '[', '\\', ']', '^',
    '|'].contains c

/-- Characters that no domain name may hold, even where a host may: controls and percent signs. -/
def forbiddenInDomain (c : Char) : Bool :=
  forbiddenInHost c || c.toNat < 0x20 || c = '%' || c.toNat = 0x7F

/-- The canonical form of a name: its characters mapped, and letters and marks put together. -/
def canonical? (name : List Char) : Option (List Char) :=
  if name.all isAscii then some (name.map Char.toLower)
  else (name.mapM mapped?).map fun parts => composed parts.flatten

/-! ## 2. Labels -/

/-- The labels of a name. -/
def labels (name : List Char) : List (List Char) := name.splitOn '.'

/-- The most characters that a label may have if it needs to be encoded, and that one may have that
    is. -/
def labelLimit : Nat := 1000

def encodedLimit : Nat := 2000

/-- The label that an encoded one stands for. It needs the encoding, and is canonical already. -/
def decoded? (encoded : List Char) : Option (List Char) := do
  if encodedLimit < encoded.length || !encoded.all isAscii then none
  let label ← Bootstring.decode? encoded
  if label.all isAscii || canonical? label ≠ some label then none
  return label

/-- The label that a label of a canonical name stands for; one that looks encoded must be. -/
def plainLabel? (label : List Char) : Option (List Char) :=
  match label with
  | 'x' :: 'n' :: '-' :: '-' :: encoded => decoded? encoded
  | _ => some label

/-- Whether a label may stand in a name. One of ASCII may; any other has to be short enough, may not
    start with a mark, and may hold joiners only where they show. -/
def isPlain (label : List Char) : Bool :=
  label.all isAscii
    || (label.length ≤ labelLimit && !label.head?.any isMark && joinersFit [] label)

/-- Whether a label runs in one direction: it starts with a letter, and ends with a letter or digit
    of the same direction, marks apart. Digits of one kind only may stand among letters that are
    written from right to left. -/
def runsOneWay (label : List Char) : Bool :=
  match label.map direction with
  | [] => true
  | first :: rest =>
    let body := (rest.reverse.dropWhile (· = .mark)).reverse
    let allowed := fun (ends inside : List Direction) =>
      body.all (ends ++ inside).contains && body.getLast?.all ends.contains
    match first with
    | .leftToRight => allowed [.leftToRight, .europeanDigit] [.neutral, .mark]
    | .rightToLeft =>
      allowed [.rightToLeft, .europeanDigit, .arabicDigit] [.neutral, .mark]
        && !(body.contains .europeanDigit && body.contains .arabicDigit)
    | _ => false

/-- The ASCII form of a label. -/
def asciiLabel (label : List Char) : List Char :=
  if label.all isAscii then label else "xn--".toList ++ Bootstring.encode label

/-! ## 3. Names -/

/-- The ASCII form of a name. Directions matter if anything runs from right to left. -/
def asciiDomain? (name : List Char) : Option (List Char) := do
  let name ← canonical? name
  if name.any forbiddenInDomain then none
  let ls ← (labels name).mapM plainLabel?
  if !ls.all isPlain then none
  if ls.any (·.any turnsDirection) && !ls.all runsOneWay then none
  return ['.'].intercalate (ls.map asciiLabel)

end JobKeeper.Url
