/-
  File:      JobKeeper/Yaml/Node.lean
  Subject:   The tree of a YAML document, built from its tokens.

  A node that is left out is the empty plain scalar. An alias stays an alias: it names a node of
  the document's table of anchored nodes, so a node may hold an alias to a collection that it is
  itself part of, and the tree is finite all the same.
-/
import JobKeeper.Yaml.Layout

namespace JobKeeper.Yaml

/-! ## 1. Trees -/

inductive Node where
  | scalar (style : Style) (tag : Option String) (text : String)
  | sequence (items : List Node)
  | mapping (entries : List (Node × Node))
  /-- The anchored node of an index. -/
  | alias (index : Nat)
  deriving Repr, Inhabited

namespace Node

/-- The node that stands where none is written. -/
def missing (tag : Option String) : Node := .scalar .plain tag ""

end Node

/-- A document: its root, unless there is nothing but comments, and its anchored nodes by their
    indices. -/
structure Document where
  root : Option Node
  anchored : List (Nat × Node)
  deriving Repr

namespace Document

/-- The node that a node stands for: an alias stands for the anchored node, which is no alias. -/
def resolve (d : Document) : Node → Node
  | .alias index => (d.anchored.lookup index).getD (.alias index)
  | n => n

end Document

/-! ## 2. Reading nodes -/

/-- The tokens ahead, and the anchors met so far. -/
structure Reading where
  ahead : List Token
  handles : List Tag.Handle := []
  /-- The index of each name: a name that is given again gets a new one. -/
  names : List (String × Nat) := []
  /-- The node of each index: of several anchored nodes with one index, the one that starts last. -/
  anchored : List (Nat × Node) := []

/-- A reader of a part of a document; a part that breaks the grammar is refused. -/
abbrev Reader := StateT Reading Option

namespace Reader

def next? : Reader (Option Token) := do return (← get).ahead.head?

def skip : Reader Unit := modify fun r => { r with ahead := r.ahead.drop 1 }

/-- Skips the next token if it is the one named. -/
def skipIf (t : Token) : Reader Bool := do
  let found := (← next?) = some t
  if found then skip
  return found

def expect (t : Token) : Reader Unit := do
  if !(← skipIf t) then failure

/-- Whether the next token is one of those named. -/
def atAny (ts : List Token) : Reader Bool := do
  return (← next?).any ts.contains

/-- The tag of a node, if there is one. -/
def tag? : Reader (Option String) := do
  match ← next? with
  | some (.tag t) =>
    skip
    match t.resolve? (← get).handles with
    | some text => return some text
    | none => failure
  | _ => return none

/-- The anchor of a node, if there is one. -/
def anchor? : Reader (Option String) := do
  match ← next? with
  | some (.anchor name) => skip; return some name
  | _ => return none

/-- What stands in front of a node: one anchor and one tag, in either order. -/
def properties : Reader (Option String × Option String) := do
  match ← anchor? with
  | some a => return (some a, ← tag?)
  | none =>
    let t ← tag?
    if t.isNone then return (none, none)
    return (← anchor?, t)

/-- Gives a name the index that is the number of names so far. A name that is given again does not
    add to that number, so the index may have gone to another anchor before; the node of that anchor
    is replaced. -/
def openAnchor (name : String) : Reader Nat := do
  let r ← get
  let index := r.names.length
  set { r with
    names := (name, index) :: r.names.filter (·.1 ≠ name)
    anchored := r.anchored.filter (·.1 ≠ index) }
  return index

/-- Puts the node of an index, unless a node inside of it has taken the index over. -/
def closeAnchor (index : Nat) (n : Node) : Reader Unit :=
  modify fun r =>
    if (r.anchored.lookup index).isSome then r
    else { r with anchored := (index, n) :: r.anchored }

/-- The node of an alias; its anchor comes before it. -/
def aliased (name : String) : Reader Node := do
  match (← get).names.lookup name with
  | some index => return .alias index
  | none => failure

end Reader

open Reader

/-- The tokens that end an entry of a block mapping. -/
def blockPairEnds : List Token := [.key, .value, .blockEnd]

mutual

/-- A node. Only inside of blocks can it be a block collection, and a sequence without indentation
    of its own only as an entry of a mapping. -/
def readNode (fuel : Nat) (block indentless : Bool) : Reader Node := do
  match fuel with
  | 0 => failure
  | fuel + 1 =>
    match ← next? with
    | some (.alias name) =>
      skip
      aliased name
    | _ =>
      let (anchor, tag) ← properties
      let index ← anchor.mapM openAnchor
      let n ← readContent fuel block indentless (anchor.isSome || tag.isSome) tag
      match index with
      | some i => closeAnchor i n
      | none => pure ()
      return n

/-- A node after its anchor and tag. With either of them the rest may be left out. -/
def readContent (fuel : Nat) (block indentless mayMiss : Bool) (tag : Option String) :
    Reader Node := do
  match fuel with
  | 0 => failure
  | fuel + 1 =>
    let absent : Reader Node := if mayMiss then pure (.missing tag) else failure
    match ← next? with
    | some (.scalar style text) =>
      skip
      return .scalar style tag text
    | some .flowSequenceStart =>
      skip
      return .sequence (← readFlowItems fuel true)
    | some .flowMappingStart =>
      skip
      return .mapping (← readFlowPairs fuel true)
    | some .blockSequenceStart =>
      if !block then absent
      else
        skip
        return .sequence (← readBlockItems fuel)
    | some .blockMappingStart =>
      if !block then absent
      else
        skip
        return .mapping (← readBlockPairs fuel)
    | some .blockEntry =>
      if !indentless then absent
      else return .sequence (← readIndentless fuel)
    | _ => absent

/-- A node, unless one of the tokens named comes first: then it is left out. -/
def readUnless (fuel : Nat) (ends : List Token) (block indentless : Bool) : Reader Node := do
  match fuel with
  | 0 => failure
  | fuel + 1 =>
    if ← atAny ends then return .missing none
    else readNode fuel block indentless

/-- The items of a block sequence. -/
def readBlockItems (fuel : Nat) : Reader (List Node) := do
  match fuel with
  | 0 => failure
  | fuel + 1 =>
    if ← skipIf .blockEnd then return []
    else
      expect .blockEntry
      let item ← readUnless fuel [.blockEntry, .blockEnd] true false
      return item :: (← readBlockItems fuel)

/-- The items of a sequence that stands at the column of the mapping around it. -/
def readIndentless (fuel : Nat) : Reader (List Node) := do
  match fuel with
  | 0 => failure
  | fuel + 1 =>
    if ← skipIf .blockEntry then
      let item ← readUnless fuel (.blockEntry :: blockPairEnds) true false
      return item :: (← readIndentless fuel)
    else return []

/-- The entries of a block mapping. -/
def readBlockPairs (fuel : Nat) : Reader (List (Node × Node)) := do
  match fuel with
  | 0 => failure
  | fuel + 1 =>
    if ← skipIf .blockEnd then return []
    else
      expect .key
      let key ← readUnless fuel blockPairEnds true true
      let value ← if ← skipIf .value then readUnless fuel blockPairEnds true true
        else pure (.missing none)
      return (key, value) :: (← readBlockPairs fuel)

/-- The items of a flow sequence; an item with a key is a mapping of one entry. A key that is left
    out takes the token after it away, so its value is left out as well. -/
def readFlowItems (fuel : Nat) (first : Bool) : Reader (List Node) := do
  match fuel with
  | 0 => failure
  | fuel + 1 =>
    if ← skipIf .flowSequenceEnd then return []
    else
      if !first then expect .flowEntry
      if ← skipIf .key then
        let ends := [.value, .flowEntry, .flowSequenceEnd]
        let key ← if ← atAny ends then do
            skip
            pure (.missing none)
          else readNode fuel false false
        let value ← if ← skipIf .value then
            readUnless fuel [.flowEntry, .flowSequenceEnd] false false
          else pure (.missing none)
        return .mapping [(key, value)] :: (← readFlowItems fuel false)
      else if ← skipIf .flowSequenceEnd then return []
      else
        let item ← readNode fuel false false
        return item :: (← readFlowItems fuel false)

/-- The entries of a flow mapping. -/
def readFlowPairs (fuel : Nat) (first : Bool) : Reader (List (Node × Node)) := do
  match fuel with
  | 0 => failure
  | fuel + 1 =>
    if ← skipIf .flowMappingEnd then return []
    else
      if !first then expect .flowEntry
      if ← skipIf .key then
        let key ← readUnless fuel [.value, .flowEntry, .flowMappingEnd] false false
        let value ← if ← skipIf .value then
            readUnless fuel [.flowEntry, .flowMappingEnd] false false
          else pure (.missing none)
        return (key, value) :: (← readFlowPairs fuel false)
      else if ← skipIf .flowMappingEnd then return []
      else
        let key ← readNode fuel false false
        return (key, .missing none) :: (← readFlowPairs fuel false)

end

/-! ## 3. Documents -/

/-- The directives in front of a document. -/
def readDirectives : List Token → List Directive × List Token
  | .directive d :: rest =>
    let (ds, rest) := readDirectives rest
    (d :: ds, rest)
  | ts => ([], ts)

/-- The only document of a text. Directives need a marker after them; without a marker the root
    must be there. -/
def readDocument (fuel : Nat) : Reader (Option Node) := do
  if (← next?).isNone then return none
  let (directives, ahead) := readDirectives (← get).ahead
  if !Directive.agree directives then failure
  modify fun r => { r with ahead, handles := Directive.handles directives }
  let marked ← skipIf .documentStart
  if !marked && !directives.isEmpty then failure
  let bare := match ← next? with
    | none | some .documentStart | some .documentEnd | some (.directive _) => true
    | _ => false
  let root ← if marked && bare then pure (.missing none)
    else readNode fuel true false
  modify fun r => { r with ahead := r.ahead.dropWhile (· = .documentEnd) }
  if (← next?).isSome then failure
  return some root

/-- The document of a text. No part of it is read without a token of its own, or the one before
    it, so the depth of the reading stays within a few times their number. -/
def Document.ofText? (s : String) : Option Document := do
  let ts ← tokens? s
  let (root, r) ← (readDocument (4 * ts.length + 4)).run { ahead := ts }
  return { root, anchored := r.anchored }

end JobKeeper.Yaml
