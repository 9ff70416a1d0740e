import Scaffold.Yaml.Resolution
import Scaffold.Yaml.Token

/-!
# Reading nodes

From tokens to the node of the single document of a text.  Anchors are names for nodes; an alias
stands for the node that has its name.
-/

namespace Scaffold.Yaml

namespace Node

/-- What is left to read, with the names that are known. -/
structure Reading where
  tokens : List Token
  anchors : List (List Char × Node)
  handles : List (List Char × List Char)

abbrev Reader := StateT Reading (Except Trouble)

/-- The handles that are always there. -/
def commonHandles : List (List Char × List Char) :=
  [("!".toList, "!".toList), ("!!".toList, Tag.common.toList)]

namespace Reader

def peek : Reader (Option Token) := return (← get).tokens.head?

def skip : Reader Unit := modify fun r => { r with tokens := r.tokens.drop 1 }

/-- The next token is none that can stand here. -/
def refuse : Reader α := do
  match ← peek with
  | some (.broken trouble) => throw trouble
  | _ => throw .malformed

/-- The next token is one of these. -/
def sees (tokens : List Token) : Reader Bool := do
  match ← peek with
  | some t => return tokens.contains t
  | none => return false

/-- Pass the next token if it is the given one. -/
def accept (token : Token) : Reader Bool := do
  let found ← sees [token]
  if found then skip
  return found

def expect (token : Token) : Reader Unit := do
  if !(← accept token) then refuse

/-- Give a node a name, if there is one. -/
def name (anchor? : Option (List Char)) (node : Node) : Reader Unit :=
  match anchor? with
  | some anchor => modify fun r => { r with anchors := (anchor, node) :: r.anchors }
  | none => pure ()

/-- The name is given to a node already. -/
def isNamed (anchor? : Option (List Char)) : Reader Bool := do
  match anchor? with
  | some anchor => return ((← get).anchors.lookup anchor).isSome
  | none => return false

/-! ## Properties -/

/-- A tag with its handle spelled out. -/
def spell (tag : TagText) : Reader (List Char) := do
  match tag.handle? with
  | none => return tag.suffix
  | some handle =>
    match (← get).handles.lookup handle with
    | some text => return text ++ tag.suffix
    | none => throw .malformed

def anchor? : Reader (Option (List Char)) := do
  match ← peek with
  | some (.anchor name) =>
      skip
      return some name
  | _ => return none

def tag? : Reader (Option TagText) := do
  match ← peek with
  | some (.tag text) =>
      skip
      return some text
  | _ => return none

/-- An anchor and a tag in any order. -/
def properties : Reader (Option (List Char) × Option (List Char)) := do
  let first ← anchor?
  let tag ← tag?
  let anchor ← if first.isNone && tag.isSome then anchor? else pure first
  match tag with
  | some tag => return (anchor, some (← spell tag))
  | none => return (anchor, none)

/-- A tag that leaves the kind open. -/
def isOpen (tag : Option (List Char)) : Bool := tag.isNone || tag = some ['!']

/-- The kind of a collection. -/
def collectionTag (tag : Option (List Char)) (default : Tag) : Tag :=
  if isOpen tag then default else Tag.ofName (tag.getD [])

/-- The kind of a scalar. -/
def scalarTag (tag : Option (List Char)) (plain : Bool) (text : List Char) : Tag :=
  if tag = some ['!'] then .ofPlain text
  else
    match tag with
    | some tag => .ofName tag
    | none => if plain then .ofPlain text else .str

/-- The node of nothing. -/
def empty : Node := .scalar .null []

end Reader

open Reader

/-- Where a node stands decides which collections it may be. -/
inductive Position where
  | flow
  | block
  /-- A sequence may begin without further indentation. -/
  | entry
  deriving DecidableEq, Repr

/-- A node that has properties only. -/
def readEmpty (anchor tag : Option (List Char)) : Reader Node := do
  if anchor.isNone && tag.isNone then refuse
  else
    let node := .scalar (scalarTag tag true []) []
    name anchor node
    return node

mutual

/-- A node; collections are read to so many levels and entries. -/
def read (position : Position) : Nat → Reader Node
  | 0 => refuse
  | n + 1 => do
    match ← peek with
    | some (.alias name) =>
        skip
        match (← get).anchors.lookup name with
        | some node => return node
        | none => throw .malformed
    | _ =>
      let (anchor, tag) ← properties
      if ← isNamed anchor then throw .malformed
      readContent position anchor tag n

/-- The content of a node with its properties. -/
def readContent (position : Position) (anchor tag : Option (List Char)) : Nat → Reader Node
  | 0 => refuse
  | n + 1 => do
    let sequence := collectionTag tag .seq
    let mapping := collectionTag tag .map
    match position, ← peek with
    | .entry, some .blockEntry =>
        name anchor (.sequence sequence [])
        let node := .sequence sequence (← readPlainEntries n)
        name anchor node
        return node
    | _, some (.scalar plain text) =>
        skip
        let node := .scalar (scalarTag tag plain text) text
        name anchor node
        return node
    | _, some .flowSequenceStart =>
        skip
        name anchor (.sequence sequence [])
        let node := .sequence sequence (← readFlowItems true n)
        name anchor node
        return node
    | _, some .flowMappingStart =>
        skip
        name anchor (.mapping mapping [])
        let node := .mapping mapping (← readFlowEntries true n)
        name anchor node
        return node
    | position, some .blockSequenceStart =>
        if position = .flow then readEmpty anchor tag
        else
          skip
          name anchor (.sequence sequence [])
          let node := .sequence sequence (← readBlockItems n)
          name anchor node
          return node
    | position, some .blockMappingStart =>
        if position = .flow then readEmpty anchor tag
        else
          skip
          name anchor (.mapping mapping [])
          let node := .mapping mapping (← readBlockEntries n)
          name anchor node
          return node
    | _, _ => readEmpty anchor tag

/-- A node, or nothing before one of these tokens. -/
def readUnless (position : Position) (tokens : List Token) : Nat → Reader Node
  | 0 => refuse
  | n + 1 => do
    if ← sees tokens then return empty else read position n

/-- The items of a block sequence. -/
def readBlockItems : Nat → Reader (List Node)
  | 0 => refuse
  | n + 1 => do
    if ← accept .blockEntry then
      let item ← readUnless .block [.blockEntry, .blockEnd] n
      return item :: (← readBlockItems n)
    else
      expect .blockEnd
      return []

/-- The items of a sequence without indentation of its own. -/
def readPlainEntries : Nat → Reader (List Node)
  | 0 => refuse
  | n + 1 => do
    if ← accept .blockEntry then
      let item ← readUnless .block [.blockEntry, .key, .value, .blockEnd] n
      return item :: (← readPlainEntries n)
    else return []

/-- The entries of a block mapping. -/
def readBlockEntries : Nat → Reader (List (Node × Node))
  | 0 => refuse
  | n + 1 => do
    if ← accept .key then
      let key ← readUnless .entry [.key, .value, .blockEnd] n
      let value ←
        if ← accept .value then readUnless .entry [.key, .value, .blockEnd] n else pure empty
      return (key, value) :: (← readBlockEntries n)
    else
      expect .blockEnd
      return []

/-- The value behind a colon in brackets, if there is one. -/
def readFlowValue (closing : Token) : Nat → Reader Node
  | 0 => refuse
  | n + 1 => do
    if ← accept .value then readUnless .flow [.flowEntry, closing] n else return empty

/-- The items of a sequence in brackets; an item may be a mapping of one entry. -/
def readFlowItems (first : Bool) : Nat → Reader (List Node)
  | 0 => refuse
  | n + 1 => do
    if ← accept .flowSequenceEnd then return []
    if !first then expect .flowEntry
    if ← accept .key then
      let key ← readUnless .flow [.value, .flowEntry, .flowSequenceEnd] n
      let value ← readFlowValue .flowSequenceEnd n
      return .mapping .map [(key, value)] :: (← readFlowItems false n)
    else if ← accept .flowSequenceEnd then return []
    else
      let item ← read .flow n
      return item :: (← readFlowItems false n)

/-- The entries of a mapping in brackets; a value may be left out. -/
def readFlowEntries (first : Bool) : Nat → Reader (List (Node × Node))
  | 0 => refuse
  | n + 1 => do
    if ← accept .flowMappingEnd then return []
    if !first then expect .flowEntry
    if ← accept .key then
      let key ← readUnless .flow [.value, .flowEntry, .flowMappingEnd] n
      let value ← readFlowValue .flowMappingEnd n
      return (key, value) :: (← readFlowEntries false n)
    else if ← accept .flowMappingEnd then return []
    else
      let key ← read .flow n
      return (key, empty) :: (← readFlowEntries false n)

end

/-! ## Documents -/

/-- The directives before a document.  A handle is given once, and the version is one. -/
def readDirectives (versioned : Bool) (handles : List (List Char × List Char)) :
    Nat → Reader Unit
  | 0 => refuse
  | n + 1 => do
    match ← peek with
    | some (.directive (.version major)) =>
        skip
        if versioned || major ≠ 1 then throw .malformed
        readDirectives true handles n
    | some (.directive (.handle name text)) =>
        skip
        if (handles.lookup name).isSome then throw .malformed
        readDirectives versioned ((name, text) :: handles) n
    | some (.directive .other) =>
        skip
        readDirectives versioned handles n
    | _ => modify fun r => { r with handles := handles ++ commonHandles }

/-- Pass the marks of the end of a document. -/
def skipEnds : Nat → Reader Unit
  | 0 => refuse
  | n + 1 => do
    if ← accept .documentEnd then skipEnds n

def isDirective : Option Token → Bool
  | some (.directive _) => true
  | _ => false

/-- A document that begins with a mark. -/
def readMarked (n : Nat) : Reader Node := do
  readDirectives false [] n
  expect .documentStart
  if isDirective (← peek) then return empty
  else readUnless .block [.documentStart, .documentEnd, .streamEnd] n

/-- The only document of a text, or nothing. -/
def readSingle (n : Nat) : Reader (Option Node) := do
  let marked := isDirective (← peek) || (← sees [.documentStart])
  if ← sees [.streamEnd] then return none
  else
    let node ← if marked then readMarked n else read .block n
    skipEnds n
    expect .streamEnd
    return some node

/-- The node of tokens. -/
def ofTokens (tokens : List Token) : Except Trouble (Option Node) :=
  (readSingle (4 * tokens.length + 4)).run' ⟨tokens, [], commonHandles⟩

end Node

end Scaffold.Yaml
