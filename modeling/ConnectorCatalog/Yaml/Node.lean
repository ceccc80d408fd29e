import ConnectorCatalog.Yaml.Layout

/-!
# YAML nodes

`Node.ofText?` reads the node that a text with a single document stands for. An alias is kept as a
node of its own, with the number of the anchor that it names: a node may be part of itself.

* Numbers are given to anchors in the order in which new names appear. A name that is used again
  gets the number of the names so far, and `Node.anchored?` finds the last node with a number.
-/

namespace ConnectorCatalog.Yaml

/-- What stands in front of a node. -/
structure Mark where
  anchor : Option Nat
  tag : Option Bytes
deriving DecidableEq, Repr, Inhabited

/-- A node of a document. -/
inductive Node where
  | scalar (mark : Mark) (isPlain : Bool) (text : String)
  | sequence (mark : Mark) (items : List Node)
  | mapping (mark : Mark) (entries : List (Node × Node))
  | reference (anchor : Nat)
deriving Repr, Inhabited

namespace Node

/-- A text that is not written. -/
def empty : Node := scalar ⟨none, none⟩ true ""

/-! ### Reading tokens -/

/-- Tokens that are still to be read, and what has been declared in front of them. -/
structure Reading where
  tokens : List Token
  /-- The names of anchors with their numbers. -/
  anchors : List (String × Nat)
  /-- The handles of tags with the texts that they stand for. -/
  handles : List (String × Bytes)

/-- A step of reading. -/
abbrev Read := StateT Reading Option

/-- The next token. -/
def next? : Read (Option Token) := do return (← get).tokens.head?

/-- Whether the next token is in a list; the end of the text is not. -/
def nextIn (tokens : List Token) : Read Bool := do return (← next?).any tokens.contains

/-- The state behind the next token. -/
def skip : Read Unit := modify fun s => { s with tokens := s.tokens.drop 1 }

/-- The state behind a token that must come next. -/
def expect (token : Token) : Read Unit := do
  if (← next?) = some token then skip else failure

/-- The number of an anchor that is declared here. -/
def declare (name : String) : Read Nat := do
  let s ← get
  let number := s.anchors.length
  let anchors := if s.anchors.any (·.1 == name)
    then s.anchors.map fun a => if a.1 == name then (name, number) else a
    else s.anchors ++ [(name, number)]
  set { s with anchors }
  return number

/-- The text of a tag, with what its handle stands for in front. -/
def fullTag (handle : String) (suffix : Bytes) : Read Bytes := do
  if handle = "" then return suffix
  match (← get).handles.lookup handle with
  | some start => return start ++ suffix
  | none => failure

/-- The anchor that comes next, if there is one. -/
def readAnchor : Read (Option Nat) := do
  match ← next? with
  | some (.anchor name) => skip; return some (← declare name)
  | _ => return none

/-- The tag that comes next, if there is one. -/
def readTag : Read (Option (String × Bytes)) := do
  match ← next? with
  | some (.tag handle suffix) => skip; return some (handle, suffix)
  | _ => return none

/-- What stands in front of a node, in either order. -/
def readMark : Read Mark := do
  let first ← readAnchor
  let tag ← readTag
  let anchor ← match first, tag with
    | none, some _ => readAnchor
    | anchor, _ => pure anchor
  match tag with
  | none => return ⟨anchor, none⟩
  | some (handle, suffix) => return ⟨anchor, some (← fullTag handle suffix)⟩

/-- The tag that says nothing about a text. -/
def bareTag : Bytes := Text.utf8 "!"

/-- A text with what stands in front of it. -/
def ofScalar (mark : Mark) (isPlain : Bool) (text : String) : Node :=
  scalar (if mark.tag = some bareTag then { mark with tag := none } else mark) isPlain text

/-- Tokens in front of which the key or the value of a block mapping is left out. -/
def afterBlockKey : List Token := [.key, .value, .blockEnd]

/-- Tokens in front of which the item of an indented sequence is left out. -/
def afterBlockItem : List Token := [.blockEntry, .blockEnd]

/-- Tokens in front of which the item of a sequence without indentation is left out. -/
def afterBareItem : List Token := [.blockEntry, .key, .value, .blockEnd]

/-- Tokens in front of which the value of a pair in a flow sequence is left out. -/
def afterPairValue : List Token := [.flowEntry, .flowSequenceEnd]

/-- Tokens in front of which the key of a pair in a flow sequence is left out. -/
def afterPairKey : List Token := .value :: afterPairValue

/-- Tokens in front of which the value in a flow mapping is left out. -/
def afterFlowValue : List Token := [.flowEntry, .flowMappingEnd]

/-- Tokens in front of which the key in a flow mapping is left out. -/
def afterFlowKey : List Token := .value :: afterFlowValue

/-- The state at the next entry of a flow collection behind one before it. -/
def nextFlowEntry (isFirst : Bool) (closing : Token) : Read Unit := do
  if !isFirst && !(← nextIn [closing]) then expect .flowEntry

mutual

/-- A node. `inBlocks` says whether it may be written in blocks, `bareItems` whether it may be a
sequence without indentation. The number bounds the steps. -/
def readNode : Nat → (inBlocks bareItems : Bool) → Read Node
  | 0, _, _ => failure
  | n + 1, inBlocks, bareItems => do
    match ← next? with
    | some (.reference name) =>
      skip
      match (← get).anchors.lookup name with
      | some number => return reference number
      | none => failure
    | _ =>
      let mark ← readMark
      match ← next? with
      | some .blockEntry =>
        if bareItems then return sequence mark (← readBareItems n)
        else if mark.anchor.isSome || mark.tag.isSome then return scalar mark true ""
        else failure
      | some (.scalar isPlain text) => skip; return ofScalar mark isPlain text
      | some .flowSequenceStart => skip; return sequence mark (← readFlowItems n true)
      | some .flowMappingStart => skip; return mapping mark (← readFlowEntries n true)
      | token =>
        if inBlocks && token == some .blockSequenceStart then
          skip
          return sequence mark (← readBlockItems n)
        else if inBlocks && token == some .blockMappingStart then
          skip
          return mapping mark (← readBlockEntries n)
        else if mark.anchor.isSome || mark.tag.isSome then return scalar mark true ""
        else failure

/-- A node, or an empty text in front of certain tokens. -/
def readUnless : Nat → List Token → (inBlocks bareItems : Bool) → Read Node
  | 0, _, _, _ => failure
  | n + 1, stops, inBlocks, bareItems => do
    if ← nextIn stops then return empty else readNode n inBlocks bareItems

/-- The items of a block sequence. -/
def readBlockItems : Nat → Read (List Node)
  | 0 => failure
  | n + 1 => do
    if ← nextIn [.blockEntry] then
      skip
      let item ← readUnless n afterBlockItem true false
      return item :: (← readBlockItems n)
    else
      expect .blockEnd
      return []

/-- The items of a block sequence that is not indented. -/
def readBareItems : Nat → Read (List Node)
  | 0 => failure
  | n + 1 => do
    if ← nextIn [.blockEntry] then
      skip
      let item ← readUnless n afterBareItem true false
      return item :: (← readBareItems n)
    else return []

/-- The entries of a block mapping. -/
def readBlockEntries : Nat → Read (List (Node × Node))
  | 0 => failure
  | n + 1 => do
    if ← nextIn [.key] then
      skip
      let key ← readUnless n afterBlockKey true true
      let value ← readBlockValue n
      return (key, value) :: (← readBlockEntries n)
    else
      expect .blockEnd
      return []

/-- The value of an entry in a block mapping. -/
def readBlockValue : Nat → Read Node
  | 0 => failure
  | n + 1 => do
    if ← nextIn [.value] then
      skip
      readUnless n afterBlockKey true true
    else return empty

/-- The items of a flow sequence. -/
def readFlowItems : Nat → (isFirst : Bool) → Read (List Node)
  | 0, _ => failure
  | n + 1, isFirst => do
    nextFlowEntry isFirst .flowSequenceEnd
    if ← nextIn [.flowSequenceEnd] then skip; return []
    else if ← nextIn [.key] then
      skip
      let pair ← readPair n
      return mapping ⟨none, none⟩ [pair] :: (← readFlowItems n false)
    else
      let item ← readNode n false false
      return item :: (← readFlowItems n false)

/-- A pair in a flow sequence behind the mark of its key. The token behind a key that is left out
goes with it. -/
def readPair : Nat → Read (Node × Node)
  | 0 => failure
  | n + 1 => do
    let key ← if ← nextIn afterPairKey then do skip; pure empty else readNode n false false
    return (key, ← readFlowValue n afterPairValue)

/-- The value of a pair or of an entry in a flow mapping. -/
def readFlowValue : Nat → List Token → Read Node
  | 0, _ => failure
  | n + 1, stops => do
    if ← nextIn [.value] then
      skip
      readUnless n stops false false
    else return empty

/-- The entries of a flow mapping. -/
def readFlowEntries : Nat → (isFirst : Bool) → Read (List (Node × Node))
  | 0, _ => failure
  | n + 1, isFirst => do
    nextFlowEntry isFirst .flowMappingEnd
    if ← nextIn [.flowMappingEnd] then skip; return []
    else if ← nextIn [.key] then
      skip
      let key ← readUnless n afterFlowKey false false
      let value ← readFlowValue n afterFlowValue
      return (key, value) :: (← readFlowEntries n false)
    else
      let key ← readNode n false false
      return (key, empty) :: (← readFlowEntries n false)

end

/-! ### Documents -/

/-- Whether a version of YAML is understood. -/
def isKnownVersion (major minor : Nat) : Bool := major == 1 && (minor == 1 || minor == 2)

/-- The handles that every document knows. -/
def standardHandles : List (String × Bytes) :=
  [("!", bareTag), ("!!", Text.utf8 "tag:yaml.org,2002:")]

/-- Declares the handles of the directives that come next, and says whether there are any. The
number bounds the directives. -/
def readDirectives : Nat → (versioned : Bool) → Read Bool
  | 0, _ => return false
  | n + 1, versioned => do
    match ← next? with
    | some (.versionDirective major minor) =>
      if versioned || !isKnownVersion major minor then failure
      skip
      let _ ← readDirectives n true
      return true
    | some (.tagDirective handle start) =>
      if (← get).handles.any (·.1 == handle) then failure
      skip
      modify fun s => { s with handles := s.handles ++ [(handle, start)] }
      let _ ← readDirectives n versioned
      return true
    | _ => return false

/-- The node of a document that comes next. -/
def readDocument (steps : Nat) : Read Node := do
  let directed ← readDirectives steps false
  modify fun s => { s with handles := s.handles ++ standardHandles }
  if directed || (← nextIn [.documentStart]) then
    expect .documentStart
    match ← next? with
    | none => return empty
    | some (.versionDirective _ _) => return empty
    | some (.tagDirective _ _) => return empty
    | some .documentStart => return empty
    | some .documentEnd => return empty
    | _ => readNode steps true false
  else readNode steps true false

/-- The node of the single document of a list of tokens; an empty text if there is none. -/
def ofTokens? (tokens : List Token) : Option Node :=
  if tokens = [] then some empty
  else
    match (readDocument (8 * tokens.length + 8)).run ⟨tokens, [], []⟩ with
    | some (node, s) => if s.tokens.all (· = .documentEnd) then some node else none
    | none => none

/-- The node of the single document of a text; an empty text if there is none. -/
def ofText? (text : String) : Option Node := Token.ofText? text >>= ofTokens?

/-! ### Anchors -/

mutual

/-- The nodes in a node with their anchors, in the order in which they begin. -/
def anchors : Node → List (Nat × Node)
  | scalar mark isPlain text => mark.anchor.toList.map (·, scalar mark isPlain text)
  | sequence mark items => mark.anchor.toList.map (·, sequence mark items) ++ anchorsOfItems items
  | mapping mark entries =>
    mark.anchor.toList.map (·, mapping mark entries) ++ anchorsOfEntries entries
  | reference _ => []

/-- The nodes with anchors in the items of a sequence. -/
def anchorsOfItems : List Node → List (Nat × Node)
  | [] => []
  | item :: rest => anchors item ++ anchorsOfItems rest

/-- The nodes with anchors in the entries of a mapping. -/
def anchorsOfEntries : List (Node × Node) → List (Nat × Node)
  | [] => []
  | (key, value) :: rest => anchors key ++ anchors value ++ anchorsOfEntries rest

end

mutual

/-- The number of parts of a node: texts, aliases and both ends of collections. -/
def size : Node → Nat
  | sequence _ items => 2 + sizeOfItems items
  | mapping _ entries => 2 + sizeOfEntries entries
  | scalar _ _ _ => 1
  | reference _ => 1

/-- The number of parts of the items of a sequence. -/
def sizeOfItems : List Node → Nat
  | [] => 0
  | item :: rest => size item + sizeOfItems rest

/-- The number of parts of the entries of a mapping. -/
def sizeOfEntries : List (Node × Node) → Nat
  | [] => 0
  | (key, value) :: rest => size key + size value + sizeOfEntries rest

end

end Node

end ConnectorCatalog.Yaml
