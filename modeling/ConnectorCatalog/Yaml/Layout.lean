import ConnectorCatalog.Yaml.Property
import ConnectorCatalog.Yaml.Scalar

/-!
# The layout of YAML

`Token.ofText?` reads the tokens of a text. A collection written in blocks has no mark at its start
and its end: it starts where a line is indented more than the last collection, and ends where one is
indented less.

A mapping also starts in front of its first key, and a key is known as such only at the colon
behind it. So the place of each token that may begin a key is kept (`Candidate`): it must be on the
line of its colon and not too far away.
-/

namespace ConnectorCatalog.Yaml

/-- A token that may turn out to begin a key. -/
structure Candidate where
  /-- The number of tokens in front of it. -/
  place : Nat
  /-- Whether only a key may stand there. -/
  isRequired : Bool
  spot : Spot
deriving DecidableEq, Repr

/-- How much of a text has been taken apart. -/
structure Layout where
  rest : List Spot
  /-- The tokens so far, newest first. -/
  tokens : List Token
  /-- The candidate of the blocks. -/
  blockCandidate : Option Candidate
  /-- The candidates of the flow collections that are open, innermost first. -/
  flowCandidates : List (Option Candidate)
  /-- Whether a key may begin at the next token. -/
  allowsKey : Bool
  /-- The indentation of the innermost block, -1 outside of all. -/
  indent : Int
  /-- The indentations of the blocks around it, innermost first. -/
  outer : List Int
deriving Repr

namespace Layout

/-- Nothing is taken apart yet. -/
def start (rest : List Spot) : Layout := ⟨rest, [], none, [], true, -1, []⟩

/-- Whether a flow collection is open. -/
def inFlow (l : Layout) : Bool := !l.flowCandidates.isEmpty

/-- The place that is reached. -/
def here (l : Layout) : Spot := l.rest.head?.getD default

/-- The character `k` places ahead. -/
def peek (l : Layout) (k : Nat) : Char := Yaml.peek k l.rest

/-- One more token, which takes `width` characters. -/
def push (l : Layout) (token : Token) (width : Nat) : Layout :=
  { l with tokens := token :: l.tokens, rest := l.rest.drop width }

/-- One more token, and what is left behind it. -/
def pushTo (l : Layout) (token : Token) (rest : List Spot) : Layout :=
  { l with tokens := token :: l.tokens, rest }

/-- A token set in behind the first `place` tokens. -/
def insertAt (l : Layout) (place : Nat) (token : Token) : Layout :=
  { l with tokens := l.tokens.insertIdx (l.tokens.length - place) token }

/-! ### Blanks and comments -/

/-- What is left behind the blanks of a line and a comment, and whether the line ended there. Tabs
count as blanks only if `allowsTabs` says so. -/
def gapBehind (allowsTabs : Bool) (rest : List Spot) : List Spot × Bool :=
  let rest := if rest.head?.any fun s => s.column = 0 ∧ s.char = byteOrderMark then rest.drop 1
    else rest
  let rest := skipComment
    (rest.dropWhile fun s => s.char == ' ' || (allowsTabs && s.char == '\t'))
  if isBreak (Yaml.peek 0 rest) then (rest.drop 1, true) else (rest, false)

/-- The layout at its next token. Tabs count as blanks only where no key may begin, and in blocks a
key may begin on each new line. The number bounds the lines. -/
def skipGap : Nat → Layout → Layout
  | 0, l => l
  | n + 1, l =>
    let (rest, ended) := gapBehind (l.inFlow || !l.allowsKey) l.rest
    if ended then skipGap n { l with rest, allowsKey := l.allowsKey || !l.inFlow }
    else { l with rest }

/-! ### Candidates -/

/-- The greatest distance of a colon from the start of its key. -/
def maxKeyLength : Nat := 1024

/-- A candidate, unless its colon can no longer come; it must not be a required one then. -/
def refreshed? (here : Spot) : Option Candidate → Option (Option Candidate)
  | none => some none
  | some c =>
    if c.spot.line < here.line ∨ c.spot.index + maxKeyLength < here.index then
      if c.isRequired then none else some none
    else some (some c)

/-- The layout with the candidates that can still become keys. -/
def refresh? (l : Layout) : Option Layout := do
  let blockCandidate ← refreshed? l.here l.blockCandidate
  let flowCandidates ← l.flowCandidates.mapM (refreshed? l.here)
  return { l with blockCandidate, flowCandidates }

/-- The candidate of the innermost collection. -/
def candidate (l : Layout) : Option Candidate :=
  match l.flowCandidates with
  | [] => l.blockCandidate
  | c :: _ => c

/-- The layout with another candidate of the innermost collection. -/
def setCandidate (l : Layout) (c : Option Candidate) : Layout :=
  match l.flowCandidates with
  | [] => { l with blockCandidate := c }
  | _ :: outer => { l with flowCandidates := c :: outer }

/-- The layout without candidate in the innermost collection; a required one must not be lost. -/
def dropCandidate? (l : Layout) : Option Layout :=
  if l.candidate.any (·.isRequired) then none else some (l.setCandidate none)

/-- The layout with the next token as a candidate, if a key may begin there. -/
def markCandidate? (l : Layout) : Option Layout :=
  if !l.allowsKey then some l
  else do
    let isRequired := !l.inFlow && l.indent == Int.ofNat l.here.column
    let l ← l.dropCandidate?
    return l.setCandidate (some ⟨l.tokens.length, isRequired, l.here⟩)

/-! ### Blocks -/

/-- The ends of the blocks, from inside out, that are indented more than `column`. -/
def closeBlocks (column : Int) : Int → List Int → List Token → Int × List Int × List Token
  | indent, [], tokens => (indent, [], tokens)
  | indent, next :: outer, tokens =>
    if column < indent then closeBlocks column next outer (.blockEnd :: tokens)
    else (indent, next :: outer, tokens)

/-- The layout without the blocks that are indented more than `column`. -/
def unindent (l : Layout) (column : Int) : Layout :=
  if l.inFlow then l
  else
    let (indent, outer, tokens) := closeBlocks column l.indent l.outer l.tokens
    { l with indent, outer, tokens }

/-- The layout with a block that starts behind the first `place` tokens, if `column` is indented
more than the innermost one. -/
def indentAt (l : Layout) (column : Nat) (place : Nat) (token : Token) : Layout :=
  if l.inFlow ∨ Int.ofNat column ≤ l.indent then l
  else
    let l := l.insertAt place token
    { l with indent := Int.ofNat column, outer := l.indent :: l.outer }

/-- The layout with a block that starts here. A block must not start where a key must not. -/
def startBlock? (l : Layout) (token : Token) : Option Layout :=
  if l.inFlow then some l
  else if !l.allowsKey then none
  else some (l.indentAt l.here.column l.tokens.length token)

/-! ### Single tokens -/

/-- A token at the start of a line that ends all blocks. -/
def endBlocks? (l : Layout) : Option Layout := do
  let l ← (l.unindent (-1)).dropCandidate?
  return { l with allowsKey := false }

/-- A flow collection starts. -/
def openFlow? (l : Layout) (token : Token) : Option Layout := do
  let l ← l.markCandidate?
  return { l with flowCandidates := none :: l.flowCandidates, allowsKey := true }.push token 1

/-- A flow collection ends. -/
def closeFlow? (l : Layout) (token : Token) : Option Layout := do
  let l ← l.dropCandidate?
  return { l with flowCandidates := l.flowCandidates.drop 1, allowsKey := false }.push token 1

/-- A comma. -/
def flowEntry? (l : Layout) : Option Layout := do
  let l ← l.dropCandidate?
  return { l with allowsKey := true }.push .flowEntry 1

/-- A dash. -/
def blockEntry? (l : Layout) : Option Layout := do
  let l ← (← l.startBlock? .blockSequenceStart).dropCandidate?
  return { l with allowsKey := true }.push .blockEntry 1

/-- A question mark. -/
def key? (l : Layout) : Option Layout := do
  let l ← (← l.startBlock? .blockMappingStart).dropCandidate?
  return { l with allowsKey := !l.inFlow }.push .key 1

/-- A colon. It makes the candidate a key, if there is one. -/
def value? (l : Layout) : Option Layout :=
  match l.candidate with
  | some c =>
    let l := (l.insertAt c.place .key).indentAt c.spot.column c.place .blockMappingStart
    some ({ l.setCandidate none with allowsKey := false }.push .value 1)
  | none => do
    let l ← l.startBlock? .blockMappingStart
    return { l with allowsKey := !l.inFlow }.push .value 1

/-- A token that may begin a key, as `read` finds it behind `width` characters of its mark. -/
def item? (l : Layout) (width : Nat) (read : List Spot → Option (Token × List Spot)) :
    Option Layout := do
  let l ← l.markCandidate?
  let (token, rest) ← read (l.rest.drop width)
  return { l with allowsKey := false }.pushTo token rest

/-- A text whose characters have been read newest first. -/
def scalarOf (isPlain : Bool) (text : List Char) : Token :=
  .scalar isPlain (String.ofList text.reverse)

/-- A plain text. A key may begin behind it if it ends with its line. -/
def plain? (l : Layout) : Option Layout := do
  let l ← l.markCandidate?
  let (text, ended, rest) ← plainFrom l.inFlow (l.indent + 1) [] .none l.rest
  return { l with allowsKey := ended }.pushTo (scalarOf true text) rest

/-- A text in blocks. -/
def block? (l : Layout) (isFolded : Bool) : Option Layout := do
  let l ← l.dropCandidate?
  let (text, rest) ← blockFrom isFolded l.indent (l.rest.drop 1)
  return { l with allowsKey := true }.pushTo (scalarOf false text) rest

/-- Whether a plain text may begin here. -/
def startsPlain (l : Layout) : Bool :=
  let c := l.peek 0
  let marks := ['-', '?', ':', ',', '[', ']', '\x7b', '\x7d', '#', '&', '*', '!', '|', '>', '\'',
    '"', '%', '@', '\x60']
  !(endsWord c || marks.contains c) || (c == '-' && !isBlank (l.peek 1)) ||
    (!l.inFlow && (c == '?' || c == ':') && !endsWord (l.peek 1))

/-- The layout behind its next token, which begins here. -/
def token? (l : Layout) : Option Layout :=
  let c := l.peek 0
  let isAlone := endsWord (l.peek 1)
  if l.here.column = 0 ∧ c = '%' then do
    let l ← l.endBlocks?
    let (token, rest) ← directiveFrom? (l.rest.drop 1)
    return l.pushTo token rest
  else if isMarker '-' l.rest then return (← l.endBlocks?).push .documentStart 3
  else if isMarker '.' l.rest then return (← l.endBlocks?).push .documentEnd 3
  else if c = '[' then l.openFlow? .flowSequenceStart
  else if c = '\x7b' then l.openFlow? .flowMappingStart
  else if c = ']' then l.closeFlow? .flowSequenceEnd
  else if c = '\x7d' then l.closeFlow? .flowMappingEnd
  else if c = ',' then l.flowEntry?
  else if c = '-' ∧ isAlone then l.blockEntry?
  else if c = '?' ∧ (l.inFlow ∨ isAlone) then l.key?
  else if c = ':' ∧ (l.inFlow ∨ isAlone) then l.value?
  else if c = '*' then
    l.item? 1 fun rest => (nameFrom? rest).map fun (name, rest) => (.reference name, rest)
  else if c = '&' then
    l.item? 1 fun rest => (nameFrom? rest).map fun (name, rest) => (.anchor name, rest)
  else if c = '!' then l.item? 0 (tagFrom? l.inFlow)
  else if c = '|' ∧ !l.inFlow then l.block? false
  else if c = '>' ∧ !l.inFlow then l.block? true
  else if c = '\'' then l.item? 1 fun rest =>
    (singleQuotedFrom [] .none rest).map fun (text, rest) => (scalarOf false text, rest)
  else if c = '"' then l.item? 1 fun rest =>
    (doubleQuotedFrom 0 [] .none rest).map fun (text, rest) => (scalarOf false text, rest)
  else if l.startsPlain then l.plain?
  else none

/-- All tokens, newest first; the number bounds how many marks are read. -/
def tokens? : Nat → Layout → Option (List Token)
  | 0, _ => none
  | n + 1, l => do
    let l ← (l.skipGap l.rest.length).refresh?
    let l := l.unindent (Int.ofNat l.here.column)
    if l.peek 0 = '\x00' then
      let l := l.unindent (-1)
      if l.candidate.any fun c => c.isRequired then none else some l.tokens
    else
      let l ← l.token?
      tokens? n l

end Layout

/-- The tokens of a text. -/
def Token.ofText? (text : String) : Option (List Token) := do
  let rest ← spots? text
  let tokens ← (Layout.start rest).tokens? (rest.length + 1)
  return tokens.reverse

end ConnectorCatalog.Yaml
