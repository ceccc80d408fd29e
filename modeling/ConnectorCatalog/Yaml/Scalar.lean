import ConnectorCatalog.Text.Hex
import ConnectorCatalog.Yaml.Spot

/-!
# YAML scalars

Texts of a YAML document in their five forms: plain, in single or double quotes, and as literal or
folded blocks.

* In plain and quoted texts a single line break is read as a blank, and of several the first is
  dropped; blanks around line breaks do not count (`Gap`).
* In blocks the indentation does not count. Folded blocks join lines likewise, unless a line begins
  with a blank; the breaks at the end are kept or dropped as the head of the block says.
-/

namespace ConnectorCatalog.Yaml

/-! ### Gaps between words -/

/-- What has been passed over since the last word. Texts are newest first. -/
inductive Gap where
  | none
  | blanks (text : List Char)
  /-- Line breaks; the first is missing if it was escaped. -/
  | breaks (first : Option Char) (others : List Char)
deriving DecidableEq, Repr

namespace Gap

/-- The gap with one more blank. Blanks around line breaks do not count. -/
def addBlank (c : Char) : Gap → Gap
  | none => blanks [c]
  | blanks text => blanks (c :: text)
  | gap => gap

/-- The gap with one more line break. -/
def addBreak (c : Char) : Gap → Gap
  | breaks first others => breaks first (c :: others)
  | _ => breaks (some c) []

/-- The text that a gap stands for, newest first. -/
def text : Gap → List Char
  | none => []
  | blanks text => text
  | breaks (some '\n') [] => [' ']
  | breaks (some '\n') others => others
  | breaks first others => others ++ first.toList

/-- Whether a gap holds line breaks. -/
def isBroken : Gap → Bool
  | breaks _ _ => true
  | _ => false

end Gap

/-! ### Plain texts -/

/-- Whether a character separates entries of flow collections. -/
def isFlowMark (c : Char) : Bool := c == ',' || c == '[' || c == ']' || c == '\x7b' || c == '\x7d'

/-- A plain text from here on: its characters, newest first, whether a line break follows it, and
what is left. It ends before a colon that makes it a key, before a comment, a document marker and,
within a flow collection, before its marks; outside of one also where the indentation is less. -/
def plainFrom (inFlow : Bool) (indent : Int) (text : List Char) (gap : Gap) :
    List Spot → Option (List Char × Bool × List Spot)
  | [] => some (text, gap.isBroken, [])
  | spot :: rest =>
    let c := spot.char
    if isBlank c then
      if c = '\t' ∧ gap.isBroken ∧ Int.ofNat spot.column < indent then none
      else plainFrom inFlow indent text (gap.addBlank c) rest
    else if isBreak c then plainFrom inFlow indent text (gap.addBreak c) rest
    else
      let next := peek 0 rest
      let stop := some (text, gap.isBroken, spot :: rest)
      if c = '\x00' then stop
      else if gap ≠ .none ∧ ((!inFlow ∧ Int.ofNat spot.column < indent) ∨ c = '#' ∨
          isDocumentMarker (spot :: rest)) then stop
      else if inFlow ∧ c = ':' ∧ (isFlowMark next ∨ next = '?') then none
      else if (c = ':' ∧ endsWord next) ∨ (inFlow ∧ isFlowMark c) then stop
      else plainFrom inFlow indent (c :: (gap.text ++ text)) .none rest

/-! ### Quoted texts -/

/-- A text in single quotes behind the first of them, and what is left. Two quotes stand for
one. -/
def singleQuotedFrom (text : List Char) (gap : Gap) : List Spot → Option (List Char × List Spot)
  | [] => none
  | spot :: rest =>
    let c := spot.char
    if isBlank c then singleQuotedFrom text (gap.addBlank c) rest
    else if isBreak c then singleQuotedFrom text (gap.addBreak c) rest
    else if c = '\x00' ∨ isDocumentMarker (spot :: rest) then none
    else
      let text := gap.text ++ text
      if c = '\'' then
        match rest with
        | next :: rest' =>
          if next.char = '\'' then singleQuotedFrom ('\'' :: text) .none rest'
          else some (text, next :: rest')
        | [] => some (text, [])
      else singleQuotedFrom (c :: text) .none rest

/-- The character that stands behind a backslash for another one. -/
def escape? : Char → Option Char
  | '0' => some '\x00'
  | 'a' => some '\x07'
  | 'b' => some '\x08'
  | 't' => some '\t'
  | '\t' => some '\t'
  | 'n' => some '\n'
  | 'v' => some '\x0b'
  | 'f' => some '\x0c'
  | 'r' => some '\r'
  | 'e' => some '\x1b'
  | ' ' => some ' '
  | '"' => some '"'
  | '/' => some '/'
  | '\\' => some '\\'
  | 'N' => some '\u0085'
  | '_' => some '\u00a0'
  | 'L' => some '\u2028'
  | 'P' => some '\u2029'
  | _ => none

/-- The number of hexadecimal digits behind the letter of an escape. -/
def escapeWidth? : Char → Option Nat
  | 'x' => some 2
  | 'u' => some 4
  | 'U' => some 8
  | _ => none

/-- The number written by hexadecimal digits. -/
def hexNumber? (digits : List Char) : Option Nat :=
  digits.foldlM (fun n c => (Text.digit? c).map (16 * n + ·)) 0

/-- The character with a number. -/
def charOf? (n : Nat) : Option Char := if n.isValidChar then some (Char.ofNat n) else none

/-- The character that an escape behind a backslash stands for, and the number of its letters. -/
def escapeHere? (rest : List Spot) : Option (Char × Nat) :=
  let letter := peek 0 rest
  match escapeWidth? letter with
  | none => (escape? letter).map (·, 1)
  | some width =>
    let digits := ((rest.drop 1).take width).map (·.char)
    if digits.length = width then (hexNumber? digits >>= charOf?).map (·, width + 1) else none

/-- A text in double quotes behind the first of them, and what is left. The number counts the
letters of an escape that are still to be passed over. -/
def doubleQuotedFrom (letters : Nat) (text : List Char) (gap : Gap) :
    List Spot → Option (List Char × List Spot)
  | [] => none
  | spot :: rest =>
    let c := spot.char
    if letters ≠ 0 then doubleQuotedFrom (letters - 1) text gap rest
    else if isBlank c then doubleQuotedFrom 0 text (gap.addBlank c) rest
    else if isBreak c then doubleQuotedFrom 0 text (gap.addBreak c) rest
    else if c = '\x00' ∨ isDocumentMarker (spot :: rest) then none
    else
      let text := gap.text ++ text
      if c = '"' then some (text, rest)
      else if c = '\\' then
        if isBreak (peek 0 rest) then doubleQuotedFrom 1 text (.breaks none []) rest
        else match escapeHere? rest with
          | none => none
          | some (escaped, letters) => doubleQuotedFrom letters (escaped :: text) .none rest
      else doubleQuotedFrom 0 (c :: text) .none rest

/-! ### Blocks -/

/-- What becomes of the line breaks at the end of a block. -/
inductive Chomping where
  /-- None stays. -/
  | strip
  /-- The first stays. -/
  | clip
  /-- All stay. -/
  | keep
deriving DecidableEq, Repr

/-- How a mark at the head of a block treats the breaks at its end. -/
def Chomping.ofMark? : Char → Option Chomping
  | '+' => some keep
  | '-' => some strip
  | _ => none

/-- The depth that a digit at the head of a block gives to its lines. -/
def depthMark? (c : Char) : Option Nat := if c.isDigit then some (c.toNat - 48) else none

/-- The head of a block behind its first mark: the chomping, the depth if it is given, and what is
left. -/
def blockHead? (rest : List Spot) : Option (Chomping × Option Nat × List Spot) :=
  let first := peek 0 rest
  let second := peek 1 rest
  let (chomping, depth, rest) := match Chomping.ofMark? first, depthMark? first with
    | some chomping, _ =>
      match depthMark? second with
      | some depth => (chomping, some depth, rest.drop 2)
      | none => (chomping, none, rest.drop 1)
    | none, some depth =>
      match Chomping.ofMark? second with
      | some chomping => (chomping, some depth, rest.drop 2)
      | none => (.clip, some depth, rest.drop 1)
    | none, none => (.clip, none, rest)
  if depth = some 0 then none else (skipLineEnd? rest).map (chomping, depth, ·)

/-- Empty lines and the indentation of the line behind them: the breaks, newest first, the greatest
column that has been reached, and what is left. Without an indentation all blanks count to it; a
tab must not stand in it. -/
def blankLines (indent : Option Nat) (widest : Nat) (breaks : List Char) :
    List Spot → Option (List Char × Nat × List Spot)
  | [] => some (breaks, widest, [])
  | spot :: rest =>
    let within := indent.all (spot.column < ·)
    if within && spot.char == ' ' then blankLines indent widest breaks rest
    else if within && spot.char == '\t' then none
    else if isBreak spot.char then
      blankLines indent (max widest spot.column) (spot.char :: breaks) rest
    else some (breaks, max widest spot.column, spot :: rest)

/-- A block being read, texts newest first. -/
structure BlockText where
  text : List Char
  /-- The break at the end of the last line. -/
  lineBreak : List Char
  /-- The breaks of the empty lines behind it. -/
  emptyLines : List Char
  /-- Whether the last line begins with a blank. -/
  isIndented : Bool
deriving DecidableEq, Repr

/-- The text up to a line that comes next. -/
def BlockText.joined (isFolded startsBlank : Bool) (block : BlockText) : List Char :=
  let line :=
    if isFolded ∧ block.lineBreak = ['\n'] ∧ !block.isIndented ∧ !startsBlank then
      if block.emptyLines = [] then [' '] else []
    else block.lineBreak
  block.emptyLines ++ line ++ block.text

/-- The text of a block at its end. -/
def BlockText.chomped (chomping : Chomping) (block : BlockText) : List Char :=
  match chomping with
  | .strip => block.text
  | .clip => block.lineBreak ++ block.text
  | .keep => block.emptyLines ++ block.lineBreak ++ block.text

/-- The lines of a block that are indented by `indent`; the first argument bounds their number. -/
def blockLines (isFolded : Bool) (indent : Nat) :
    Nat → BlockText → List Spot → Option (BlockText × List Spot)
  | 0, block, rest => some (block, rest)
  | n + 1, block, rest =>
    match rest with
    | [] => some (block, [])
    | spot :: _ =>
      if spot.column ≠ indent ∨ spot.char = '\x00' then some (block, rest)
      else
        let startsBlank := isBlank spot.char
        let text := block.joined isFolded startsBlank
        let line := (rest.takeWhile (!endsLine ·.char)).map (·.char)
        let behind := rest.dropWhile (!endsLine ·.char)
        let lineBreak := if isBreak (peek 0 behind) then [peek 0 behind] else []
        match blankLines (some indent) 0 [] (behind.drop lineBreak.length) with
        | none => none
        | some (emptyLines, _, rest) =>
          blockLines isFolded indent n
            ⟨line.reverse ++ text, lineBreak, emptyLines, startsBlank⟩ rest

/-- The text of a block behind its first mark, for a parent at the indentation `parent`, newest
first, and what is left. -/
def blockFrom (isFolded : Bool) (parent : Int) (rest : List Spot) :
    Option (List Char × List Spot) := do
  let (chomping, depth, rest) ← blockHead? rest
  let given := depth.map fun depth => (max parent 0).toNat + depth
  let (breaks, widest, rest) ← blankLines given 0 [] rest
  let indent := given.getD (max widest (max (parent + 1) 1).toNat)
  let (block, rest) ← blockLines isFolded indent rest.length ⟨[], [], breaks, false⟩ rest
  return (block.chomped chomping, rest)

end ConnectorCatalog.Yaml
