import ConnectorCatalog.Text.Printable
import ConnectorCatalog.Text.Segment

/-!
# Semantic versions

A version `major.minor.patch[-pre][+build]`, its reader and its writer.

* `Version.parse` reads a text from left to right and reports the first fault as a
  `Version.Fault`, whose `message` is the text shown to people.
* `Version.toText` writes a version; it is the inverse of reading.
-/

namespace ConnectorCatalog

/-- A semantic version. Pre-release and build identifiers are kept as written. -/
structure Version where
  major : Nat
  minor : Nat
  patch : Nat
  /-- Empty for a release. -/
  pre : List String
  /-- Empty when there is no build metadata. -/
  build : List String
deriving DecidableEq, Repr, Inhabited

namespace Version

/-- The parts of a version, in the order in which they are read. -/
inductive Part where
  | major | minor | patch | pre | build
deriving DecidableEq, Repr

/-- How a part is named in messages. -/
def Part.label : Part → String
  | .major => "major version number"
  | .minor => "minor version number"
  | .patch => "patch version number"
  | .pre => "pre-release identifier"
  | .build => "build metadata"

/-- Why a text is not a semantic version. -/
inductive Fault where
  | empty
  | unexpectedEnd (part : Part)
  | unexpectedChar (part : Part) (c : Char)
  | unexpectedCharAfter (part : Part) (c : Char)
  | leadingZero (part : Part)
  | overflow (part : Part)
  | emptySegment (part : Part)
deriving DecidableEq, Repr

/-- The text of a fault. -/
def Fault.message : Fault → String
  | empty => "empty string, expected a semver version"
  | unexpectedEnd part => "unexpected end of input while parsing " ++ part.label
  | unexpectedChar part c =>
    "unexpected character " ++ Text.quoteChar c ++ " while parsing " ++ part.label
  | unexpectedCharAfter part c =>
    "unexpected character " ++ Text.quoteChar c ++ " after " ++ part.label
  | leadingZero part => "invalid leading zero in " ++ part.label
  | overflow part => "value of " ++ part.label ++ " exceeds u64::MAX"
  | emptySegment part => "empty identifier segment in " ++ part.label

/-! ### Reading -/

/-- The ASCII digits. -/
def isDigit (c : Char) : Bool := '0' ≤ c && c ≤ '9'

/-- The characters of an identifier: ASCII letters, digits and the hyphen. -/
def isIdentifierChar (c : Char) : Bool :=
  isDigit c || ('A' ≤ c && c ≤ 'Z') || ('a' ≤ c && c ≤ 'z') || c == '-'

/-- The number that decimal digits stand for. -/
def decimal (digits : List Char) : Nat :=
  digits.foldl (fun n c => 10 * n + (c.toNat - 48)) 0

/-- The greatest number a version may hold. -/
def maxNumber : Nat := UInt64.size - 1

/-- A number without superfluous zeros, and the text behind it. -/
def readNumber (part : Part) (cs : List Char) : Except Fault (Nat × List Char) :=
  let digits := cs.takeWhile isDigit
  let rest := cs.dropWhile isDigit
  match digits, rest with
  | [], [] => .error (.unexpectedEnd part)
  | [], c :: _ => .error (.unexpectedChar part c)
  | '0' :: _ :: _, _ => .error (.leadingZero part)
  | digits, rest =>
    if maxNumber < decimal digits then .error (.overflow part) else .ok (decimal digits, rest)

/-- The text behind the dot that closes a number. -/
def readDot (part : Part) : List Char → Except Fault (List Char)
  | '.' :: cs => .ok cs
  | c :: _ => .error (.unexpectedCharAfter part c)
  | [] => .error (.unexpectedEnd part)

/-- Whether an identifier has no letter and no hyphen. -/
def isNumeric (identifier : List Char) : Bool := identifier.all isDigit

/-- The first fault of a list of identifiers. Only a pre-release identifier is a number. -/
def identifierFault? (part : Part) : List (List Char) → Option Fault
  | [] => none
  | [] :: _ => some (.emptySegment part)
  | (c :: cs) :: rest =>
    if part = .pre ∧ isNumeric (c :: cs) = true ∧ cs ≠ [] ∧ c = '0' then some (.leadingZero part)
    else identifierFault? part rest

/-- Identifiers between dots, and the text behind them. -/
def readIdentifiers (part : Part) (cs : List Char) :
    Except Fault (List String × List Char) :=
  let belongs (c : Char) := isIdentifierChar c || c == '.'
  let identifiers := Text.pieces '.' (cs.takeWhile belongs)
  match identifierFault? part identifiers with
  | some fault => .error fault
  | none => .ok (identifiers.map String.ofList, cs.dropWhile belongs)

/-- Identifiers behind their mark, or none if the mark is missing; the part last read follows. -/
def readMarked (mark : Char) (part before : Part) :
    List Char → Except Fault (List String × List Char × Part)
  | c :: cs =>
    if c = mark then do
      let (identifiers, rest) ← readIdentifiers part cs
      return (identifiers, rest, part)
    else .ok ([], c :: cs, before)
  | [] => .ok ([], [], before)

/-- The version that a list of characters stands for. -/
def parseChars (cs : List Char) : Except Fault Version := do
  if cs = [] then throw .empty
  let (major, cs) ← readNumber .major cs
  let cs ← readDot .major cs
  let (minor, cs) ← readNumber .minor cs
  let cs ← readDot .minor cs
  let (patch, cs) ← readNumber .patch cs
  let (pre, cs, part) ← readMarked '-' .pre .patch cs
  let (build, cs, part) ← readMarked '+' .build part cs
  match cs with
  | [] => return { major, minor, patch, pre, build }
  | c :: _ => throw (.unexpectedCharAfter part c)

/-- The version that a text stands for. -/
def parse (s : String) : Except Fault Version := parseChars s.toList

/-! ### Writing -/

/-- Identifiers behind their mark; nothing if there are none. -/
def markedText (mark : String) : List String → String
  | [] => ""
  | identifiers => mark ++ Text.joinTexts "." identifiers

/-- The text of a version. -/
def toText (v : Version) : String :=
  toString v.major ++ "." ++ toString v.minor ++ "." ++ toString v.patch ++
    markedText "-" v.pre ++ markedText "+" v.build

end Version

end ConnectorCatalog
