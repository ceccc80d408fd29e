/-!
# The characters of a YAML text and their places

`spots?` takes a text apart into its characters, each with its index, line and column, and sets a
mark at the end. It refuses texts with characters that YAML does not allow. A byte order mark at
the start is left out, and every line break but the two separators is read as a line feed.
-/

namespace ConnectorCatalog.Yaml

/-- A character and its place. The end of the text has the character NUL, which no text holds. -/
structure Spot where
  char : Char
  index : Nat
  line : Nat
  column : Nat
deriving DecidableEq, Repr, Inhabited

/-! ### Classes of characters -/

/-- Whether a text may hold a character. -/
def isAllowed (c : Char) : Bool :=
  let n := c.toNat
  n == 0x9 || n == 0xA || n == 0xD || (0x20 ≤ n && n ≤ 0x7E) || n == 0x85 ||
    (0xA0 ≤ n && n ≤ 0xD7FF) || (0xE000 ≤ n && n ≤ 0xFFFD) || 0x10000 ≤ n

/-- The line and the paragraph separator, line breaks that stay what they are. -/
def isSeparator (c : Char) : Bool := c == '\u2028' || c == '\u2029'

/-- Whether a character breaks a line. -/
def isBreak (c : Char) : Bool := c == '\n' || c == '\r' || c == '\u0085' || isSeparator c

/-- Whether a character is a blank within a line. -/
def isBlank (c : Char) : Bool := c == ' ' || c == '\t'

/-- Whether a character ends a line: a break or the end of the text. -/
def endsLine (c : Char) : Bool := isBreak c || c == '\x00'

/-- Whether a character ends a word: a blank or what ends a line. -/
def endsWord (c : Char) : Bool := isBlank c || endsLine c

/-- Whether a character may stand in a name. -/
def isNameChar (c : Char) : Bool := c.isAlphanum || c == '_' || c == '-'

/-! ### Places -/

/-- The byte order mark. -/
def byteOrderMark : Char := '\ufeff'

/-- The spots of characters from a place on. -/
def spotsFrom (index line column : Nat) : List Char → List Spot
  | [] => [⟨'\x00', index, line, column⟩]
  | '\r' :: '\n' :: rest => ⟨'\n', index, line, column⟩ :: spotsFrom (index + 2) (line + 1) 0 rest
  | c :: rest =>
    if isBreak c then
      ⟨if isSeparator c then c else '\n', index, line, column⟩ ::
        spotsFrom (index + 1) (line + 1) 0 rest
    else ⟨c, index, line, column⟩ :: spotsFrom (index + 1) line (column + 1) rest

/-- A text without a byte order mark at its start. -/
def withoutMark : List Char → List Char
  | [] => []
  | c :: rest => if c = byteOrderMark then rest else c :: rest

/-- The spots of a text. -/
def spots? (text : String) : Option (List Spot) :=
  let cs := withoutMark text.toList
  if cs.all isAllowed then some (spotsFrom 0 0 0 cs) else none

/-- The character `k` places ahead. -/
def peek (k : Nat) (rest : List Spot) : Char :=
  match rest[k]? with
  | some spot => spot.char
  | none => '\x00'

/-- What is left behind the blanks of a line. -/
def skipBlanks (rest : List Spot) : List Spot := rest.dropWhile (isBlank ·.char)

/-- What is left behind a comment, if there is one. -/
def skipComment (rest : List Spot) : List Spot :=
  if peek 0 rest = '#' then rest.dropWhile (!endsLine ·.char) else rest

/-- What is left behind the rest of a line that holds nothing but blanks and a comment. -/
def skipLineEnd? (rest : List Spot) : Option (List Spot) :=
  let rest := skipComment (skipBlanks rest)
  if isBreak (peek 0 rest) then some (rest.drop 1)
  else if endsLine (peek 0 rest) then some rest
  else none

/-- Whether `mark` stands at the start of a line as a word of its own, here. -/
def isMarker (mark : Char) (rest : List Spot) : Bool :=
  (rest.head?.map (·.column)).getD 1 == 0 && peek 0 rest == mark && peek 1 rest == mark &&
    peek 2 rest == mark && endsWord (peek 3 rest)

/-- Whether a document starts or ends here. -/
def isDocumentMarker (rest : List Spot) : Bool := isMarker '-' rest || isMarker '.' rest

end ConnectorCatalog.Yaml
