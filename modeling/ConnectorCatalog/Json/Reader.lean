import ConnectorCatalog.Json.Basic
import ConnectorCatalog.Text.Hex

/-!
# Reading JSON

`Json.parse?` reads one value that fills a text. The grammar is followed strictly: no comments, no
trailing commas, no control characters in strings, nothing behind the value but blanks. Depth is
not limited, and a number is kept as its literal, whatever its size.

A string literal with half of a surrogate pair follows the grammar but stands for no text; it is
read as `Json.garbled`, so that it does harm only where its text is asked for.
-/

namespace ConnectorCatalog.Json

/-! ### Tokens -/

/-- The text behind blanks. -/
def skipBlanks (cs : List Char) : List Char :=
  cs.dropWhile fun c => c == ' ' || c == '\n' || c == '\t' || c == '\r'

/-- The number written by four hexadecimal digits. -/
def codeUnit? (a b c d : Char) : Option Nat := do
  return 4096 * (← Text.digit? a) + 256 * (← Text.digit? b) + 16 * (← Text.digit? c) +
    (← Text.digit? d)

/-- Whether a number is the first half of a surrogate pair. -/
def isHighHalf (n : Nat) : Bool := 0xD800 ≤ n && n ≤ 0xDBFF

/-- Whether a number is the second half of a surrogate pair. -/
def isLowHalf (n : Nat) : Bool := 0xDC00 ≤ n && n ≤ 0xDFFF

/-- The character that two halves stand for together. -/
def joinHalves (high low : Nat) : Char :=
  Char.ofNat (0x10000 + (high - 0xD800) * 0x400 + (low - 0xDC00))

/-- The character that stands behind a backslash for another one. -/
def escape? : Char → Option Char
  | '"' => some '"'
  | '\\' => some '\\'
  | '/' => some '/'
  | 'b' => some '\x08'
  | 'f' => some '\x0c'
  | 'n' => some '\n'
  | 'r' => some '\r'
  | 't' => some '\t'
  | _ => none

/-- The code units of a string literal behind its opening quote, and what follows. An escape by
number stands for the number, every other character for its own. -/
def readUnits : List Char → Option (List Nat × List Char)
  | [] => none
  | '"' :: rest => some ([], rest)
  | '\\' :: 'u' :: a :: b :: c :: d :: rest => do
    let unit ← codeUnit? a b c d
    let (units, rest) ← readUnits rest
    return (unit :: units, rest)
  | '\\' :: c :: rest => do
    let c ← escape? c
    let (units, rest) ← readUnits rest
    return (c.toNat :: units, rest)
  | c :: rest => do
    if c < ' ' then none
    else
      let (units, rest) ← readUnits rest
      return (c.toNat :: units, rest)

/-- The text of code units, unless half of a surrogate pair stands alone. -/
def textOfUnits? : List Nat → Option (List Char)
  | [] => some []
  | n :: m :: rest =>
    if isLowHalf n then none
    else if isHighHalf n then
      if isLowHalf m then (textOfUnits? rest).map (joinHalves n m :: ·) else none
    else (textOfUnits? (m :: rest)).map (Char.ofNat n :: ·)
  | [n] => if isLowHalf n || isHighHalf n then none else some [Char.ofNat n]

/-- The text of a string literal behind its opening quote, none if it is garbled, and what
follows. -/
def readString (cs : List Char) : Option (Option (List Char) × List Char) :=
  (readUnits cs).map fun (units, rest) => (textOfUnits? units, rest)

/-- The leading ASCII digits, at least one, and what follows. -/
def readDigits (cs : List Char) : Option (List Char × List Char) :=
  match cs.takeWhile Char.isDigit with
  | [] => none
  | digits => some (digits, cs.dropWhile Char.isDigit)

/-- The whole part of a number: one zero, or digits that do not begin with one. -/
def readWhole : List Char → Option (List Char × List Char)
  | '0' :: c :: rest => if c.isDigit then none else some (['0'], c :: rest)
  | cs => readDigits cs

/-- The fraction of a number, if there is one. -/
def readFraction : List Char → Option (List Char × List Char)
  | '.' :: rest => do
    let (digits, rest) ← readDigits rest
    return ('.' :: digits, rest)
  | cs => some ([], cs)

/-- The exponent of a number, if there is one. -/
def readExponent : List Char → Option (List Char × List Char)
  | c :: rest =>
    if c == 'e' || c == 'E' then
      match rest with
      | s :: rest' =>
        if s == '+' || s == '-' then do
          let (digits, rest) ← readDigits rest'
          return (c :: s :: digits, rest)
        else do
          let (digits, rest) ← readDigits rest
          return (c :: digits, rest)
      | [] => none
    else some ([], c :: rest)
  | [] => some ([], [])

/-- The literal of a number without sign, and what follows. -/
def readUnsigned (cs : List Char) : Option (List Char × List Char) := do
  let (whole, cs) ← readWhole cs
  let (fraction, cs) ← readFraction cs
  let (exponent, cs) ← readExponent cs
  return (whole ++ fraction ++ exponent, cs)

/-- The literal of a number, and what follows. -/
def readNumber : List Char → Option (List Char × List Char)
  | '-' :: rest => do
    let (literal, rest) ← readUnsigned rest
    return ('-' :: literal, rest)
  | cs => readUnsigned cs

/-! ### Values -/

/-- A string value. -/
def ofLiteral : Option (List Char) → Json
  | some text => str (String.ofList text)
  | none => garbled

/-- An object whose members have been read with their keys; a garbled key garbles it. -/
def ofMembers (members : List (Option (List Char) × Json)) : Json :=
  match members.mapM fun m => m.1.map fun key => (String.ofList key, m.2) with
  | some members => obj members
  | none => garbled

mutual

/-- A value and what follows; the first argument bounds the number of steps. -/
def readValue : Nat → List Char → Option (Json × List Char)
  | 0, _ => none
  | n + 1, cs =>
    match skipBlanks cs with
    | 'n' :: 'u' :: 'l' :: 'l' :: rest => some (null, rest)
    | 't' :: 'r' :: 'u' :: 'e' :: rest => some (bool true, rest)
    | 'f' :: 'a' :: 'l' :: 's' :: 'e' :: rest => some (bool false, rest)
    | '"' :: rest => (readString rest).map fun (text, rest) => (ofLiteral text, rest)
    | '[' :: rest =>
      match skipBlanks rest with
      | ']' :: rest => some (arr [], rest)
      | rest => (readItems n rest).map fun (items, rest) => (arr items, rest)
    | '{' :: rest =>
      match skipBlanks rest with
      | '}' :: rest => some (obj [], rest)
      | rest => (readMembers n rest).map fun (members, rest) => (ofMembers members, rest)
    | rest => (readNumber rest).map fun (literal, rest) => (num (String.ofList literal), rest)

/-- The items of a list up to its bracket. -/
def readItems : Nat → List Char → Option (List Json × List Char)
  | 0, _ => none
  | n + 1, cs =>
    match readValue n cs with
    | none => none
    | some (item, rest) =>
      match skipBlanks rest with
      | ',' :: rest => (readItems n rest).map fun (items, rest) => (item :: items, rest)
      | ']' :: rest => some ([item], rest)
      | _ => none

/-- The members of an object up to its brace. -/
def readMembers : Nat → List Char → Option (List (Option (List Char) × Json) × List Char)
  | 0, _ => none
  | n + 1, cs =>
    match skipBlanks cs with
    | '"' :: rest =>
      match readString rest with
      | none => none
      | some (key, rest) =>
        match skipBlanks rest with
        | ':' :: rest =>
          match readValue n rest with
          | none => none
          | some (value, rest) =>
            match skipBlanks rest with
            | ',' :: rest =>
              (readMembers n rest).map fun (members, rest) => ((key, value) :: members, rest)
            | '}' :: rest => some ([(key, value)], rest)
            | _ => none
        | _ => none
    | _ => none

end

/-- The value that fills a text. -/
def parse? (s : String) : Option Json :=
  match readValue (s.toList.length + 1) s.toList with
  | some (value, rest) => if skipBlanks rest = [] then some value else none
  | none => none

end ConnectorCatalog.Json
