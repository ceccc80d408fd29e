import ConnectorCatalog.Decimal
import ConnectorCatalog.Text.Hex
import ConnectorCatalog.Toml.Value

/-!
# TOML literals

How single values are written: texts between quotes, numbers, dates and times. Every function reads
a value at the start of a list of characters and gives it with what is left.
-/

namespace ConnectorCatalog.Toml

/-! ### Characters -/

/-- Whether a character is a blank within a line. -/
def isBlank (c : Char) : Bool := c == ' ' || c == '\t'

/-- Whether a comment or a text on one line may hold a character. -/
def isInline (c : Char) : Bool := c == '\t' || (' ' ≤ c && c != '\x7f')

/-- What is left behind blanks. -/
def skipBlanks (cs : List Char) : List Char := cs.dropWhile isBlank

/-- What is left behind a line break. -/
def lineBreak? : List Char → Option (List Char)
  | '\n' :: rest => some rest
  | '\r' :: '\n' :: rest => some rest
  | _ => none

/-- What is left behind a line break, if one comes next. -/
def skipBreak (cs : List Char) : List Char := (lineBreak? cs).getD cs

/-! ### Texts -/

/-- The character that an escape behind a backslash stands for, and what is left. -/
def escape? : List Char → Option (Char × List Char)
  | 'b' :: rest => some ('\x08', rest)
  | 'f' :: rest => some ('\x0c', rest)
  | 'n' :: rest => some ('\n', rest)
  | 'r' :: rest => some ('\r', rest)
  | 't' :: rest => some ('\t', rest)
  | '"' :: rest => some ('"', rest)
  | '\\' :: rest => some ('\\', rest)
  | c :: rest =>
    let width := if c = 'u' then 4 else if c = 'U' then 8 else 0
    let digits := rest.take width
    if width = 0 ∨ digits.length < width then none
    else do
      let n ← digits.foldlM (fun n d => (Text.digit? d).map (16 * n + ·)) 0
      if n.isValidChar then some (Char.ofNat n, rest.drop width) else none
  | [] => none

/-- A text behind its opening quote, on one line. The number bounds its length. -/
def basicText? : Nat → List Char → Option (List Char × List Char)
  | 0, _ => none
  | _ + 1, [] => none
  | _ + 1, '"' :: rest => some ([], rest)
  | n + 1, '\\' :: rest => do
    let (c, rest) ← escape? rest
    let (text, rest) ← basicText? n rest
    return (c :: text, rest)
  | n + 1, c :: rest => do
    if !isInline c then none
    let (text, rest) ← basicText? n rest
    return (c :: text, rest)

/-- A text behind its opening apostrophe, on one line; it has no escapes. -/
def literalText? : List Char → Option (List Char × List Char)
  | [] => none
  | '\'' :: rest => some ([], rest)
  | c :: rest => do
    if !isInline c then none
    let (text, rest) ← literalText? rest
    return (c :: text, rest)

/-- The end of a text on several lines: three quotes, and at most two in front of them that belong
to the text. -/
def closing? (quote : Char) (cs : List Char) : Option (List Char × List Char) :=
  let quotes := (cs.takeWhile (· == quote)).length
  if quotes < 3 then none
  else
    let own := min (quotes - 3) 2
    some (List.replicate own quote, cs.drop (own + 3))

/-- What is left behind a backslash at the end of a line, with the blanks and line breaks that it
takes away. -/
def joinedLine? (cs : List Char) : Option (List Char) :=
  (lineBreak? (skipBlanks cs)).map fun rest =>
    let rest := rest.dropWhile fun c => isBlank c || c == '\n' || c == '\r'
    rest

/-- Whether line breaks are complete: there is no carriage return without a line feed. -/
def breaksAreWhole : List Char → Bool
  | [] => true
  | '\r' :: '\n' :: rest => breaksAreWhole rest
  | '\r' :: _ => false
  | _ :: rest => breaksAreWhole rest

/-- A text on several lines behind its opening quotes. The number bounds its length. -/
def longBasicText? : Nat → List Char → Option (List Char × List Char)
  | 0, _ => none
  | n + 1, cs =>
    match closing? '"' cs with
    | some found => some found
    | none =>
      match cs with
      | [] => none
      | '\\' :: rest =>
        match joinedLine? rest with
        | some behind =>
          if breaksAreWhole (rest.take (rest.length - behind.length)) then longBasicText? n behind
          else none
        | none => do
          let (c, rest) ← escape? rest
          let (text, rest) ← longBasicText? n rest
          return (c :: text, rest)
      | c :: rest =>
        match lineBreak? (c :: rest) with
        | some rest => do
          let (text, rest) ← longBasicText? n rest
          return ('\n' :: text, rest)
        | none => do
          if !isInline c then none
          let (text, rest) ← longBasicText? n rest
          return (c :: text, rest)

/-- A text without escapes on several lines behind its opening apostrophes. The number bounds its
length. -/
def longLiteralText? : Nat → List Char → Option (List Char × List Char)
  | 0, _ => none
  | n + 1, cs =>
    match closing? '\'' cs with
    | some found => some found
    | none =>
      match cs with
      | [] => none
      | c :: rest =>
        match lineBreak? (c :: rest) with
        | some rest => do
          let (text, rest) ← longLiteralText? n rest
          return ('\n' :: text, rest)
        | none => do
          if !isInline c then none
          let (text, rest) ← longLiteralText? n rest
          return (c :: text, rest)

/-- A text on one line or several, with its quotes. -/
def text? (cs : List Char) : Option (List Char × List Char) :=
  match cs with
  | '"' :: '"' :: '"' :: rest => longBasicText? cs.length (skipBreak rest)
  | '\'' :: '\'' :: '\'' :: rest => longLiteralText? cs.length (skipBreak rest)
  | '"' :: rest => basicText? cs.length rest
  | '\'' :: rest => literalText? rest
  | _ => none

/-! ### Numbers -/

/-- Digits of a class with single underscores between them, underscores left out, and what is
left. -/
def digits? (isMember : Char → Bool) : List Char → Option (List Char × List Char)
  | [] => none
  | c :: rest =>
    if !isMember c then none
    else match rest with
      | '_' :: rest' => (digits? isMember rest').map fun (ds, rest) => (c :: ds, rest)
      | d :: rest' =>
        if isMember d then
          (digits? isMember (d :: rest')).map fun (ds, rest) => (c :: ds, rest)
        else some ([c], d :: rest')
      | [] => some ([c], [])

/-- The number that digits of a base stand for. -/
def numberOf (base : Nat) (digits : List Char) : Nat :=
  digits.foldl (fun n c => n * base + (Text.digit? c).getD 0) 0

/-- An integer, if it has 64 bits at most. -/
def integerOf? (n : Int) : Option Value :=
  if Int64.minValue.toInt ≤ n ∧ n ≤ Int64.maxValue.toInt then some (.integer n) else none

/-- A number in another base than ten behind its letter. -/
def basedInteger? (base : Nat) (rest : List Char) : Option (Value × List Char) := do
  let (ds, rest) ← digits? (fun c => (Text.digit? c).any (· < base)) rest
  return (← integerOf? (numberOf base ds), rest)

/-- A sign and whether it is a minus, and what is left. -/
def sign : List Char → Bool × List Char
  | '-' :: rest => (true, rest)
  | '+' :: rest => (false, rest)
  | cs => (false, cs)

/-- The digits of a whole number; one that begins with zero is zero. -/
def whole? : List Char → Option (List Char × List Char)
  | '0' :: rest => some (['0'], rest)
  | cs => digits? Char.isDigit cs

/-- The fraction of a number, if there is one. -/
def fraction? : List Char → Option (List Char × List Char)
  | '.' :: rest => digits? Char.isDigit rest
  | cs => some ([], cs)

/-- The exponent of a number, if there is one. -/
def exponent? : List Char → Option (Option Int × List Char)
  | c :: rest =>
    if c == 'e' || c == 'E' then do
      let (isNegative, rest) := sign rest
      let (ds, rest) ← digits? Char.isDigit rest
      let n := Int.ofNat (numberOf 10 ds)
      return (some (if isNegative then -n else n), rest)
    else some (none, c :: rest)
  | [] => some (none, [])

/-- A decimal number with its sign. Only positive ones are refused when they are too large. -/
def decimal? (cs : List Char) : Option (Value × List Char) := do
  let (isNegative, rest) := sign cs
  match rest with
  | 'i' :: 'n' :: 'f' :: rest => return (.fraction, rest)
  | 'n' :: 'a' :: 'n' :: rest => return (.fraction, rest)
  | _ =>
    let (ds, rest) ← whole? rest
    let (fs, rest) ← fraction? rest
    let (exponent, rest) ← exponent? rest
    let n := numberOf 10 (ds ++ fs)
    if fs = [] ∧ exponent = none then
      return (← integerOf? (if isNegative then -Int.ofNat n else n), rest)
    else if isNegative || Decimal.isFinite ⟨n, exponent.getD 0 - fs.length⟩ then return (.fraction, rest)
    else none

/-- A number. -/
def number? : List Char → Option (Value × List Char)
  | '0' :: 'x' :: rest => basedInteger? 16 rest
  | '0' :: 'o' :: rest => basedInteger? 8 rest
  | '0' :: 'b' :: rest => basedInteger? 2 rest
  | cs => decimal? cs

/-! ### Dates and times -/

/-- A number of two digits within bounds, and what is left. -/
def pair? (least greatest : Nat) : List Char → Option (Nat × List Char)
  | a :: b :: rest =>
    let n := numberOf 10 [a, b]
    if a.isDigit ∧ b.isDigit ∧ least ≤ n ∧ n ≤ greatest then some (n, rest) else none
  | _ => none

/-- What is left behind a character that must come next. -/
def mark? (mark : Char) : List Char → Option (List Char)
  | c :: rest => if c = mark then some rest else none
  | [] => none

/-- The number of days in a month of a year. -/
def daysIn (year month : Nat) : Nat :=
  let isLeap := year % 4 = 0 ∧ (year % 100 ≠ 0 ∨ year % 400 = 0)
  match month with
  | 2 => if isLeap then 29 else 28
  | 4 => 30
  | 6 => 30
  | 9 => 30
  | 11 => 30
  | _ => 31

/-- What is left behind a date. -/
def date? (cs : List Char) : Option (List Char) := do
  let year := cs.take 4
  let rest ← mark? '-' (cs.drop 4)
  let (month, rest) ← pair? 1 12 rest
  let rest ← mark? '-' rest
  let (day, rest) ← pair? 1 31 rest
  if day ≤ daysIn (numberOf 10 year) month then some rest else none

/-- What is left behind the time of a day, with any fraction of a second. -/
def time? (cs : List Char) : Option (List Char) := do
  let (_, rest) ← pair? 0 23 cs
  let rest ← mark? ':' rest
  let (_, rest) ← pair? 0 59 rest
  let rest ← mark? ':' rest
  let (_, rest) ← pair? 0 60 rest
  match rest with
  | '.' :: rest' =>
    if rest'.head?.any Char.isDigit then return rest'.dropWhile Char.isDigit else return rest
  | _ => return rest

/-- What is left behind the offset of a time from the world's, if there is one. -/
def offset? : List Char → Option (List Char)
  | c :: rest =>
    if c = 'Z' ∨ c = 'z' then some rest
    else if c = '+' ∨ c = '-' then do
      let (_, rest) ← pair? 0 23 rest
      let rest ← mark? ':' rest
      let (_, rest) ← pair? 0 59 rest
      return rest
    else some (c :: rest)
  | [] => some []

/-- Whether two digits and a colon come next, so that only a time can be meant. -/
def startsTime (cs : List Char) : Bool :=
  (cs.take 2).all Char.isDigit && cs[2]? == some ':'

/-- Whether four digits and a dash come next, so that only a date can be meant. -/
def startsDate (cs : List Char) : Bool :=
  (cs.take 4).all Char.isDigit && cs[4]? == some '-'

/-- A date, a time or both. -/
def moment? (cs : List Char) : Option (Value × List Char) :=
  if startsTime cs then (time? cs).map (.moment, ·)
  else do
    let rest ← date? cs
    match rest with
    | c :: rest' =>
      if (c = 'T' ∨ c = 't' ∨ c = ' ') ∧ startsTime rest' then
        return (.moment, ← offset? (← time? rest'))
      else return (.moment, rest)
    | [] => return (.moment, [])

end ConnectorCatalog.Toml
