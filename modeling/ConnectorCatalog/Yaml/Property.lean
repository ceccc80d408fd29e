import ConnectorCatalog.Yaml.Spot
import ConnectorCatalog.Yaml.Token

/-!
# Names, tags and directives of YAML

Small tokens that are written with a mark in front: anchors and aliases, tags, and the directives
in front of a document.
-/

namespace ConnectorCatalog.Yaml

/-- The characters from here on that are in a class, and what is left. -/
def run (isMember : Char → Bool) (rest : List Spot) : List Char × List Spot :=
  ((rest.takeWhile (isMember ·.char)).map (·.char), rest.dropWhile (isMember ·.char))

/-! ### Anchors -/

/-- Whether a character may follow the name of an anchor. -/
def endsName (c : Char) : Bool :=
  endsWord c || c == '?' || c == ':' || c == ',' || c == ']' || c == '\x7d' || c == '%' ||
    c == '@' || c == '\x60'

/-- The name of an anchor or alias behind its mark, and what is left. -/
def nameFrom? (rest : List Spot) : Option (String × List Spot) :=
  let (name, rest) := run isNameChar rest
  if name = [] ∨ !endsName (peek 0 rest) then none else some (String.ofList name, rest)

/-! ### Tags -/

/-- Whether a character may stand in the text of a tag; commas and brackets may only where the text
is set apart. -/
def isTagChar (isVerbatim : Bool) (c : Char) : Bool :=
  isNameChar c ||
    [';', '/', '?', ':', '@', '&', '=', '+', '$', '.', '%', '!', '~', '*', '\'', '(', ')'].contains c
    || (isVerbatim && (c == ',' || c == '[' || c == ']'))

/-- The number of bytes of a character in UTF-8 by the first of them. -/
def utf8Width? (first : Nat) : Option Nat :=
  if first < 0x80 then some 1
  else if 0xC0 ≤ first ∧ first < 0xE0 then some 2
  else if 0xE0 ≤ first ∧ first < 0xF0 then some 3
  else if 0xF0 ≤ first ∧ first < 0xF8 then some 4
  else none

/-- The bytes of the text of a tag, escapes resolved. The number counts the bytes that are missing
to complete a character; they must be escaped, too. -/
def tagBytes? (missing : Nat) : List Char → Option Bytes
  | [] => if missing = 0 then some [] else none
  | '%' :: a :: b :: rest => do
    let byte := 16 * (← Text.digit? a) + (← Text.digit? b)
    let missing ← if missing = 0 then (utf8Width? byte).map (· - 1)
      else if 0x80 ≤ byte ∧ byte < 0xC0 then some (missing - 1)
      else none
    return UInt8.ofNat byte :: (← tagBytes? missing rest)
  | c :: rest => do
    if missing ≠ 0 ∨ c = '%' then none
    return UInt8.ofNat c.toNat :: (← tagBytes? 0 rest)

/-- The handle of a tag, with its exclamation marks, and what is left. -/
def tagHandle? (rest : List Spot) : Option (List Char × List Spot) :=
  if peek 0 rest ≠ '!' then none
  else
    let (name, rest) := run isNameChar (rest.drop 1)
    if peek 0 rest = '!' then some ('!' :: name ++ ['!'], rest.drop 1) else some ('!' :: name, rest)

/-- The text of a tag from here on; it must not be empty. -/
def tagText? (isVerbatim : Bool) (rest : List Spot) : Option (Bytes × List Spot) :=
  let (text, rest) := run (isTagChar isVerbatim) rest
  if text = [] then none else (tagBytes? 0 text).map (·, rest)

/-- The handle and the text of a tag with or without a handle of its own. -/
def shortTag? (rest : List Spot) : Option (String × Bytes × List Spot) := do
  let (handle, behind) ← tagHandle? rest
  if handle.length > 1 ∧ handle.getLast? = some '!' then
    let (text, behind) ← tagText? false behind
    return (String.ofList handle, text, behind)
  else
    let (text, behind) := run (isTagChar false) behind
    let text := Text.utf8 (String.ofList (handle.drop 1)) ++ (← tagBytes? 0 text)
    if text = [] then return ("", Text.utf8 "!", behind) else return ("!", text, behind)

/-- The handle and the text of a tag between angle brackets. -/
def verbatimTag? (rest : List Spot) : Option (String × Bytes × List Spot) := do
  let (text, behind) ← tagText? true (rest.drop 2)
  if peek 0 behind = '>' then return ("", text, behind.drop 1) else none

/-- A tag, and what is left. -/
def tagFrom? (inFlow : Bool) (rest : List Spot) : Option (Token × List Spot) := do
  let (handle, text, behind) ← if peek 1 rest = '<' then verbatimTag? rest else shortTag? rest
  if endsWord (peek 0 behind) ∨ (inFlow ∧ peek 0 behind = ',') then
    return (.tag handle text, behind)
  else none

/-! ### Directives -/

/-- The greatest number of digits in the number of a version. -/
def maxVersionDigits : Nat := 9

/-- A number of a version, and what is left. -/
def versionNumber? (rest : List Spot) : Option (Nat × List Spot) :=
  let (digits, rest) := run Char.isDigit rest
  if digits = [] ∨ maxVersionDigits < digits.length then none
  else some (digits.foldl (fun n c => 10 * n + (c.toNat - 48)) 0, rest)

/-- A directive behind its mark, and what is left behind its line. -/
def directiveFrom? (rest : List Spot) : Option (Token × List Spot) := do
  let (name, rest) := run isNameChar rest
  if !endsWord (peek 0 rest) then none
  let rest := skipBlanks rest
  if name = "YAML".toList then
    let (major, rest) ← versionNumber? rest
    if peek 0 rest ≠ '.' then none
    let (minor, rest) ← versionNumber? (rest.drop 1)
    return (.versionDirective major minor, ← skipLineEnd? rest)
  else if name = "TAG".toList then
    let (handle, rest) ← tagHandle? rest
    if !isBlank (peek 0 rest) ∨ (handle.length > 1 ∧ handle.getLast? ≠ some '!') then none
    let (text, rest) ← tagText? true (skipBlanks rest)
    if !endsWord (peek 0 rest) then none
    return (.tagDirective (String.ofList handle) text, ← skipLineEnd? rest)
  else none

end ConnectorCatalog.Yaml
