import ConnectorCatalog.Json.Basic
import ConnectorCatalog.Text.Hex
import ConnectorCatalog.Text.Segment

/-!
# Writing JSON

`Json.compact` writes a value without blanks, `Json.pretty` with one member or item a line and two
blanks for each level. Members keep their order. In strings the quote, the backslash and control
characters are escaped and every other character stands for itself.
-/

namespace ConnectorCatalog.Json

/-- The escaped form of a character in a string literal. -/
def escaped (c : Char) : List Char :=
  match c with
  | '"' => ['\\', '"']
  | '\\' => ['\\', '\\']
  | '\x08' => ['\\', 'b']
  | '\x0c' => ['\\', 'f']
  | '\n' => ['\\', 'n']
  | '\r' => ['\\', 'r']
  | '\t' => ['\\', 't']
  | c =>
    if c < ' ' then
      ['\\', 'u', '0', '0', Text.lowerDigit (c.toNat / 16), Text.lowerDigit (c.toNat % 16)]
    else [c]

/-- A text as a string literal. -/
def quote (s : String) : String := String.ofList ('"' :: s.toList.flatMap escaped ++ ['"'])

mutual

/-- A value on one line without blanks. -/
def compact : Json → String
  | null => "null"
  | bool true => "true"
  | bool false => "false"
  | num literal => literal
  | str value => quote value
  | arr items => "[" ++ Text.joinTexts "," (compactItems items) ++ "]"
  | obj members => "\x7b" ++ Text.joinTexts "," (compactMembers members) ++ "\x7d"
  | garbled => "null"

/-- The items of a list, each on its own. -/
def compactItems : List Json → List String
  | [] => []
  | item :: rest => compact item :: compactItems rest

/-- The members of an object, each on its own. -/
def compactMembers : List (String × Json) → List String
  | [] => []
  | (key, value) :: rest => (quote key ++ ":" ++ compact value) :: compactMembers rest

end

/-- The start of a line at a level. -/
def indent (level : Nat) : String := String.ofList (List.replicate (2 * level) ' ')

/-- Lines between brackets, or the brackets alone. -/
def bracketed (level : Nat) (opening closing : String) : List String → String
  | [] => opening ++ closing
  | lines =>
    opening ++ "\n" ++ Text.joinTexts ",\n" (lines.map (indent (level + 1) ++ ·)) ++ "\n" ++
      indent level ++ closing

mutual

/-- A value whose first line begins behind the indentation of a level. -/
def prettyAt (level : Nat) : Json → String
  | arr items => bracketed level "[" "]" (prettyItems (level + 1) items)
  | obj members => bracketed level "\x7b" "\x7d" (prettyMembers (level + 1) members)
  | null => "null"
  | bool true => "true"
  | bool false => "false"
  | num literal => literal
  | str value => quote value
  | garbled => "null"

/-- The items of a list, each without its indentation. -/
def prettyItems (level : Nat) : List Json → List String
  | [] => []
  | item :: rest => prettyAt level item :: prettyItems level rest

/-- The members of an object, each without its indentation. -/
def prettyMembers (level : Nat) : List (String × Json) → List String
  | [] => []
  | (key, value) :: rest =>
    (quote key ++ ": " ++ prettyAt level value) :: prettyMembers level rest

end

/-- A value on lines of its own. -/
def pretty (value : Json) : String := prettyAt 0 value

end ConnectorCatalog.Json
