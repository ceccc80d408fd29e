import ConnectorCatalog.Toml.Literal

/-!
# Reading TOML

`Toml.parse?` reads the table that a text stands for: assignments of values to dotted keys, in
sections with headers. Nesting is limited.
-/

namespace ConnectorCatalog.Toml

open Entries (Assignment Section)

/-! ### Lines -/

/-- What is left behind a comment, if one comes next. -/
def skipComment : List Char → List Char
  | '#' :: rest => rest.dropWhile isInline
  | cs => cs

/-- What is left behind the rest of a line that holds blanks and a comment only. -/
def lineEnd? (cs : List Char) : Option (List Char) :=
  match skipComment (skipBlanks cs) with
  | [] => some []
  | rest => lineBreak? rest

/-- What is left behind blanks, comments and line breaks; the number bounds the lines. -/
def skipLines : Nat → List Char → List Char
  | 0, cs => cs
  | n + 1, cs =>
    let rest := skipComment (skipBlanks cs)
    match lineBreak? rest with
    | some rest => skipLines n rest
    | none => rest

/-! ### Keys -/

/-- The number of parts of a dotted key, and the depth of nested values, are below this number. -/
def depthBound : Nat := 80

/-- Whether a character may stand in a key without quotes. -/
def isKeyChar (c : Char) : Bool := c.isAlphanum || c == '_' || c == '-'

/-- A part of a dotted key, and what is left. -/
def simpleKey? (cs : List Char) : Option (String × List Char) :=
  match cs with
  | '"' :: rest => (basicText? cs.length rest).map fun (key, rest) => (String.ofList key, rest)
  | '\'' :: rest => (literalText? rest).map fun (key, rest) => (String.ofList key, rest)
  | _ =>
    match cs.takeWhile isKeyChar with
    | [] => none
    | key => some (String.ofList key, cs.dropWhile isKeyChar)

/-- The parts of a dotted key, and what is left; the number bounds the parts. -/
def keyParts? : Nat → List Char → Option (List String × List Char)
  | 0, _ => none
  | n + 1, cs => do
    let (key, rest) ← simpleKey? (skipBlanks cs)
    match skipBlanks rest with
    | '.' :: rest =>
      let (keys, rest) ← keyParts? n rest
      return (key :: keys, rest)
    | rest => return ([key], rest)

/-- A dotted key: its last part, the parts in front of it, and what is left. -/
def key? (cs : List Char) : Option (List String × String × List Char) := do
  let (keys, rest) ← keyParts? (depthBound - 1) cs
  return (keys.dropLast, ← keys.getLast?, rest)

/-! ### Values -/

mutual

/-- A value, and what is left. `depth` is the number of lists and tables that may still be nested,
the first number bounds the steps. -/
def value? : Nat → (depth : Nat) → List Char → Option (Value × List Char)
  | 0, _, _ => none
  | n + 1, depth, cs =>
    match cs with
    | '[' :: rest =>
      match depth with
      | 0 => none
      | depth + 1 =>
        match skipLines rest.length rest with
        | ']' :: rest => some (.array [], rest)
        | rest => (items? n depth rest).map fun (items, rest) => (.array items, rest)
    | '\x7b' :: rest =>
      match depth with
      | 0 => none
      | depth + 1 =>
        match skipBlanks rest with
        | '\x7d' :: rest => some (.table .inline [], rest)
        | rest => do
          let (assignments, rest) ← assignments? n depth rest
          return (.table .inline (← Entries.assignAll? assignments []), rest)
    | 't' :: 'r' :: 'u' :: 'e' :: rest => some (.bool true, rest)
    | 'f' :: 'a' :: 'l' :: 's' :: 'e' :: rest => some (.bool false, rest)
    | c :: _ =>
      if c = '"' ∨ c = '\'' then (text? cs).map fun (s, rest) => (.text (String.ofList s), rest)
      else if startsDate cs ∨ startsTime cs then moment? cs
      else number? cs
    | [] => none

/-- The items of a list up to its bracket; a comma may stand behind the last. -/
def items? : Nat → (depth : Nat) → List Char → Option (List Value × List Char)
  | 0, _, _ => none
  | n + 1, depth, cs => do
    let (item, rest) ← value? n depth cs
    match skipLines rest.length rest with
    | ',' :: rest =>
      match skipLines rest.length rest with
      | ']' :: rest => return ([item], rest)
      | rest =>
        let (items, rest) ← items? n depth rest
        return (item :: items, rest)
    | ']' :: rest => return ([item], rest)
    | _ => none

/-- The assignments of a table in braces up to the closing one. -/
def assignments? : Nat → (depth : Nat) → List Char → Option (List Assignment × List Char)
  | 0, _, _ => none
  | n + 1, depth, cs => do
    let (path, key, rest) ← key? cs
    let rest ← mark? '=' rest
    let (value, rest) ← value? n depth (skipBlanks rest)
    match skipBlanks rest with
    | ',' :: rest =>
      let (assignments, rest) ← assignments? n depth rest
      return (⟨path, key, value⟩ :: assignments, rest)
    | '\x7d' :: rest => return ([⟨path, key, value⟩], rest)
    | _ => none

end

/-! ### Documents -/

/-- An assignment on a line of its own, and what is left behind the line. -/
def assignment? (cs : List Char) : Option (Assignment × List Char) := do
  let (path, key, rest) ← key? cs
  let rest ← mark? '=' rest
  let (value, rest) ← value? (2 * cs.length) (depthBound - 1) (skipBlanks rest)
  return (⟨path, key, value⟩, ← lineEnd? rest)

/-- A header on a line of its own, as a section that is still empty, and what is left behind the
line. -/
def header? : List Char → Option (Section × List Char)
  | '[' :: '[' :: rest => do
    let (path, key, rest) ← key? rest
    let rest ← mark? ']' (← mark? ']' rest)
    return (⟨path, key, true, []⟩, ← lineEnd? rest)
  | '[' :: rest => do
    let (path, key, rest) ← key? rest
    let rest ← mark? ']' rest
    return (⟨path, key, false, []⟩, ← lineEnd? rest)
  | _ => none

/-- The assignments in front of the first header, and the sections behind it. The number bounds
the lines. -/
def sections? : Nat → List Char → Option (List Assignment × List Section)
  | 0, _ => none
  | n + 1, cs =>
    match skipLines cs.length cs with
    | [] => some ([], [])
    | '[' :: rest => do
      let (header, rest) ← header? ('[' :: rest)
      let (assignments, sections) ← sections? n rest
      return ([], { header with assignments } :: sections)
    | rest => do
      let (assignment, rest) ← assignment? rest
      let (assignments, sections) ← sections? n rest
      return (assignment :: assignments, sections)

/-- A text without a byte order mark at its start. -/
def withoutMark : List Char → List Char
  | [] => []
  | c :: rest => if c = '\ufeff' then rest else c :: rest

/-- The table that a text stands for. -/
def parse? (text : String) : Option Value := do
  let cs := withoutMark text.toList
  let (assignments, sections) ← sections? (cs.length + 1) cs
  let root ← Entries.assignAll? assignments []
  return .table .headed (← sections.foldlM Entries.define? root)

end ConnectorCatalog.Toml
