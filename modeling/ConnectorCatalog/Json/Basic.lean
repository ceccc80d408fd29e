/-!
# JSON values

The value type of JSON documents, requests and reports. Objects keep their members in the order in
which they are written; numbers keep their literal text.
-/

namespace ConnectorCatalog

/-- A JSON value. -/
inductive Json where
  | null
  | bool (value : Bool)
  | num (literal : String)
  | str (value : String)
  | arr (items : List Json)
  | obj (members : List (String × Json))
  /-- A literal that follows the grammar and names no text: half of a surrogate pair in a string,
  or in the key of an object. -/
  | garbled
deriving Repr, Inhabited

namespace Json

/-- A natural number. -/
def ofNat (n : Nat) : Json := num (toString n)

/-- A text, or `null` when there is none. -/
def ofText? : Option String → Json
  | some s => str s
  | none => null

/-- A list of texts. -/
def ofTexts (texts : List String) : Json := arr (texts.map str)

/-- The first member with a key. -/
def member? (key : String) : Json → Option Json
  | obj members => members.lookup key
  | _ => none

end Json

end ConnectorCatalog
