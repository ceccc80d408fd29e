import ConnectorCatalog.Yaml.Node
import ConnectorCatalog.Yaml.Number

/-!
# Values of YAML nodes

What a node stands for, aliases followed.

* `Node.value` resolves a node completely: each text without quotes may be nothing, a truth value
  or a number.
* `Node.text` and `Node.optional` read a text where one is expected, `Node.fields` the fields of a
  record.

Aliases make it possible to write a huge value on few lines and a value that is part of itself. So
nesting is limited, and the state of a reader is the number of aliases that it may still follow.
-/

namespace ConnectorCatalog.Yaml

/-- The value of a node, as far as readers tell values apart. -/
inductive Value where
  | null
  | bool
  /-- A natural number below 2^64. -/
  | natural (n : Nat)
  /-- Any other number. -/
  | number
  | text (s : String)
  | sequence (items : List Value)
  | mapping (entries : List (Value × Value))
deriving Repr, Inhabited

/-- The nodes with anchors in a document. -/
abbrev Anchored := List (Nat × Node)

/-- A reader, with the number of aliases that may still be followed. -/
abbrev Reader := StateT Nat Option

/-- The number of collections that may be nested. -/
def maxDepth : Nat := 128

/-- The number of aliases that may be followed for each part of a document. -/
def aliasFactor : Nat := 100

namespace Node

/-- The node that an alias names, or the node itself. -/
def follow (anchored : Anchored) : Node → Reader Node
  | reference number => do
    match ← get with
    | 0 => failure
    | left + 1 =>
      set left
      match (anchored.filter (·.1 == number)).getLast? with
      | some (_, node) => return node
      | none => failure
  | node => return node

/-! ### Resolving values -/

/-- A tag that the schema of YAML defines. -/
def schemaTag (name : String) : Bytes := Text.utf8 ("tag:yaml.org,2002:" ++ name)

/-- Whether a tag is the document's own: it begins with an exclamation mark. -/
def isLocalTag : Option Bytes → Bool
  | some (33 :: rest) => (Text.ofUtf8? rest).isSome
  | _ => false

/-- The value of an integer. Nothing is read into one beyond the bounds. -/
def ofInteger : Integer → Option Value
  | .natural n => some (.natural n)
  | .negative => some .number
  | .wide => none

/-- The value of a text without quotes and tag. -/
def plainValue (s : String) : Option Value :=
  if s = "" ∨ isNullWord s then some .null
  else if isTruthWord s then some .bool
  else match integer? s with
    | some n => ofInteger n
    | none => if !isPadded s.toList && isFloat s then some .number else some (.text s)

/-- The value of a text with the tag that is given. -/
def taggedValue (tag : Bytes) (s : String) : Option Value :=
  if tag = schemaTag "bool" then if isTruthWord s then some .bool else none
  else if tag = schemaTag "int" then integer? s >>= ofInteger
  else if tag = schemaTag "float" then if isFloat s then some .number else none
  else if tag = schemaTag "null" then if isNullWord s then some .null else none
  else some (.text s)

/-- The value of a text. -/
def scalarValue (mark : Mark) (isPlain : Bool) (s : String) : Option Value :=
  if isLocalTag mark.tag then none
  else match mark.tag with
    | some tag => taggedValue tag s
    | none => if isPlain then plainValue s else some (.text s)

/-- The value of a node with at most `depth` collections in one another. -/
def value (anchored : Anchored) : (depth : Nat) → Node → Reader Value
  | depth, node => do
    match ← node.follow anchored with
    | scalar mark isPlain s => (scalarValue mark isPlain s : Option Value)
    | sequence mark items =>
      match depth with
      | 0 => failure
      | depth + 1 =>
        if isLocalTag mark.tag then failure
        return .sequence (← items.mapM fun item => value anchored depth item)
    | mapping mark entries =>
      match depth with
      | 0 => failure
      | depth + 1 =>
        if isLocalTag mark.tag then failure
        return .mapping (← entries.mapM fun entry => do
          let key ← value anchored depth entry.1
          return (key, ← value anchored depth entry.2))
    | reference _ => failure

/-! ### Reading what is expected -/

/-- The text of a node, whatever it could be read as. -/
def text (anchored : Anchored) (node : Node) : Reader String := do
  match ← node.follow anchored with
  | scalar _ _ s => return s
  | _ => failure

/-- Whether a node says that there is nothing. -/
def isNothing : Node → Option Bool
  | scalar mark true s =>
    match mark.tag with
    | none => some (s == "" || isNullWord s)
    | some tag =>
      if tag = schemaTag "null" then if isNullWord s then some true else none else some false
  | _ => some false

/-- What `read` makes of a node, or none if the node says that there is nothing. -/
def optional {α : Type} (anchored : Anchored) (read : Node → Reader α) (node : Node) :
    Reader (Option α) := do
  let node ← node.follow anchored
  if ← (isNothing node : Option Bool) then return none else return some (← read node)

/-- The node of a name that occurs at most once. -/
def fieldOnce? (entries : List (String × Node)) (name : String) : Option (Option Node) :=
  match entries.filter (·.1 == name) with
  | [] => some none
  | [entry] => some (some entry.2)
  | _ => none

/-- The fields of a record with the given names. Other fields are passed over; a text that is not
written is a record without fields. -/
def fields (anchored : Anchored) (names : List String) (node : Node) :
    Reader (List (Option Node)) := do
  match ← node.follow anchored with
  | mapping _ entries =>
    let entries ← entries.mapM fun entry => do return (← entry.1.text anchored, entry.2)
    (names.mapM (fieldOnce? entries) : Option _)
  | scalar _ true "" => return names.map fun _ => none
  | _ => failure

end Node

end ConnectorCatalog.Yaml
