import ConnectorCatalog.Files.Access

/-!
# Reading documents

A document is the text of a file that stands for a value. `Document.load` reads one; it fails when
the file cannot be read and when its text stands for nothing.
-/

namespace ConnectorCatalog

/-- Why there is no document. -/
inductive DocumentFault where
  | unreadable (noun path : String) (fault : ReadFault)
  | malformed (noun path : String)
deriving DecidableEq, Repr

/-- The messages of a fault, outermost first. -/
def DocumentFault.causes : DocumentFault → List String
  | unreadable noun path fault => ["Failed to read " ++ noun ++ ": " ++ path, fault.message]
  | malformed noun path =>
    ["Failed to parse " ++ noun ++ ": " ++ path, "the text does not have the expected form"]

/-- The document called `noun` in a file that has been opened, as `parse?` reads it. -/
def Document.ofContent {α : Type} (noun : String) (parse? : String → Option α) (path : String) :
    Except ReadFault String → Except DocumentFault α
  | .error fault => .error (.unreadable noun path fault)
  | .ok text =>
    match parse? text with
    | some document => .ok document
    | none => .error (.malformed noun path)

/-- The document called `noun` in the file at a path. -/
def Document.load {α : Type} (noun : String) (parse? : String → Option α) (tree : FileTree)
    (path : String) : Except DocumentFault α :=
  Document.ofContent noun parse? path (tree.readText path)

end ConnectorCatalog
