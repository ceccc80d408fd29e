import ConnectorCatalog.Change
import ConnectorCatalog.Document.Fault
import ConnectorCatalog.Json.Reader
import ConnectorCatalog.Json.Record

/-!
# The document of changed files

A diff is handed over as a JSON record with three lists of paths, each of which may be missing.
-/

namespace ConnectorCatalog.ChangedFiles

/-- The diff that a JSON value stands for. -/
def ofJson? (value : Json) : Option ChangedFiles := do
  let [added, modified, deleted] ←
    value.members? ["added_files", "modified_files", "deleted_files"] 0 | none
  let paths := Json.withDefault (Json.items? Json.text?) []
  return ⟨← paths added, ← paths modified, ← paths deleted⟩

/-- The diff that a text stands for. -/
def ofText? (text : String) : Option ChangedFiles := Json.parse? text >>= ofJson?

/-- The diff in the file at a path. -/
def load (tree : FileTree) (path : String) : Except DocumentFault ChangedFiles :=
  Document.load "changed files" ofText? tree path

end ConnectorCatalog.ChangedFiles
