import ConnectorCatalog.Document.Fault
import ConnectorCatalog.Json.Reader
import ConnectorCatalog.Json.Record

/-!
# Packaging descriptors

The document `connector-packaging.json` of a release: its version, where its package is found, the
checksum of the package and, for the test run, the path of a test config. Whatever is missing is
empty.
-/

namespace ConnectorCatalog

/-- The checksum that a package is declared to have. -/
structure Checksum where
  /-- The name of the digest. -/
  kind : String
  value : String
deriving DecidableEq, Repr, Inhabited

/-- The description of a release's package. -/
structure PackagingDescriptor where
  version : String
  uri : String
  checksum : Checksum
  sourceHash : String
  /-- The path of the test config from the descriptor's directory; empty if there is none. -/
  testConfig : String
deriving DecidableEq, Repr, Inhabited

/-- The checksum that a JSON value stands for. -/
def Checksum.ofJson? (value : Json) : Option Checksum := do
  let [kind, sum] ← value.members? ["type", "value"] 0 | none
  return ⟨← Json.withDefault Json.text? "" kind, ← Json.withDefault Json.text? "" sum⟩

namespace PackagingDescriptor

/-- The text in a record with the single member `key`. -/
def soleText? (key : String) (value : Json) : Option String := do
  let [member] ← value.members? [key] 0 | none
  Json.withDefault Json.text? "" member

/-- The descriptor that a JSON value stands for. -/
def ofJson? (value : Json) : Option PackagingDescriptor := do
  let [version, uri, checksum, source, test] ←
    value.members? ["version", "uri", "checksum", "source", "test"] 0 | none
  return {
    version := ← Json.withDefault Json.text? "" version
    uri := ← Json.withDefault Json.text? "" uri
    checksum := ← Json.withDefault Checksum.ofJson? ⟨"", ""⟩ checksum
    sourceHash := ← Json.withDefault (soleText? "hash") "" source
    testConfig := ← Json.withDefault (soleText? "test_config_path") "" test }

/-- The descriptor that a text stands for. -/
def ofText? (text : String) : Option PackagingDescriptor := Json.parse? text >>= ofJson?

/-- The name of this kind of document in messages. -/
def noun : String := "packaging file"

/-- The descriptor in the file at a path. -/
def load (tree : FileTree) (path : String) : Except DocumentFault PackagingDescriptor :=
  Document.load noun ofText? tree path

/-- The path of the test config that the descriptor at `path` names, if it names one. -/
def testConfigPath? (descriptor : PackagingDescriptor) (path : String) : Option String :=
  if descriptor.testConfig = "" then none
  else some (Path.append (Path.parent path) descriptor.testConfig)

end PackagingDescriptor

end ConnectorCatalog
