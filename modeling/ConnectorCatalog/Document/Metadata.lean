import ConnectorCatalog.Document.Fault
import ConnectorCatalog.Identity
import ConnectorCatalog.Json.Reader
import ConnectorCatalog.Json.Record

/-!
# Connector metadata

The document `metadata.json` of a connector: what the catalogue shows of it, who wrote it and where
its source code is. Whatever is missing is empty or false.
-/

namespace ConnectorCatalog

/-- What the catalogue shows of a connector. -/
structure Overview where
  ns : String
  name : Option String
  title : String
  description : String
  logo : String
  tags : List String
  latestVersion : String
deriving DecidableEq, Repr, Inhabited

/-- Who is responsible for a connector. -/
structure Author where
  supportEmail : String
  homepage : String
  name : String
deriving DecidableEq, Repr, Inhabited

/-- Where the source code of a connector is. -/
structure SourceCode where
  isOpenSource : Bool
  repository : String
deriving DecidableEq, Repr, Inhabited

/-- The description of a connector. -/
structure ConnectorMetadata where
  overview : Overview
  author : Author
  isVerified : Bool
  isHosted : Bool
  hubConnector : Option Identity
  sourceCode : SourceCode
deriving DecidableEq, Repr, Inhabited

/-- The overview that a JSON value stands for. -/
def Overview.ofJson? (value : Json) : Option Overview := do
  let [ns, name, title, description, logo, tags, latest] ← value.members?
    ["namespace", "name", "title", "description", "logo", "tags", "latest_version"] 0 | none
  return {
    ns := ← Json.withDefault Json.text? "" ns
    name := ← Json.optional Json.text? name
    title := ← Json.withDefault Json.text? "" title
    description := ← Json.withDefault Json.text? "" description
    logo := ← Json.withDefault Json.text? "" logo
    tags := ← Json.withDefault (Json.items? Json.text?) [] tags
    latestVersion := ← Json.withDefault Json.text? "" latest }

/-- The author that a JSON value stands for. -/
def Author.ofJson? (value : Json) : Option Author := do
  let [supportEmail, homepage, name] ←
    value.members? ["support_email", "homepage", "name"] 0 | none
  return ⟨← Json.withDefault Json.text? "" supportEmail, ← Json.withDefault Json.text? "" homepage,
    ← Json.withDefault Json.text? "" name⟩

/-- The source code record that a JSON value stands for. -/
def SourceCode.ofJson? (value : Json) : Option SourceCode := do
  let [isOpenSource, repository] ← value.members? ["is_open_source", "repository"] 0 | none
  return ⟨← Json.withDefault Json.truth? false isOpenSource,
    ← Json.withDefault Json.text? "" repository⟩

namespace ConnectorMetadata

/-- The reference to a connector that a JSON value stands for. -/
def reference? (value : Json) : Option Identity := do
  let [ns, name] ← value.members? ["namespace", "name"] 0 | none
  return ⟨← Json.withDefault Json.text? "" ns, ← Json.withDefault Json.text? "" name⟩

/-- The metadata that a JSON value stands for. -/
def ofJson? (value : Json) : Option ConnectorMetadata := do
  let [overview, author, isVerified, isHosted, hubConnector, sourceCode] ← value.members?
    ["overview", "author", "is_verified", "is_hosted_by_hasura", "hasura_hub_connector",
      "source_code"] 0 | none
  return {
    overview := ← Json.withDefault Overview.ofJson? default overview
    author := ← Json.withDefault Author.ofJson? default author
    isVerified := ← Json.withDefault Json.truth? false isVerified
    isHosted := ← Json.withDefault Json.truth? false isHosted
    hubConnector := ← Json.optional reference? hubConnector
    sourceCode := ← Json.withDefault SourceCode.ofJson? default sourceCode }

/-- The metadata that a text stands for. -/
def ofText? (text : String) : Option ConnectorMetadata := Json.parse? text >>= ofJson?

/-- The name of this kind of document in messages. -/
def noun : String := "connector metadata"

/-- The metadata in the file at a path. -/
def load (tree : FileTree) (path : String) : Except DocumentFault ConnectorMetadata :=
  Document.load noun ofText? tree path

end ConnectorMetadata

end ConnectorCatalog
