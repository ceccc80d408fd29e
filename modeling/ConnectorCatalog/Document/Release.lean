import ConnectorCatalog.Keyed
import ConnectorCatalog.Text.Order
import ConnectorCatalog.Yaml.Value

/-!
# Release documents

The document that a release carries in its package. It says how the release is packaged and run,
and which container images it refers to.

* `ReleaseDocument.ofText?` reads it from YAML.
* `ReleaseDocument.images` lists its images in order, each once.
-/

namespace ConnectorCatalog

open Yaml (Node Anchored Reader)

/-- How a release is packaged. -/
structure PackagingDefinition where
  kind : String
  image : Option String
deriving DecidableEq, Repr, Inhabited

/-- The plugin that the command line loads for a release. -/
structure CliPlugin where
  kind : Option String
  image : Option String
  name : Option String
  version : Option String
deriving DecidableEq, Repr, Inhabited

/-- How one of the commands of a release is run. -/
inductive Command where
  | inline (script : String)
  | typed (kind : String) (image : Option String)
deriving DecidableEq, Repr

/-- The commands of a release. -/
structure Commands where
  update : Option Command
  watch : Option Command
  printSchema : Option Command
  upgrade : Option Command
deriving DecidableEq, Repr, Inhabited

/-- What a release says of itself. -/
structure ReleaseDocument where
  /-- The generation of the packaging rules. -/
  generation : Option String
  specGeneration : Option String
  packaging : Option PackagingDefinition
  plugin : Option CliPlugin
  commands : Commands
  documentationPage : Option String
deriving DecidableEq, Repr, Inhabited

/-! ### Reading -/

namespace Yaml.Node

/-- A field that stands for nothing when it is missing. -/
def optionalField {α : Type} (anchored : Anchored) (read : Node → Reader α) :
    Option Node → Reader (Option α)
  | some node => node.optional anchored read
  | none => return none

/-- A field that has a text when it is missing. -/
def textField (anchored : Anchored) : Option Node → Reader String
  | some node => node.text anchored
  | none => return ""

end Yaml.Node

namespace PackagingDefinition

/-- The packaging that a node stands for. -/
def ofNode (anchored : Anchored) (node : Node) : Reader PackagingDefinition := do
  let [kind, image] ← node.fields anchored ["type", "dockerImage"] | failure
  return ⟨← Node.textField anchored kind,
    ← Node.optionalField anchored (·.text anchored) image⟩

end PackagingDefinition

namespace CliPlugin

/-- The plugin that a node stands for. -/
def ofNode (anchored : Anchored) (node : Node) : Reader CliPlugin := do
  let [kind, image, name, version] ←
    node.fields anchored ["type", "dockerImage", "name", "version"] | failure
  let text := Node.optionalField anchored (·.text anchored)
  return ⟨← text kind, ← text image, ← text name, ← text version⟩

end CliPlugin

namespace Command

/-- A member of a typed command. -/
inductive Member where
  | kind | image | other
deriving DecidableEq

/-- The member with a key: a name, or a number from zero on. -/
def member? : Yaml.Value → Option Member
  | .text "type" => some .kind
  | .text "dockerImage" => some .image
  | .text _ => some .other
  | .natural 0 => some .kind
  | .natural 1 => some .image
  | .natural _ => some .other
  | _ => none

/-- The command that a value stands for. -/
def ofValue? : Yaml.Value → Option Command
  | .text script => some (.inline script)
  | .mapping entries => do
    let members : List (Member × Yaml.Value) ←
      entries.mapM fun entry => do return (← member? entry.1, entry.2)
    match members.filter (·.1 = .kind), members.filter (·.1 = .image) with
    | [(_, .text kind)], [] => some (.typed kind none)
    | [(_, .text kind)], [(_, .null)] => some (.typed kind none)
    | [(_, .text kind)], [(_, .text image)] => some (.typed kind (some image))
    | _, _ => none
  | _ => none

/-- The command that a node stands for, within a record of records. -/
def ofNode (anchored : Anchored) (node : Node) : Reader Command := do
  let value ← node.value anchored (Yaml.maxDepth - 2)
  (ofValue? value : Option Command)

/-- The container image that a command runs in. -/
def image? : Command → Option String
  | typed "Dockerized" (some image) => if image = "" then none else some image
  | _ => none

end Command

namespace Commands

/-- The commands that a node stands for. -/
def ofNode (anchored : Anchored) (node : Node) : Reader Commands := do
  let [update, watch, printSchema, upgrade] ← node.fields anchored
    ["update", "watch", "printSchemaAndCapabilities", "upgradeConfiguration"] | failure
  let command := Node.optionalField anchored (Command.ofNode anchored)
  return ⟨← command update, ← command watch, ← command printSchema, ← command upgrade⟩

/-- All commands that there are. -/
def toList (c : Commands) : List Command :=
  c.update.toList ++ c.watch.toList ++ c.printSchema.toList ++ c.upgrade.toList

end Commands

namespace ReleaseDocument

/-- The place of the document in a package. -/
def path : String := ".hasura-connector/connector-metadata.yaml"

/-- The generation of packages that are not published. -/
def unsupportedGeneration : String := "v2"

/-- The kind of packaging that consists of a container image. -/
def prebuiltImage : String := "PrebuiltDockerImage"

/-- The kind of packaging that is built where it runs. -/
def managedBuild : String := "ManagedDockerBuild"

/-- The document that a node stands for. -/
def ofNode (anchored : Anchored) (node : Node) : Reader ReleaseDocument := do
  let [generation, specGeneration, packaging, plugin, commands, page] ← node.fields anchored
    ["version", "ndcSpecGeneration", "packagingDefinition", "cliPlugin", "commands",
      "documentationPage"] | failure
  let text := Node.optionalField anchored (·.text anchored)
  return {
    generation := ← text generation
    specGeneration := ← text specGeneration
    packaging := ← Node.optionalField anchored (PackagingDefinition.ofNode anchored) packaging
    plugin := ← Node.optionalField anchored (CliPlugin.ofNode anchored) plugin
    commands := ← match commands with
      | some node => Commands.ofNode anchored node
      | none => pure default
    documentationPage := ← text page }

/-- The document that a text stands for. -/
def ofText? (content : String) : Option ReleaseDocument := do
  let node ← Node.ofText? content
  (ofNode node.anchors node).run' (Yaml.aliasFactor * node.size)

/-- Whether the release is of the generation that is not published. -/
def isUnsupported (d : ReleaseDocument) : Bool := d.generation == some unsupportedGeneration

/-- The image of a packaging, if the packaging consists of one. -/
def packagingImage? (d : ReleaseDocument) : Option String := do
  let packaging ← d.packaging
  if packaging.kind = prebuiltImage then packaging.image.filter (· != "") else none

/-- The image of the plugin, if it consists of one. -/
def pluginImage? (d : ReleaseDocument) : Option String := do
  let plugin ← d.plugin
  if plugin.kind = some "Docker" then plugin.image.filter (· != "") else none

/-- All images that the release refers to, in order and each once. -/
def images (d : ReleaseDocument) : List String :=
  (d.packagingImage?.toList ++ d.pluginImage?.toList ++ d.commands.toList.filterMap (·.image?))
    |>.foldl (fun images image => Keyed.insert Text.compareTexts image images) []

end ReleaseDocument

end ConnectorCatalog
