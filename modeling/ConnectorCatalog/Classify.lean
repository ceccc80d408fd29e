import ConnectorCatalog.Change
import ConnectorCatalog.Text.Segment

/-!
# Classification of changed files

A path of a diff is understood by its segments.

| Path | Operation |
|---|---|
| `registry/<ns>/<name>/metadata.json` | connector metadata |
| `registry/<ns>/<name>/logo.png`, `logo.svg` | logo |
| `registry/<ns>/<name>/README.md` | documentation |
| `registry/<ns>/<name>/releases/<version>/connector-packaging.json` | release |

* `normalize` fixes the spelling of a path, `recognize?` reads its segments by the table above.
* `classify` gives the change that one path asks for. Paths of other shapes are passed over; the
  packaging file of a release must not be modified.
* `classifyAll` goes through the added and then the modified files and stops at the first fault.
-/

namespace ConnectorCatalog

/-- Why a diff is refused. -/
inductive ClassifyFault where
  | immutableRelease (path : String) (release : ReleaseId)
  | duplicateConnector (path : String) (connector : Identity)
deriving DecidableEq, Repr

namespace ClassifyFault

/-- The file at fault. -/
def path : ClassifyFault → String
  | immutableRelease path _ => path
  | duplicateConnector path _ => path

/-- The text of a fault. -/
def message : ClassifyFault → String
  | immutableRelease path release =>
    path ++ ": connector packaging files are immutable and must not be changed (" ++
      release.toText ++ ")"
  | duplicateConnector path connector =>
    path ++ ": connector " ++ connector.toText ++ " is added more than once in this change set"

end ClassifyFault

/-! ### Paths of the registry tree -/

/-- The directory of connectors that only rename others. Nothing below it is published. -/
def aliasDir : String := "aliased_connectors"

/-- The name of the file that describes a release. -/
def packagingFile : String := "connector-packaging.json"

/-- The name of the file that describes a connector. -/
def metadataFile : String := "metadata.json"

/-- What a path of the registry tree holds. -/
inductive RegistryItem where
  | metadata
  | logo (format : LogoFormat)
  | readme
  | packaging (version : String)
deriving DecidableEq, Repr

/-- The item in a connector's own directory with a file name. -/
def RegistryItem.ofFileName? (file : String) : Option RegistryItem :=
  if file = "metadata.json" then some .metadata
  else if file = "README.md" then some .readme
  else do
    let extension ← Text.stripStart? "logo." file
    return .logo (← LogoFormat.ofExtension? extension)

/-- The segments of an item below the registry directory of its connector. -/
def RegistryItem.segments : RegistryItem → List String
  | metadata => ["metadata.json"]
  | logo format => ["logo." ++ format.extension]
  | readme => ["README.md"]
  | packaging version => ["releases", version, packagingFile]

/-- Backslashes as slashes. -/
def slashed (path : String) : String :=
  String.ofList (path.toList.map fun c => if c = '\\' then '/' else c)

/-- The spelling of a path by which it is understood: slashes only, and one leading `./` less. -/
def normalize (path : String) : String :=
  (Text.stripStart? "./" (slashed path)).getD (slashed path)

/-- Segments that no published path holds. -/
def isReserved (segment : String) : Bool :=
  segment == aliasDir || segment == "." || segment == ".."

/-- The connector and the item that segments name. -/
def recognize? : List String → Option (Identity × RegistryItem)
  | ["registry", ns, name, file] =>
    if ns = "" ∨ name = "" then none
    else (RegistryItem.ofFileName? file).map fun item => (⟨ns, name⟩, item)
  | ["registry", ns, name, "releases", version, "connector-packaging.json"] =>
    if ns = "" ∨ name = "" ∨ version = "" then none
    else some (⟨ns, name⟩, .packaging version)
  | _ => none

/-! ### Changes -/

/-- The change that an item asks for. -/
def changeOf (path : String) (origin : Origin) (connector : Identity) :
    RegistryItem → Except ClassifyFault Change
  | .metadata => .ok ⟨connector, .metadata origin, path⟩
  | .logo format => .ok ⟨connector, .logo origin format, path⟩
  | .readme => .ok ⟨connector, .readme origin, path⟩
  | .packaging version =>
    match origin with
    | .added => .ok ⟨connector, .release version, path⟩
    | .modified => .error (.immutableRelease path ⟨connector, version⟩)

/-- The change that a path asks for, none if it is outside the table. -/
def classify (path : String) (origin : Origin) : Except ClassifyFault (Option Change) :=
  let path := normalize path
  let segments := Text.segments path
  if segments.any isReserved then .ok none
  else match recognize? segments with
    | none => .ok none
    | some (connector, item) => (changeOf path origin connector item).map some

/-- The changes that the paths of one list ask for, up to the first fault. -/
def classifyList (origin : Origin) : List String → Except ClassifyFault (List Change)
  | [] => return []
  | path :: rest => do
    let change? ← classify path origin
    let changes ← classifyList origin rest
    return change?.toList ++ changes

/-- The changes of a diff: those of the added files, then those of the modified ones. -/
def classifyAll (files : ChangedFiles) : Except ClassifyFault (List Change) := do
  let added ← classifyList .added files.added
  let modified ← classifyList .modified files.modified
  return added ++ modified

/-! ### Added releases -/

/-- A release whose packaging file a diff adds. -/
structure AddedRelease where
  id : ReleaseId
  packagingPath : String
deriving DecidableEq, Repr

/-- The release that an added path makes. -/
def addedRelease? (path : String) : Option AddedRelease :=
  match classify path .added with
  | .ok (some ⟨connector, .release version, path⟩) => some ⟨⟨connector, version⟩, path⟩
  | _ => none

/-- Releases by connector, then by version. -/
def AddedRelease.compare (a b : AddedRelease) : Ordering :=
  (Identity.compare a.id.connector b.id.connector).then
    (ReleaseVersion.compare a.id.version b.id.version)

/-- A list without repetitions of a member directly behind it. -/
def dropRepeats {α : Type} [DecidableEq α] : List α → List α
  | a :: b :: rest => if a = b then dropRepeats (b :: rest) else a :: dropRepeats (b :: rest)
  | items => items

/-- The releases that a diff adds, by connector and version. The modified and deleted files are
not looked at. -/
def addedReleases (files : ChangedFiles) : List AddedRelease :=
  dropRepeats (Text.sortBy AddedRelease.compare (files.added.filterMap addedRelease?))

end ConnectorCatalog
