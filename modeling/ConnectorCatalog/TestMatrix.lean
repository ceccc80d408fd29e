import ConnectorCatalog.Causes
import ConnectorCatalog.Document.Diff
import ConnectorCatalog.Document.Metadata
import ConnectorCatalog.Document.Packaging
import ConnectorCatalog.RegistryTree

/-!
# The test matrix

The releases that the end-to-end tests are to run, each with the path of its test config from the
repository's directory.

| Selection | Releases | A release without test config |
|---|---|---|
| `changedTargets` | those that a diff adds | is a fault |
| `allTargets` | all of the registry tree | is left out |
| `latestTargets` | the latest one of each connector | is left out |
-/

namespace ConnectorCatalog

/-- A release to test. -/
structure TestTarget where
  release : ReleaseId
  testConfig : String
deriving DecidableEq, Repr

/-- The line of the matrix for a release. -/
def TestTarget.toJson (t : TestTarget) : Json :=
  .obj [("namespace", .str t.release.connector.ns), ("connector_name", .str t.release.connector.name),
    ("version", .str t.release.version), ("test_config_file_path", .str t.testConfig)]

/-- Why there is no test matrix. -/
inductive TestMatrixFault where
  | registry (fault : RegistryFault)
  | document (fault : DocumentFault)
  | classification (fault : ClassifyFault)
  | noTestConfig (path : String)
  | outside (path : String) (fault : Path.CleanFault)
deriving DecidableEq, Repr

/-- The messages of a fault, outermost first. -/
def TestMatrixFault.causes : TestMatrixFault → Causes
  | registry fault => [fault.message]
  | document fault => fault.causes
  | classification fault => [fault.message]
  | noTestConfig path =>
    ["test config must be provided for all new connector releases. No test config found for " ++
      path]
  | outside path fault =>
    [path ++ ": test config path leaves the repository", fault.message]

/-- The path of a test config that is named in the packaging file at `path`. -/
def testConfigOf (path testConfig : String) : Except TestMatrixFault String :=
  match Path.clean testConfig with
  | .ok names => .ok (slashed (Text.joinTexts "/" names))
  | .error fault => .error (.outside path fault)

/-- The target for a release with its packaging file at `path`, if that names a test config. -/
def targetFor? (tree : FileTree) (repo : String) (release : ReleaseId) (path : String) :
    Except TestMatrixFault (Option TestTarget) :=
  match PackagingDescriptor.load tree (Path.append repo path) with
  | .error fault => .error (.document fault)
  | .ok descriptor =>
    match descriptor.testConfigPath? path with
    | none => .ok none
    | some testConfig => (testConfigOf path testConfig).map fun config => some ⟨release, config⟩

/-- The targets for members of a list, one after the other up to the first fault. -/
def collectTargets {α : Type} (target? : α → Except TestMatrixFault (Option TestTarget)) :
    List α → Except TestMatrixFault (List TestTarget)
  | [] => .ok []
  | a :: rest => do
    let first ← target? a
    return first.toList ++ (← collectTargets target? rest)

/-! ### The releases of a diff -/

/-- The target for an added release. -/
def addedTarget (tree : FileTree) (repo : String) (added : AddedRelease) :
    Except TestMatrixFault (Option TestTarget) := do
  match ← targetFor? tree repo added.id added.packagingPath with
  | some target => return some target
  | none => throw (.noTestConfig added.packagingPath)

/-- The targets for the releases that a diff adds. -/
def changedTargets (tree : FileTree) (repo : String) (files : ChangedFiles) :
    Except TestMatrixFault (List TestTarget) :=
  collectTargets (addedTarget tree repo) (addedReleases files)

/-! ### All releases -/

/-- The release that a file of the registry tree describes. -/
def releaseAt? (file : RegistryFile) : Except TestMatrixFault (Option AddedRelease) :=
  if file.name != packagingFile then .ok none
  else match classify (slashed file.path) .added with
    | .error fault => .error (.classification fault)
    | .ok (some ⟨connector, .release version, path⟩) => .ok (some ⟨⟨connector, version⟩, path⟩)
    | .ok _ => .ok none

/-- The releases that files of the registry tree describe. -/
def releasesAt : List RegistryFile → Except TestMatrixFault (List AddedRelease)
  | [] => .ok []
  | file :: rest => do
    let first ← releaseAt? file
    return first.toList ++ (← releasesAt rest)

/-- The targets for all releases of the registry tree. -/
def allTargets (tree : FileTree) (repo : String) : Except TestMatrixFault (List TestTarget) :=
  match RegistryTree.files tree repo with
  | .error fault => .error (.registry fault)
  | .ok files => do
    let releases ← releasesAt files
    collectTargets (fun release => targetFor? tree repo release.id release.packagingPath)
      (Text.sortBy AddedRelease.compare releases)

/-! ### The latest releases -/

/-- The names of the directories in a directory, in their order. -/
def subdirectories (tree : FileTree) (names : List String) : List String :=
  (tree.below names).filterMap fun
    | ([name], .dir) => some name
    | _ => none

/-- The connectors that have a directory in the registry tree, in their order. -/
def connectorDirectories (tree : FileTree) (names : List String) : List Identity :=
  ((subdirectories tree names).filter (· != aliasDir)).flatMap fun ns =>
    (subdirectories tree (names ++ [ns])).map fun name => ⟨ns, name⟩

/-- The path of a release's packaging file from the repository's directory. -/
def packagingPath (release : ReleaseId) : String :=
  Text.joinTexts "/" [RegistryTree.folder, release.connector.ns, release.connector.name, "releases",
    release.version, packagingFile]

/-- The target for the latest release of a connector. -/
def latestTarget? (tree : FileTree) (repo : String) (connector : Identity) :
    Except TestMatrixFault (Option TestTarget) :=
  let dir := Path.append (Path.append (RegistryTree.root repo) connector.ns) connector.name
  let path := Path.append dir metadataFile
  if !tree.isFile path then .ok none
  else match ConnectorMetadata.load tree path with
    | .error fault => .error (.document fault)
    | .ok metadata =>
      let release : ReleaseId := ⟨connector, metadata.overview.latestVersion⟩
      if release.version = "" then .ok none
      else if !tree.isFile (Path.append repo (packagingPath release)) then .ok none
      else targetFor? tree repo release (packagingPath release)

/-- The targets for the latest releases of all connectors. -/
def latestTargets (tree : FileTree) (repo : String) : Except TestMatrixFault (List TestTarget) :=
  match RegistryTree.find tree repo with
  | .error fault => .error (.registry fault)
  | .ok names => collectTargets (latestTarget? tree repo) (connectorDirectories tree names)

end ConnectorCatalog
