import ConnectorCatalog.Preflight.Rules
import ConnectorCatalog.RegistryTree

/-!
# Validation of a registry tree

Every packaging file and every connector's metadata in a registry tree is held to the rules; a
problem in one file does not hide a problem in another. The latest versions are looked at when all
releases are known.

Packages are fetched and held to their checksums only if there is something to fetch them with.
-/

namespace ConnectorCatalog

/-- What a validation has found. -/
structure ValidationReport where
  packagingFiles : Nat
  metadataFiles : Nat
  issues : List Issue
deriving DecidableEq, Repr

/-- A way to get the content at an address. -/
abbrev Download (σ : Type) := String → StateM σ (Except Causes Bytes)

namespace RegistryFile

/-- Whether the file describes a release. -/
def isPackaging (file : RegistryFile) : Bool := file.name == packagingFile

/-- Whether the file describes a connector: it stands in the connector's own directory. -/
def isMetadata (file : RegistryFile) : Bool :=
  file.name == metadataFile && file.names.length == 3

/-- The connector two directories above the file's own, whose releases are found there. -/
def releaseOwner? (file : RegistryFile) : Option Identity :=
  match file.names with
  | [ns, name, _, _, _] => some ⟨ns, name⟩
  | _ => none

/-- The connector in whose own directory the file stands. -/
def connector? (file : RegistryFile) : Option Identity :=
  match file.names with
  | [ns, name, _] => some ⟨ns, name⟩
  | _ => none

/-- The packaging descriptor in the file. -/
def packaging (file : RegistryFile) (repo : String) : Except DocumentFault PackagingDescriptor :=
  Document.ofContent PackagingDescriptor.noun PackagingDescriptor.ofText? (file.foundAt repo)
    file.text

/-- The metadata in the file. -/
def metadata (file : RegistryFile) (repo : String) : Except DocumentFault ConnectorMetadata :=
  Document.ofContent ConnectorMetadata.noun ConnectorMetadata.ofText? (file.foundAt repo) file.text

/-- What is wrong with the test config that a packaging descriptor names. -/
def testConfigIssues (file : RegistryFile) (tree : FileTree) (repo : String)
    (descriptor : PackagingDescriptor) : List Issue :=
  match descriptor.testConfigPath? (file.foundAt repo) with
  | none => []
  | some path =>
    match tree.readText path with
    | .ok text => (TestConfig.findingsOf text).map (Issue.mk path)
    | .error fault => [⟨file.path, .unreadableTestConfig path fault⟩]

/-- What is wrong with a packaging file, its package aside. -/
def packagingIssues (file : RegistryFile) (tree : FileTree) (repo : String)
    (descriptor : PackagingDescriptor) : List Issue :=
  (descriptor.findings file.directory).map (Issue.mk file.path) ++
    file.testConfigIssues tree repo descriptor

/-- What is wrong with a connector's metadata file in itself. -/
def metadataIssues (file : RegistryFile) (repo : String) : List Issue :=
  match file.metadata repo with
  | .ok _ => []
  | .error fault => [⟨file.path, .document fault⟩]

end RegistryFile

variable {σ : Type}

/-- What is wrong with the package that a descriptor names. -/
def checksumFinding? (download? : Option (Download σ)) (descriptor : PackagingDescriptor) :
    StateM σ (Option Finding) :=
  match download? with
  | none => return none
  | some download => do
    match ← download descriptor.uri with
    | .error causes => return some (.notDownloaded causes)
    | .ok content =>
      match descriptor.checksum.verify content with
      | .ok () => return none
      | .error fault => return some (.checksum fault)

namespace RegistryFile

/-- What is wrong with a file. -/
def issues (download? : Option (Download σ)) (tree : FileTree) (repo : String)
    (file : RegistryFile) : StateM σ (List Issue) := do
  if file.isPackaging then
    match file.packaging repo with
    | .error fault => return [⟨file.path, .document fault⟩]
    | .ok descriptor =>
      let finding? ← checksumFinding? download? descriptor
      return file.packagingIssues tree repo descriptor ++
        (finding?.map (Issue.mk file.path)).toList
  else if file.isMetadata then return file.metadataIssues repo
  else return []

end RegistryFile

/-- What is wrong with files, one after the other. -/
def fileIssues (download? : Option (Download σ)) (tree : FileTree) (repo : String) :
    List RegistryFile → StateM σ (List Issue)
  | [] => return []
  | file :: rest => do
    let first ← file.issues download? tree repo
    return first ++ (← fileIssues download? tree repo rest)

/-- The names of a connector's release directories. -/
def releaseDirectories (files : List RegistryFile) (connector : Identity) : List String :=
  (files.filter fun file => file.isPackaging && file.releaseOwner? == some connector).map
    (·.directory)

/-- What is wrong with the latest version that a connector's metadata file declares. -/
def latestIssue? (repo : String) (files : List RegistryFile) (file : RegistryFile) :
    Option Issue := do
  let connector ← if file.isMetadata then file.connector? else none
  let metadata ← (file.metadata repo).toOption
  let finding ← latestFinding? metadata.overview.latestVersion (releaseDirectories files connector)
  return ⟨file.path, finding⟩

/-- Validates the registry tree of a repository. -/
def validateRegistry (download? : Option (Download σ)) (tree : FileTree) (repo : String) :
    StateM σ (Except RegistryFault ValidationReport) := do
  match RegistryTree.files tree repo with
  | .error fault => return .error fault
  | .ok files =>
    let issues ← fileIssues download? tree repo files
    return .ok {
      packagingFiles := files.countP (·.isPackaging)
      metadataFiles := files.countP (·.isMetadata)
      issues := issues ++ files.filterMap (latestIssue? repo files) }

end ConnectorCatalog
