import ConnectorCatalog.Archive.Unpack
import ConnectorCatalog.Http.Message
import ConnectorCatalog.Services

/-!
# Fetching releases

A release is downloaded into a new file of a scratch directory and unpacked into a directory of its
own below that, which depends on the release alone.

* `extractionDir` is that directory. Each part of a release must be one plain name, so that it stays
  below the scratch directory.
* `fetchRelease` does nothing at all for a release that has no such directory.
-/

namespace ConnectorCatalog

open Http (Network)

/-- The files that a run works on, and the state of the network. -/
structure Machine (σ : Type) where
  files : FileTree
  network : σ

/-- A part of the work on a machine, which may fail. -/
abbrev Work (σ α : Type) := ExceptT Causes (StateM (Machine σ)) α

namespace Archive

/-- Why a release has no directory of its own. -/
inductive ExtractionFault where
  | notPlain (release : ReleaseId) (part : String)
deriving DecidableEq, Repr

/-- The text of a fault. -/
def ExtractionFault.message : ExtractionFault → String
  | notPlain release part =>
    "refusing to extract " ++ release.toText ++ ": '" ++ part ++ "' is not a plain directory name"

/-- The names that make up a release. -/
def parts (release : ReleaseId) : List String :=
  [release.connector.ns, release.connector.name, release.version]

/-- The directory that a release is unpacked into. -/
def extractionDir (scratch : String) (release : ReleaseId) : Except ExtractionFault String :=
  match (parts release).find? (!Path.isPlainName ·) with
  | some part => .error (.notPlain release part)
  | none => .ok ((parts release).foldl Path.append scratch)

variable {σ : Type}

/-- Works on the files of a machine. -/
def onFiles {α : Type} (work : Unpacking Causes α) : Work σ α := fun machine =>
  let (result, files) := work.run machine.files
  (result, { machine with files })

/-- Uses the network of a machine. -/
def onNetwork {α : Type} (work : StateM σ (Except Causes α)) : Work σ α := fun machine =>
  let (result, network) := work.run machine.network
  (result, { machine with network })

/-- Downloads what is found at an address. -/
def download (network : Network σ) (uri : String) : StateM σ (Except Causes Bytes) := do
  match ← network ⟨.get, uri, [], []⟩ with
  | .error causes => return .error (("Error downloading file: " ++ uri) :: causes)
  | .ok response =>
    if response.isSuccess then return .ok response.body
    else return .error ["Error downloading file: HTTP " ++ response.statusText ++ " for " ++ uri]

/-- The name of the nth package in a scratch directory. -/
def packageName (n : Nat) : String :=
  let digits := toString n
  "package-" ++ String.ofList (List.replicate (6 - digits.length) '0') ++ digits ++ ".tgz"

/-- A path in a scratch directory where nothing is. Of more names than the tree has entries one is
free. -/
def freshPath (tree : FileTree) (scratch : String) : String :=
  let paths := (List.range (tree.entries.length + 1)).map fun n =>
    Path.append scratch (packageName n)
  (paths.find? (!tree.reaches ·)).getD (Path.append scratch (packageName tree.entries.length))

/-- Downloads a package into a new file of the scratch directory, which has to be a place of the tree,
given by a relative path.  An absolute one, such as the default below the system's directory for
temporary files, lies outside of the tree (`FileTree.locate`) and keeps nothing here. -/
def downloadPackage (network : Network σ) (scratch uri : String) : Work σ String := do
  onFiles (change ("Failed to create scratch dir: " ++ scratch) (·.createDirs scratch))
  let content ← onNetwork (download network uri)
  let tree := (← get).files
  let path := freshPath tree scratch
  match tree.dirNames? (if scratch = "" then "." else scratch) with
  | some names =>
    let name := (Text.segments path).getLastD ""
    modify fun machine => { machine with files := machine.files.write (names ++ [name]) content }
  | none => throw ["Failed to keep downloaded package"]
  return path

/-- Fetches the release at an address and unpacks it. -/
def fetchRelease (network : Network σ) (scratch uri : String) (release : ReleaseId) :
    Work σ FetchedRelease := do
  match extractionDir scratch release with
  | .error fault => throw [fault.message]
  | .ok directory =>
    let package ← downloadPackage network scratch uri
    onFiles (unpackFile package directory)
    match releaseDocument (← get).files directory with
    | .ok document => return { document, package, directory }
    | .error causes => throw causes

end Archive

end ConnectorCatalog
