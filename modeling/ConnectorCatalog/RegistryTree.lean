import ConnectorCatalog.Classify
import ConnectorCatalog.Files.Access

/-!
# The registry tree

The files below the directory `registry` of a repository. `RegistryTree.files` is a walk through
them; the directory of connectors that only rename others is left out.
-/

namespace ConnectorCatalog

/-- Why there is no registry tree. -/
inductive RegistryFault where
  | noFolder (path : String)
deriving DecidableEq, Repr

/-- The text of a fault. -/
def RegistryFault.message : RegistryFault → String
  | noFolder path => "registry folder does not exist: " ++ path

/-- A file of the registry tree. -/
structure RegistryFile where
  /-- The names on the way from the registry directory to the file. -/
  names : List String
  content : Bytes
deriving DecidableEq, Repr

namespace RegistryTree

/-- The name of the directory that holds the tree. -/
def folder : String := "registry"

/-- The path of the directory that holds the tree of a repository. -/
def root (repo : String) : String := Path.append repo folder

/-- The place of the directory that holds the tree of a repository. -/
def find (tree : FileTree) (repo : String) : Except RegistryFault (List String) :=
  match tree.dirNames? (root repo) with
  | some names => .ok names
  | none => .error (.noFolder (root repo))

/-- An entry as a file that is walked to. -/
def file? (entry : List String × FileEntry) : Option RegistryFile :=
  match entry.2 with
  | .file content => if entry.1.contains aliasDir then none else some ⟨entry.1, content⟩
  | _ => none

/-- The files of a repository's registry tree in the order of a walk. -/
def files (tree : FileTree) (repo : String) : Except RegistryFault (List RegistryFile) :=
  match find tree repo with
  | .ok names => .ok ((tree.below names).filterMap file?)
  | .error fault => .error fault

end RegistryTree

namespace RegistryFile

/-- The name of the file itself. -/
def name (file : RegistryFile) : String := file.names.getLastD ""

/-- The name of the directory that holds the file. -/
def directory (file : RegistryFile) : String := file.names.dropLast.getLastD RegistryTree.folder

/-- The path of the file from the repository's directory. -/
def path (file : RegistryFile) : String := Text.joinTexts "/" (RegistryTree.folder :: file.names)

/-- The path of the file as the walk finds it. -/
def foundAt (file : RegistryFile) (repo : String) : String :=
  Path.append (RegistryTree.root repo) (Text.joinTexts "/" file.names)

/-- The text of the file. -/
def text (file : RegistryFile) : Except ReadFault String :=
  match Text.ofUtf8? file.content with
  | some text => .ok text
  | none => .error .notUtf8

end RegistryFile

end ConnectorCatalog
