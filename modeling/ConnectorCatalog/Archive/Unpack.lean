import ConnectorCatalog.Archive.Tar
import ConnectorCatalog.Causes
import ConnectorCatalog.Document.Release
import ConnectorCatalog.Files.Access

/-!
# Unpacking

A bundle is unpacked into a directory. Nothing of it may come to stand outside of that directory:
an entry with `..` in its path is passed over, and a link that leads out is not followed.

* `FileTree.unpackFile` unpacks a compressed bundle into a directory that is made anew. What was
  unpacked before a fault stays.
* `releaseDocument` is the text of the document that an unpacked release carries.
-/

namespace ConnectorCatalog.Archive

/-- Why an entry cannot be unpacked. -/
inductive UnpackFault where
  | broken
  | os (fault : OsFault)
  | outside
  | noTarget
deriving DecidableEq, Repr

/-- The text of a fault. -/
def UnpackFault.message : UnpackFault → String
  | broken => "the archive is broken"
  | os fault => fault.message
  | outside => "trying to unpack outside of destination path"
  | noTarget => "a link without target"

/-- A part of the work on a tree, which may come upon a fault. What was done before stays. -/
abbrev Unpacking (ε α : Type) := ExceptT ε (StateM FileTree) α

/-- Fails with a fault of the system. -/
def failWith {α : Type} (fault : OsFault) : Unpacking UnpackFault α := throw (.os fault)

/-- Goes to the directory that a name leads to, and makes it if there is nothing. -/
def enter (dest names : List String) (name : String) : Unpacking UnpackFault (List String) := do
  let tree ← get
  match tree.entry? (names ++ [name]) with
  | none =>
    if !dest.isPrefixOf names then throw .outside
    set (tree.set (names ++ [name]) .dir)
    return names ++ [name]
  | some _ =>
    match tree.follow (tree.stepBound [name]) (.inside names .dir) [name] with
    | .ok (.inside names .dir) => return names
    | .ok (.inside _ _) => failWith .notADirectory
    | .ok .outside => throw .outside
    | .error fault => failWith fault

/-- Goes to the directory that names lead to from `names`, which must be in `dest`. -/
def enterAll (dest names : List String) : List String → Unpacking UnpackFault (List String)
  | [] => if dest.isPrefixOf names then return names else throw .outside
  | name :: rest => do enterAll dest (← enter dest names name) rest

/-- Puts a file or a link in the place of what is there, unless that is a directory. -/
def replace (names : List String) (entry : FileEntry) : Unpacking UnpackFault Unit := do
  let tree ← get
  if tree.entry? names = some .dir then failWith .isADirectory
  set (tree.set names entry)

/-- Makes a directory, unless there is one. -/
def makeDir (names : List String) : Unpacking UnpackFault Unit := do
  let tree ← get
  match tree.entry? names with
  | none => set (tree.set names .dir)
  | some _ =>
    match tree.follow (tree.stepBound names) (.inside names.dropLast .dir)
        names.getLast?.toList with
    | .ok (.inside _ .dir) => return
    | .ok .outside => return
    | _ => failWith .alreadyExists

/-- Puts another name for a file in place. -/
def makeHardLink (dest names : List String) (target : String) : Unpacking UnpackFault Unit := do
  let tree ← get
  match tree.follow (tree.stepBound (FileTree.steps target)) (.inside dest .dir)
      (FileTree.steps target) with
  | .ok (.inside _ (.file content)) =>
    if (tree.entry? names).isSome then failWith .alreadyExists
    set (tree.set names (.file content))
  | .ok _ => failWith .notFound
  | .error fault => failWith fault

/-- Puts an entry in its place. -/
def place (dest names : List String) (entry : TarEntry) : Unpacking UnpackFault Unit := do
  match entry.kind with
  | .file => replace names (.file entry.content)
  | .dir => makeDir names
  | .symlink =>
    if entry.target = "" then throw .noTarget
    replace names (.link entry.target)
  | .hardLink =>
    if entry.target = "" then throw .noTarget
    makeHardLink dest names entry.target
  | .remark => return

/-- The names in the path of an entry. -/
def namesOf (path : String) : List String :=
  (Text.segments path).filter fun s => s != "" && s != "."

/-- Unpacks an entry below `dest`. -/
def unpackEntry (dest : List String) (entry : TarEntry) : Unpacking UnpackFault Unit := do
  let names := namesOf entry.path
  match names.getLast? with
  | none => return
  | some name =>
    if names.contains ".." then return
    let parent ← enterAll dest dest names.dropLast
    place dest (parent ++ [name]) entry

/-- Unpacks entries one after the other. -/
def unpackAll (dest : List String) : List TarEntry → Unpacking UnpackFault Unit
  | [] => return
  | entry :: rest => do
    unpackEntry dest entry
    unpackAll dest rest

/-- Unpacks a bundle below `dest`. Its directories come last, the inner before the outer ones. -/
def unpack (dest : List String) (contents : Tar.Contents) : Unpacking UnpackFault Unit := do
  let isDir (entry : TarEntry) : Bool := entry.kind = .dir
  unpackAll dest (contents.entries.filter (!isDir ·))
  if !contents.isWhole then throw .broken
  unpackAll dest (Text.sortBy (fun a b => Text.compareTexts b.path a.path)
    (contents.entries.filter isDir))

/-! ### Files -/

/-- Changes the tree, or fails with the fault of the system behind a message. -/
def change (message : String) (result : FileTree → Except OsFault FileTree) :
    Unpacking Causes Unit := do
  match result (← get) with
  | .ok tree => set tree
  | .error fault => throw [message, fault.message]

/-- The content of a compressed bundle. A directory can be opened and not be read. -/
def bundleAt (tree : FileTree) (path : String) : Except Causes Tar.Contents :=
  match tree.readBytes path with
  | .ok content => .ok (Tar.read content)
  | .error .isADirectory => .ok ⟨[], false⟩
  | .error fault => .error ["Failed to open " ++ path, fault.message]

/-- Unpacks the compressed bundle at a path into a directory that is made anew. -/
def unpackFile (path dest : String) : Unpacking Causes Unit := do
  if (← get).reaches dest then
    change ("Failed to clear " ++ dest) (·.removeDir dest)
  change ("Failed to create " ++ dest) (·.createDirs dest)
  let tree ← get
  match bundleAt tree path, tree.dirNames? dest with
  | .error causes, _ => throw causes
  | .ok contents, some names =>
    let fault (f : UnpackFault) := ["error extracting tar.gz file: " ++ path, f.message]
    ExceptT.adapt fault (unpack names contents)
  | .ok _, none =>
    throw ["error extracting tar.gz file: " ++ path, OsFault.notFound.message]

/-- The text of the document of a release that is unpacked in a directory. -/
def releaseDocument (tree : FileTree) (dir : String) : Except Causes String :=
  let path := Path.append dir ReleaseDocument.path
  if !tree.isFile path then .error ["release archive has no " ++ ReleaseDocument.path]
  else match tree.readText path with
    | .ok text => .ok text
    | .error fault => .error ["Failed to read " ++ path, fault.message]

end ConnectorCatalog.Archive
