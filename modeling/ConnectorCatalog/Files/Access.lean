import ConnectorCatalog.Files.Path
import ConnectorCatalog.Files.Tree

/-!
# Access to files by path text

How a program reaches the files of a tree through path texts, with the faults that the system
reports.

* `FileTree.follow` goes from place to place along a path, through `.`, `..` and links. What lies
  outside the working directory is not part of the tree: nothing is found there.
* `readBytes` and `readText` open a file; `isFile`, `isDir` and `reaches` only look.
* `createDirs` makes a directory and all those above it; `removeDir` takes one away.
-/

namespace ConnectorCatalog

/-- Faults of the system. -/
inductive OsFault where
  | notFound
  | alreadyExists
  | notADirectory
  | isADirectory
  | nameTooLong
  | tooManyLinks
  | nulInPath
deriving DecidableEq, Repr

/-- The text of a fault. -/
def OsFault.message : OsFault → String
  | notFound => "No such file or directory (os error 2)"
  | alreadyExists => "File exists (os error 17)"
  | notADirectory => "Not a directory (os error 20)"
  | isADirectory => "Is a directory (os error 21)"
  | nameTooLong => "File name too long (os error 36)"
  | tooManyLinks => "Too many levels of symbolic links (os error 40)"
  | nulInPath => "file name contained an unexpected NUL byte"

/-- Why a file cannot be read as text. -/
inductive ReadFault where
  | os (fault : OsFault)
  | notUtf8
deriving DecidableEq, Repr

/-- The text of a fault. -/
def ReadFault.message : ReadFault → String
  | os fault => fault.message
  | notUtf8 => "stream did not contain valid UTF-8"

namespace FileTree

/-- A place that exists: in the tree, or a directory outside of it. -/
inductive Place where
  | inside (names : List String) (entry : FileEntry)
  | outside
deriving DecidableEq, Repr

/-- The segments to go along for a path text; a slash at the end asks for a directory. -/
def steps (path : String) : List String :=
  let segments := (Text.segments path).filter (· != "")
  if path.toList.getLast? = some '/' then segments ++ ["."] else segments

/-- The greatest length of a name in bytes. -/
def maxNameLength : Nat := 255

/-- The directory above a place. -/
def above : List String → Place
  | [] => .outside
  | names => .inside names.dropLast .dir

/-- The place reached from a place along segments. The number bounds how many segments are gone
along, those of links included. -/
def follow (tree : FileTree) : Nat → Place → List String → Except OsFault Place
  | _, place, [] => .ok place
  | 0, _, _ :: _ => .error .tooManyLinks
  | n + 1, .outside, s :: rest =>
    if s == "." || s == ".." then follow tree n .outside rest else .error .notFound
  | n + 1, .inside names .dir, s :: rest =>
    if s == "." then follow tree n (.inside names .dir) rest
    else if s == ".." then follow tree n (above names) rest
    else if maxNameLength < s.utf8ByteSize then .error .nameTooLong
    else match tree.entry? (names ++ [s]) with
      | none => .error .notFound
      | some (.link target) =>
        let start := if Path.isAbsolute target then .outside else .inside names .dir
        follow tree n start (steps target ++ rest)
      | some entry => follow tree n (.inside (names ++ [s]) entry) rest
  | _ + 1, .inside _ _, _ :: _ => .error .notADirectory

/-- A bound on the steps along `segments`: forty rounds through all links of the tree. -/
def stepBound (tree : FileTree) (segments : List String) : Nat :=
  let linked := tree.entries.foldl (fun n e =>
    match e.2 with
    | .link target => n + (steps target).length
    | _ => n) 0
  segments.length + 40 * linked

/-- The place that a path text leads to.  An absolute path starts outside of the tree and never comes
back into it, so a repository or a scratch directory that is named by an absolute path is out of
reach: such paths lead to nothing but the outside itself. -/
def locate (tree : FileTree) (path : String) : Except OsFault Place :=
  if path.toList.contains '\x00' then .error .nulInPath
  else if path = "" then .error .notFound
  else
    let start := if Path.isAbsolute path then .outside else .inside [] .dir
    follow tree (stepBound tree (steps path)) start (steps path)

/-- The content of the file at a path. -/
def readBytes (tree : FileTree) (path : String) : Except OsFault Bytes :=
  match tree.locate path with
  | .ok (.inside _ (.file content)) => .ok content
  | .ok _ => .error .isADirectory
  | .error fault => .error fault

/-- The text of the file at a path. -/
def readText (tree : FileTree) (path : String) : Except ReadFault String :=
  match tree.readBytes path with
  | .error fault => .error (.os fault)
  | .ok content =>
    match Text.ofUtf8? content with
    | some text => .ok text
    | none => .error .notUtf8

/-- Whether a path leads to a file. -/
def isFile (tree : FileTree) (path : String) : Bool :=
  match tree.locate path with
  | .ok (.inside _ (.file _)) => true
  | _ => false

/-- Whether a path leads to a directory. -/
def isDir (tree : FileTree) (path : String) : Bool :=
  match tree.locate path with
  | .ok (.inside _ .dir) => true
  | .ok .outside => true
  | _ => false

/-- Whether a path leads to anything. -/
def reaches (tree : FileTree) (path : String) : Bool := (tree.locate path).isOk

/-- The names of the directory that a path leads to, if it is in the tree. -/
def dirNames? (tree : FileTree) (path : String) : Option (List String) :=
  match tree.locate path with
  | .ok (.inside names .dir) => some names
  | _ => none

/-- The tree with directories from a place along segments. -/
def createFrom (tree : FileTree) : Place → List String → Except OsFault FileTree
  | _, [] => .ok tree
  | .outside, _ => .ok tree
  | .inside names entry, s :: rest =>
    match follow tree (stepBound tree [s]) (.inside names entry) [s] with
    | .ok (.inside names' .dir) => createFrom tree (.inside names' .dir) rest
    | .ok .outside => .ok tree
    | .ok _ => .error (if rest = [] then .alreadyExists else .notADirectory)
    | .error .notFound =>
      if (tree.entry? (names ++ [s])).isSome then .error .alreadyExists
      else createFrom (tree.set (names ++ [s]) .dir) (.inside (names ++ [s]) .dir) rest
    | .error fault => .error fault

/-- The tree with a directory at a path and at all those above it. -/
def createDirs (tree : FileTree) (path : String) : Except OsFault FileTree :=
  if path.toList.contains '\x00' then .error .nulInPath
  else if Path.isAbsolute path then .ok tree
  else createFrom tree (.inside [] .dir) ((Text.segments path).filter (· != ""))

/-- The tree without the directory at a path; a link there is taken away itself. -/
def removeDir (tree : FileTree) (path : String) : Except OsFault FileTree := do
  let segments := (Text.segments path).filter (· != "")
  let holder ← follow tree (stepBound tree segments) (.inside [] .dir) segments.dropLast
  match holder, segments.getLast? with
  | .inside names .dir, some s =>
    match tree.entry? (names ++ [s]) with
    | some .dir => return tree.remove (names ++ [s])
    | some (.link _) => return tree.remove (names ++ [s])
    | some (.file _) => throw .notADirectory
    | none => throw .notFound
  | _, _ => return tree

end FileTree

end ConnectorCatalog
