import ConnectorCatalog.Keyed
import ConnectorCatalog.Text.Hex
import ConnectorCatalog.Text.Order

/-!
# File trees

The files below a working directory, as a list of paths and what stands there. A path is the list
of its names; the empty path is the working directory itself. The list is kept in the order of a
directory walk: names by character, a directory in front of what it holds.

* `FileTree.entry?` looks a path up; `write`, `link` and `makeDir` put something there and the
  directories above it; `remove` takes a path and everything below it away.
* `FileTree.below` is a walk: everything below a path with the names from there on.
-/

namespace ConnectorCatalog

/-- What stands at a path. -/
inductive FileEntry where
  | file (content : Bytes)
  | dir
  /-- A reference to the path written in it. -/
  | link (target : String)
deriving DecidableEq, Repr, Inhabited

/-- Everything below a working directory. -/
structure FileTree where
  entries : List (List String × FileEntry)
deriving DecidableEq, Repr, Inhabited

namespace FileTree

/-- Nothing at all. -/
def empty : FileTree := ⟨[]⟩

/-- What stands at a path, if anything. -/
def entry? (tree : FileTree) (names : List String) : Option FileEntry :=
  if names = [] then some .dir else tree.entries.lookup names

/-- The tree with an entry at a path. -/
def set (tree : FileTree) (names : List String) (entry : FileEntry) : FileTree :=
  ⟨Keyed.insert (fun a b => Text.compareNames a.1 b.1) (names, entry) tree.entries⟩

/-- The non-empty beginnings of a path, shortest first. -/
def ancestors : List String → List (List String)
  | [] => []
  | name :: rest => [name] :: (ancestors rest).map (name :: ·)

/-- The tree with a directory at a path and at all above it, where nothing stood before. -/
def makeDir (tree : FileTree) (names : List String) : FileTree :=
  (ancestors names).foldl
    (fun tree dir => if (tree.entry? dir).isSome then tree else tree.set dir .dir) tree

/-- The tree with a file at a path. -/
def write (tree : FileTree) (names : List String) (content : Bytes) : FileTree :=
  (tree.makeDir names.dropLast).set names (.file content)

/-- The tree with a link at a path. -/
def link (tree : FileTree) (names : List String) (target : String) : FileTree :=
  (tree.makeDir names.dropLast).set names (.link target)

/-- The tree without a path and what is below it. -/
def remove (tree : FileTree) (names : List String) : FileTree :=
  ⟨tree.entries.filter fun e => !names.isPrefixOf e.1⟩

/-- What is below a path, in the order of a walk, by the names from there on. -/
def below (tree : FileTree) (names : List String) : List (List String × FileEntry) :=
  tree.entries.filterMap fun (path, entry) =>
    match names.isPrefixOf? path with
    | some [] => none
    | some rest => some (rest, entry)
    | none => none

end FileTree

end ConnectorCatalog
