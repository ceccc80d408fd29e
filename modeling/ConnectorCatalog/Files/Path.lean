import ConnectorCatalog.Text.Segment

/-!
# Path texts

Paths are texts: they are shown as they were put together, and only looking at them takes them
apart.

* `append` joins a path to a directory, `parent` and `fileName` take the last name away or keep it.
* `clean` resolves `.` and `..` in a relative path without looking at any directory. It fails on a
  path that is absolute or that climbs above its start.
-/

namespace ConnectorCatalog.Path

/-- Whether a path starts at the root of all directories. -/
def isAbsolute (path : String) : Bool := Text.startsWith "/" path

/-- A path seen from a directory: an absolute one stands for itself. -/
def append (dir path : String) : String :=
  if isAbsolute path then path
  else if dir = "" then path
  else if dir.toList.getLast? = some '/' then dir ++ path
  else dir ++ "/" ++ path

/-- Segments that name nothing: empty ones, and `.` behind the first place. -/
def isIdle (segment : String) : Bool := segment == "" || segment == "."

/-- Segments, newest first, without the idle ones at their end; a leading `.` is kept. -/
def dropIdle : List String → List String
  | [] => []
  | [s] => if s == "" then [] else [s]
  | s :: rest => if isIdle s then dropIdle rest else s :: rest

/-- The segments of a path behind its leading slash. -/
def body (path : String) : List String :=
  let all := Text.segments path
  if isAbsolute path then all.drop 1 else all

/-- The directory that holds what a path names; empty if there is none to tell. -/
def parent (path : String) : String :=
  let dropped := if isAbsolute path then (body path).reverse.dropWhile isIdle
    else dropIdle (body path).reverse
  match dropped with
  | [] => ""
  | _ :: rest =>
    if isAbsolute path then "/" ++ Text.joinTexts "/" (rest.dropWhile isIdle).reverse
    else Text.joinTexts "/" (dropIdle rest).reverse

/-- Whether a text is one plain name: not empty, without slash, neither `.` nor `..`. -/
def isPlainName (part : String) : Bool :=
  part != "" && part != "." && part != ".." && !part.toList.contains '/'

/-! ### Cleaning -/

/-- Why a path cannot be cleaned. -/
inductive CleanFault where
  | absolute (path : String)
  | climbs (path : String)
deriving DecidableEq, Repr

/-- The text of a fault. -/
def CleanFault.message : CleanFault → String
  | absolute path => path ++ " is absolute"
  | climbs path => path ++ " climbs above the repository root"

/-- The names that remain, newest first, when each `..` takes the name before it away. -/
def cancel : List String → List String → Option (List String)
  | names, [] => some names
  | names, s :: rest =>
    if isIdle s then cancel names rest
    else if s == ".." then
      match names with
      | [] => none
      | _ :: names => cancel names rest
    else cancel (s :: names) rest

/-- The names of a relative path, `.` and `..` resolved. -/
def clean (path : String) : Except CleanFault (List String) :=
  if isAbsolute path then .error (.absolute path)
  else match cancel [] (Text.segments path) with
    | some names => .ok names.reverse
    | none => .error (.climbs path)

end ConnectorCatalog.Path
