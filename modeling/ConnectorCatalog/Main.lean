import ConnectorCatalog.Command.Program

/-!
# The command line

Runs the program on the files of the working directory. This program has no network of its own:
every request to a server fails, as it does on a machine that is cut off.

* `readTree` reads the working directory; links are read as what they lead to, and a directory that
  is reached through one is left out.
* `writeChanges` puts down what the program has added.
-/

namespace ConnectorCatalog.Main

/-- The deepest level of directories that is looked at. -/
def maxDepth : Nat := 64

/-- The entry for a file, if it can be read. -/
def readFile (names : List String) (entry : IO.FS.DirEntry) :
    IO (List (List String × FileEntry)) := do
  try
    let content ← IO.FS.readBinFile entry.path
    return [(names, .file content.toList)]
  catch _ => return []

/-- The entries for something in a directory and for all below it, with the names on the way. -/
def readEntry : Nat → List String → IO.FS.DirEntry → IO (List (List String × FileEntry))
  | 0, _, _ => return []
  | depth + 1, parents, entry => do
    let names := parents ++ [entry.fileName]
    if (← entry.path.symlinkMetadata).type == .dir then
      let children ← try entry.path.readDir catch _ => pure #[]
      let below ← children.toList.mapM (readEntry depth names)
      return (names, .dir) :: below.flatten
    else if ← entry.path.isDir then return []
    else readFile names entry

/-- The files of the working directory. -/
def readTree : IO FileTree := do
  let entries ← (← IO.currentDir).readDir
  let found ← entries.toList.mapM (readEntry maxDepth [])
  return found.flatten.foldl (fun tree e => tree.set e.1 e.2) .empty

/-- Puts down what has been added to the files of the working directory. -/
def writeChanges (before after : FileTree) : IO Unit := do
  for (names, entry) in after.entries do
    let path := Text.joinTexts "/" names
    if before.entry? names != some entry then
      match entry with
      | .dir => IO.FS.createDirAll path
      | .file content => IO.FS.writeBinFile path content.toByteArray
      | .link _ => pure ()

/-- The variables that the program looks at. -/
def variableNames : List String :=
  [Invocation.changedFilesVariable, "CONNECTOR_PUBLICATION_KEY", "HUB_STORAGE_ACCESS_KEY_ID",
    "HUB_STORAGE_SECRET_ACCESS_KEY", "IMAGE_HOST_API_KEY", "IMAGE_HOST_API_SECRET"]

/-- What the program finds around it. -/
def surroundings : IO (Surroundings Unit) := do
  let known ← variableNames.mapM fun name => return (name, ← IO.getEnv name)
  return {
    network := Http.unreachable Unit
    now := default
    tempDir := (← IO.getEnv "TMPDIR").getD "/tmp"
    env := fun name => (known.lookup name).join
    isWatched := ← (← IO.getStderr).isTty }

/-- The lines that tell why a program has failed. -/
def failureText : Causes → String
  | [] => ""
  | [message] => "Error: " ++ message ++ "\n"
  | message :: causes =>
    "Error: " ++ message ++ "\n\nCaused by:\n" ++
      Text.joinTexts "" (causes.map ("    " ++ · ++ "\n"))

/-- Does what a command line asks for. -/
def run (arguments : List String) : IO UInt32 := do
  let tree ← readTree
  let (outcome, machine) := (Program.run (← surroundings) arguments).run ⟨tree, ()⟩
  writeChanges tree machine.files
  IO.print outcome.output
  IO.eprint outcome.progress
  match outcome.failure with
  | some causes => IO.eprint (failureText causes)
  | none => if outcome.exit ≠ 0 then IO.eprintln Program.usage
  return UInt32.ofNat outcome.exit

end ConnectorCatalog.Main

/-- The program. -/
def main (arguments : List String) : IO UInt32 := ConnectorCatalog.Main.run arguments
