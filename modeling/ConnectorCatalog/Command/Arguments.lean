import ConnectorCatalog.Progress.Display
import ConnectorCatalog.Text.Segment

/-!
# Command lines

What the words of a command line ask for. Options stand behind the command that they belong to;
those that belong to the program as a whole, or to all selections of the test matrix, may also
stand behind a command further in, and the innermost counts. No option is given twice in one place.

`Invocation.ofArguments` reads a command line. The path of the document of changed files may come
from a variable of the environment instead.
-/

namespace ConnectorCatalog

/-- Which releases the test matrix is for. -/
inductive Selection where
  | changed (changedFiles : String)
  | all
  | latest
deriving DecidableEq, Repr

/-- What the program is asked to do. -/
inductive Subcommand where
  | publish (environment changedFiles : String) (repoRoot : Option String)
  | classify (changedFiles : String)
  | validate (repoRoot : Option String) (verifyChecksums : Bool)
  | testMatrix (repoRoot : Option String) (selection : Selection)
  | downloadArtifacts (changedFiles : String) (repoRoot : Option String)
deriving DecidableEq, Repr

/-- A command with the options of the program as a whole. -/
structure Invocation where
  config : String
  progress : Option ProgressMode
  command : Subcommand
deriving DecidableEq, Repr

/-- Why a command line names no command. -/
inductive Refusal where
  /-- It asks for help. -/
  | help
  /-- It asks which version of the program this is. -/
  | version
  /-- It follows none of the forms. -/
  | usage
deriving DecidableEq, Repr

namespace Invocation

/-! ### Options -/

/-- What stands behind an option. -/
inductive OptionKind where
  | flag
  | text
  | path
  | progressMode
deriving DecidableEq, Repr

/-- The options of a place in a command line. -/
abbrev OptionTable := List (String × OptionKind)

/-- Options with their values. -/
abbrev Given := List (String × String)

/-- Whether a text can be the value of an option. -/
def isValue : OptionKind → String → Bool
  | .flag, _ => false
  | .text, _ => true
  | .path, value => value != ""
  | .progressMode, value => (ProgressMode.ofLabel? value).isSome

/-- Whether a word is an option rather than a value: it begins with a hyphen and goes on. -/
def isOption (word : String) : Bool := Text.startsWith "-" word && word != "-"

/-- The name of an option and the value that is written in the same word. -/
def splitOption (body : List Char) : String × Option String :=
  let name := String.ofList (body.takeWhile (· ≠ '='))
  match body.dropWhile (· ≠ '=') with
  | [] => (name, none)
  | _ :: value => (name, some (String.ofList value))

/-- The options with one more. -/
def addOption (table : OptionTable) (given : Given) (name value : String) :
    Except Refusal Given :=
  match table.lookup name with
  | some kind =>
    if isValue kind value && (given.lookup name).isNone then .ok (given ++ [(name, value)])
    else .error .usage
  | none => .error .usage

/-- What a word that is not an option with a value asks for. -/
def addWord (table : OptionTable) (isTop : Bool) (given : Given) (word : String) :
    Except Refusal Given :=
  match word.toList with
  | '-' :: '-' :: body =>
    match splitOption body with
    | ("help", none) => .error .help
    | ("version", none) => .error (if isTop then .version else .usage)
    | (name, some value) => addOption table given name value
    | (name, none) =>
      if table.lookup name = some .flag && (given.lookup name).isNone then
        .ok (given ++ [(name, "")])
      else .error .usage
  | '-' :: 'h' :: _ => .error .help
  | '-' :: 'V' :: _ => .error (if isTop then .version else .usage)
  | _ => .error .usage

/-- Whether a word is an option whose value is the next word. -/
def takesNext? (table : OptionTable) (word : String) : Option String :=
  match word.toList with
  | '-' :: '-' :: body =>
    match splitOption body with
    | (name, none) =>
      match table.lookup name with
      | some .flag => none
      | some _ => some name
      | none => none
    | _ => none
  | _ => none

/-- The options in front of the first word that is none, and the words from there on. -/
def readOptions (table : OptionTable) (isTop : Bool) :
    Given → List String → Except Refusal (Given × List String)
  | given, [] => .ok (given, [])
  | given, word :: rest =>
    if word = "--" then if rest = [] then .ok (given, []) else .error .usage
    else if !isOption word then .ok (given, word :: rest)
    else match takesNext? table word with
      | some name =>
        match rest with
        | [] => .error .usage
        | value :: rest =>
          if isOption value then .error .usage
          else match addOption table given name value with
            | .ok given => readOptions table isTop given rest
            | .error refusal => .error refusal
      | none =>
        match addWord table isTop given word with
        | .ok given => readOptions table isTop given rest
        | .error refusal => .error refusal

/-- The options of a command that no further word may follow. -/
def readLast (table : OptionTable) (words : List String) : Except Refusal Given :=
  match readOptions table false [] words with
  | .error refusal => .error refusal
  | .ok (given, []) => .ok given
  | .ok (_, _ :: _) => .error .usage

/-! ### Commands -/

/-- The options of the program as a whole. -/
def topOptions : OptionTable := [("config", .path), ("progress", .progressMode)]

/-- The option that names the document of changed files. -/
def changedFilesOption : OptionTable := [("changed-files", .path)]

/-- The option that names the directory of the repository. -/
def repoRootOption : OptionTable := [("repo-root", .path)]

/-- The variable that stands in for the document of changed files. -/
def changedFilesVariable : String := "CHANGED_FILES_PATH"

/-- The names of the commands. -/
def commandNames : List String :=
  ["publish", "classify", "validate", "e2e", "download-artifacts", "help"]

/-- The names of the selections. -/
def selectionNames : List String := ["changed", "all", "latest", "help"]

/-- The path of the document of changed files. -/
def changedFilesOf (env : String → Option String) (given : Given) : Except Refusal String :=
  match given.lookup "changed-files" with
  | some path => .ok path
  | none =>
    match env changedFilesVariable with
    | some path => if path = "" then .error .usage else .ok path
    | none => .error .usage

/-- The answer to a request for help with commands of the given names. -/
def helpOn (names : List String) : List String → Refusal
  | [] => .help
  | name :: _ => if names.contains name then .help else .usage

/-- The selection that words ask for, with the options given behind it. -/
def readSelection (env : String → Option String) :
    List String → Except Refusal (Selection × Given)
  | "changed" :: words => do
    let given ← readLast (changedFilesOption ++ repoRootOption ++ topOptions) words
    return (.changed (← changedFilesOf env given), given)
  | "all" :: words => do return (.all, ← readLast (repoRootOption ++ topOptions) words)
  | "latest" :: words => do return (.latest, ← readLast (repoRootOption ++ topOptions) words)
  | "help" :: words => .error (helpOn selectionNames words)
  | _ => .error .usage

/-- The command that words ask for, with the options given behind it. -/
def readCommand (env : String → Option String) :
    List String → Except Refusal (Subcommand × Given)
  | "publish" :: words => do
    let given ← readLast ([("env", .text)] ++ changedFilesOption ++ repoRootOption ++ topOptions)
      words
    let changedFiles ← changedFilesOf env given
    match given.lookup "env" with
    | some environment =>
      return (.publish environment changedFiles (given.lookup "repo-root"), given)
    | none => .error .usage
  | "classify" :: words => do
    let given ← readLast (changedFilesOption ++ topOptions) words
    return (.classify (← changedFilesOf env given), given)
  | "validate" :: words => do
    let given ← readLast ([("verify-checksums", .flag)] ++ repoRootOption ++ topOptions) words
    return (.validate (given.lookup "repo-root") (given.lookup "verify-checksums").isSome, given)
  | "e2e" :: words => do
    let (outer, words) ← readOptions (repoRootOption ++ topOptions) false [] words
    let (selection, inner) ← readSelection env words
    let given := inner ++ outer
    return (.testMatrix (given.lookup "repo-root") selection, given)
  | "download-artifacts" :: words => do
    let given ← readLast (changedFilesOption ++ repoRootOption ++ topOptions) words
    return (.downloadArtifacts (← changedFilesOf env given) (given.lookup "repo-root"), given)
  | "help" :: words => .error (helpOn commandNames words)
  | _ => .error .usage

/-- The path of the configuration unless another one is given. -/
def defaultConfig : String := "./hub-publish.toml"

/-- What a command line asks for. -/
def ofArguments (env : String → Option String) (words : List String) :
    Except Refusal Invocation := do
  let (outer, words) ← readOptions topOptions true [] words
  let (command, inner) ← readCommand env words
  let given := inner ++ outer
  return {
    config := (given.lookup "config").getD defaultConfig
    progress := given.lookup "progress" >>= ProgressMode.ofLabel?
    command }

end Invocation

end ConnectorCatalog
