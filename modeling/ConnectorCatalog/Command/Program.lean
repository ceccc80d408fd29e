import ConnectorCatalog.Command.Arguments
import ConnectorCatalog.Document.Diff
import ConnectorCatalog.Preflight.Validation
import ConnectorCatalog.Remote
import ConnectorCatalog.Report
import ConnectorCatalog.TestMatrix

/-!
# The program

What each command does, from the files and the network of a machine to the text that is written.
`Program.run` reads a command line and does what it asks for.

Without a configuration the commands other than `publish` work with the settings that apply unless
others are set.
-/

namespace ConnectorCatalog

open Http (Network)

/-- What a program finds around it. -/
structure Surroundings (σ : Type) where
  network : Network σ
  now : Moment
  /-- The directory for temporary files. -/
  tempDir : String
  /-- The variables of the environment. -/
  env : String → Option String
  /-- Whether someone watches the progress. -/
  isWatched : Bool

/-- What a program has come to. -/
structure Outcome where
  exit : Nat
  /-- The text on the standard output. -/
  output : String
  /-- The progress that was reported. -/
  progress : String
  /-- Why the program has failed. -/
  failure : Option Causes
deriving DecidableEq, Repr

namespace Outcome

/-- The outcome of a program that has written a text and has, perhaps, failed. -/
def ofResult (output : String) : Except Causes Unit → Outcome
  | .ok () => ⟨0, output, "", none⟩
  | .error causes => ⟨1, output, "", some causes⟩

/-- The outcome of a program that writes a line or fails. -/
def ofLine : Except Causes String → Outcome
  | .ok line => ofResult (line ++ "\n") (.ok ())
  | .error causes => ofResult "" (.error causes)

end Outcome

namespace Program

/-- The version of this program. -/
def version : String := "0.1.0"

/-- The name of this program. -/
def name : String := "hub-publish"

/-- How the program is used. -/
def usage : String :=
  Text.joinTexts "\n" [
    "Publish connector registry changes to the connector hub",
    "",
    "Usage: hub-publish [OPTIONS] <COMMAND>",
    "",
    "Commands:",
    "  publish             Publish the changes of a diff to staging or production",
    "  classify            Show how the files of a diff are understood",
    "  validate            Check the whole registry tree",
    "  e2e                 List the releases to test",
    "  download-artifacts  Unpack the releases of a diff and list their images",
    "",
    "Options:",
    "      --config <CONFIG>      Path of the configuration [default: ./hub-publish.toml]",
    "      --progress <PROGRESS>  Progress on the error output: off, human or json",
    "  -h, --help                 Show this text",
    "  -V, --version              Show the version"]

variable {σ : Type}

/-! ### Commands -/

/-- The change set of the document of changed files at a path. -/
def classifyFile (tree : FileTree) (path : String) : Except Causes ChangeSet :=
  match ChangedFiles.load tree path with
  | .error fault => .error fault.causes
  | .ok files =>
    match ChangeSet.ofFiles files with
    | .error fault => .error [fault.message]
    | .ok set => .ok set

/-- The configuration at a path, if there is one. -/
def optionalConfig (around : Surroundings σ) (tree : FileTree) (path : String) :
    Except Causes (Option Config) :=
  if tree.reaches path then
    match Config.load around.tempDir tree path with
    | .ok config => .ok (some config)
    | .error fault => .error fault.causes
  else .ok none

/-- The settings of a run that a configuration names, if there is one. -/
def runSettings (around : Surroundings σ) (tree : FileTree) (path : String) :
    Except Causes RunSettings := do
  match ← optionalConfig around tree path with
  | some config => return config.run
  | none => return Config.defaultRun around.tempDir

/-- The test matrix for a selection. -/
def selectTargets (tree : FileTree) (repo : String) :
    Selection → Except Causes (List TestTarget)
  | .all => (allTargets tree repo).mapError TestMatrixFault.causes
  | .latest => (latestTargets tree repo).mapError TestMatrixFault.causes
  | .changed path =>
    match ChangedFiles.load tree path with
    | .error fault => .error fault.causes
    | .ok files => (changedTargets tree repo files).mapError TestMatrixFault.causes

/-- Validates a registry tree, with a look at the packages if that is asked for. -/
def validate (around : Surroundings σ) (repo : String) (verifyChecksums : Bool) :
    StateM (Machine σ) (Except RegistryFault ValidationReport) := fun machine =>
  let download? :=
    if verifyChecksums then some (Archive.download around.network) else none
  let (result, network) := (validateRegistry download? machine.files repo).run machine.network
  (result, { machine with network })

/-- What is written about a validation. -/
def validationOutcome : Except RegistryFault ValidationReport → Outcome
  | .error fault => .ofResult "" (.error [fault.message])
  | .ok report =>
    if report.issues.isEmpty then
      .ofLine (.ok ("ok: " ++ toString report.packagingFiles ++ " packaging files, " ++
        toString report.metadataFiles ++ " metadata files"))
    else
      .ofResult (Text.joinTexts "" (report.issues.map (·.line ++ "\n")))
        (.error ["registry validation found " ++ toString report.issues.length ++ " issue(s)"])

/-- Services of which only the archives are used. -/
def archiveServices (around : Surroundings σ) (scratch : String) : Services (Machine σ) :=
  Remote.services around.network
    ⟨⟨default, "", ""⟩, ⟨"", "", ""⟩, ⟨default, "", ""⟩, scratch⟩ around.now

/-- Downloads the releases that the document of changed files at a path adds. -/
def downloadArtifacts (around : Surroundings σ) (changedFiles repo scratch : String) :
    StateM (Machine σ) (Except Causes (List ReleaseArtifacts)) := fun machine =>
  match ChangedFiles.load machine.files changedFiles with
  | .error fault => (.error fault.causes, machine)
  | .ok files =>
    let site : BuildSite (Machine σ) :=
      ⟨.staging, repo, machine.files, archiveServices around scratch⟩
    let (result, journal) := (site.collectArtifacts files).run (Journal.start machine)
    (result.mapError fun fault => ["Failed to download release artifacts", fault.message],
      journal.world)

/-- Publishes what the document of changed files at a path names. The progress is that of the run. -/
def publishFile (around : Surroundings σ) (config : Config) (environment : Environment)
    (changedFiles : String) (repoRoot : Option String) :
    StateM (Machine σ) (Except Causes PublishOutcome × List ProgressEvent) := fun machine =>
  match Secrets.ofEnvironment around.env with
  | .error fault => ((.error [fault.message], []), machine)
  | .ok secrets =>
    match ChangedFiles.load machine.files changedFiles with
    | .error fault => ((.error fault.causes, []), machine)
    | .ok files =>
      let site : BuildSite (Machine σ) :=
        { environment
          repoRoot := repoRoot.getD config.run.repoRoot
          tree := machine.files
          services := (Remote.ofConfig config secrets).services around.network around.now }
      let (result, journal) := (publish site files).run (Journal.start machine)
      let context := "Publishing to " ++ environment.label ++ " failed"
      ((result.mapError fun fault => [context, fault.message], journal.progress),
        journal.world)

/-- What is written about a publish run. -/
def publishOutcome : Except Causes PublishOutcome → Outcome
  | .error causes => .ofResult "" (.error causes)
  | .ok outcome =>
    .ofResult (outcome.toJson.pretty ++ "\n") <|
      if outcome.isSuccess then .ok ()
      else .error [toString outcome.failed.length ++
        " release(s) could not be published (state: " ++ outcome.state.display ++ ")"]

/-- The command that publishes. -/
def runPublish (around : Surroundings σ) (invocation : Invocation)
    (environment changedFiles : String) (repoRoot : Option String) :
    StateM (Machine σ) Outcome := fun machine =>
  match Environment.ofLabel environment with
  | .error fault => (.ofResult "" (.error [fault.message]), machine)
  | .ok environment =>
    match Config.load around.tempDir machine.files invocation.config with
    | .error fault =>
      let context := "publish requires a config file (see --config)"
      (.ofResult "" (.error (context :: fault.causes)), machine)
    | .ok config =>
      let ((result, events), machine) :=
        (publishFile around config environment changedFiles repoRoot).run machine
      let mode := invocation.progress.getD (if around.isWatched then .human else .off)
      let progress := Text.joinTexts "" (events.map mode.display)
      ({ publishOutcome result with progress }, machine)

/-- Does what a command line asks for. -/
def runInvocation (around : Surroundings σ) (invocation : Invocation) :
    StateM (Machine σ) Outcome := fun machine =>
  let settings := runSettings around machine.files invocation.config
  match invocation.command with
  | .classify changedFiles =>
    (.ofLine ((classifyFile machine.files changedFiles).map (·.toJson.pretty)), machine)
  | .validate repoRoot verifyChecksums =>
    match settings with
    | .error causes => (.ofResult "" (.error causes), machine)
    | .ok settings =>
      let (result, machine) :=
        (validate around (repoRoot.getD settings.repoRoot) verifyChecksums).run machine
      (validationOutcome result, machine)
  | .testMatrix repoRoot selection =>
    let targets := do
      selectTargets machine.files (repoRoot.getD (← settings).repoRoot) selection
    (.ofLine (targets.map fun targets => (Json.arr (targets.map TestTarget.toJson)).compact),
      machine)
  | .downloadArtifacts changedFiles repoRoot =>
    match settings with
    | .error causes => (.ofResult "" (.error causes), machine)
    | .ok settings =>
      let (result, machine) := (downloadArtifacts around changedFiles
        (repoRoot.getD settings.repoRoot) settings.scratchDir).run machine
      (.ofLine (result.map fun list => (Json.arr (list.map ReleaseArtifacts.toJson)).pretty),
        machine)
  | .publish environment changedFiles repoRoot =>
    runPublish around invocation environment changedFiles repoRoot machine

/-- Reads a command line and does what it asks for. -/
def run (around : Surroundings σ) (words : List String) : StateM (Machine σ) Outcome :=
  match Invocation.ofArguments around.env words with
  | .ok invocation => runInvocation around invocation
  | .error .help => return ⟨0, usage ++ "\n", "", none⟩
  | .error .version => return ⟨0, name ++ " " ++ version ++ "\n", "", none⟩
  | .error .usage => return ⟨2, "", "", none⟩

end Program

end ConnectorCatalog
