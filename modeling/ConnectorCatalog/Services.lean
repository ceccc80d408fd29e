import ConnectorCatalog.Causes
import ConnectorCatalog.Progress.Event
import ConnectorCatalog.Registry.Request
import ConnectorCatalog.Text.Hex

/-!
# Outside services

A publish run works with services that keep a state of their own: an image host, the registry, the
archives that releases are fetched from, and a store for their packages. `Services` describes what
they answer and how their state changes. Each call may fail.

A `Journal` is the state of the services together with everything that a run has done so far, in
order: the files it has opened, the calls it has made with what came of them, and the progress it
has reported.
-/

namespace ConnectorCatalog

/-- What the registry knows of a connector. -/
structure ConnectorInfo where
  isMultitenant : Bool
deriving DecidableEq, Repr

/-- A release that has been fetched and unpacked. -/
structure FetchedRelease where
  /-- The text of its document. -/
  document : String
  /-- The path of its package. -/
  package : String
  /-- The directory that it was unpacked to. -/
  directory : String
deriving DecidableEq, Repr

/-- The answers of the services in each state, and the states that follow. -/
structure Services (σ : Type) where
  /-- Keeps a logo under a name and gives its address. -/
  upload : Bytes → String → LogoFormat → σ → Except Causes String × σ
  /-- Looks a connector up. -/
  lookup : Identity → σ → Except Causes (Option ConnectorInfo) × σ
  /-- Fetches the release that is found at an address. -/
  fetch : String → ReleaseId → σ → Except Causes FetchedRelease × σ
  /-- Keeps the file at a path under a key and gives its address. -/
  put : String → String → σ → Except Causes String × σ
  /-- Drops what is kept under a key. -/
  delete : String → σ → Except Causes Unit × σ
  /-- Writes the rows of a request. -/
  publish : PublishRequest → σ → Except Causes Unit × σ

/-- A call of a service, and what came of it. -/
inductive Call where
  | upload (content : Bytes) (publicId : String) (format : LogoFormat)
    (result : Except Causes String)
  | lookup (connector : Identity) (result : Except Causes (Option ConnectorInfo))
  | fetch (uri : String) (release : ReleaseId) (result : Except Causes FetchedRelease)
  | put (key path : String) (result : Except Causes String)
  | delete (key : String) (result : Except Causes Unit)
  | publish (request : PublishRequest) (result : Except Causes Unit)

/-- Something that a run has done. -/
inductive Action where
  /-- A file of the registry tree was opened. -/
  | opened (path : String)
  | called (call : Call)
  | reported (event : ProgressEvent)

/-- The state of the services, and what has been done in order. -/
structure Journal (σ : Type) where
  world : σ
  log : List Action

namespace Journal

variable {σ : Type}

/-- Services with which nothing has been done yet. -/
def start (world : σ) : Journal σ := ⟨world, []⟩

/-- The progress that has been reported. -/
def progress (journal : Journal σ) : List ProgressEvent :=
  journal.log.filterMap fun
    | .reported event => some event
    | _ => none

end Journal

/-- A part of a run. -/
abbrev Run (σ α : Type) := StateM (Journal σ) α

namespace Run

variable {σ : Type}

/-- Takes something down. -/
def note (action : Action) : Run σ Unit :=
  modify fun journal => { journal with log := journal.log ++ [action] }

/-- Reports progress. -/
def report (event : ProgressEvent) : Run σ Unit := note (.reported event)

/-- Calls a service and takes down what came of it. -/
def call {α : Type} (service : σ → Except Causes α × σ) (describe : Except Causes α → Call) :
    Run σ (Except Causes α) := fun journal =>
  let (result, world) := service journal.world
  (result, ⟨world, journal.log ++ [.called (describe result)]⟩)

end Run

namespace Services

variable {σ : Type} (services : Services σ)

/-- Uploads a logo. -/
def runUpload (content : Bytes) (publicId : String) (format : LogoFormat) :
    Run σ (Except Causes String) :=
  Run.call (services.upload content publicId format) (.upload content publicId format)

/-- Looks a connector up. -/
def runLookup (connector : Identity) : Run σ (Except Causes (Option ConnectorInfo)) :=
  Run.call (services.lookup connector) (.lookup connector)

/-- Fetches a release. -/
def runFetch (uri : String) (release : ReleaseId) : Run σ (Except Causes FetchedRelease) :=
  Run.call (services.fetch uri release) (.fetch uri release)

/-- Stores a package. -/
def runPut (key path : String) : Run σ (Except Causes String) :=
  Run.call (services.put key path) (.put key path)

/-- Deletes a package. -/
def runDelete (key : String) : Run σ (Except Causes Unit) :=
  Run.call (services.delete key) (.delete key)

/-- Hands rows over. -/
def runPublish (request : PublishRequest) : Run σ (Except Causes Unit) :=
  Run.call (services.publish request) (.publish request)

end Services

end ConnectorCatalog
