import ConnectorCatalog.Document.Packaging
import ConnectorCatalog.Document.Release
import ConnectorCatalog.Publish.Fault
import ConnectorCatalog.Services
import ConnectorCatalog.Text.Blank

/-!
# Resolving releases

A release is fetched from the address in its packaging descriptor and described by the document in
its package. Releases of the unsupported generation are told apart; they are no fault.
-/

namespace ConnectorCatalog

/-- A release that is at hand. -/
structure ResolvedRelease where
  document : ReleaseDocument
  /-- The path of its package. -/
  package : String
  /-- The directory that it was unpacked to. -/
  directory : String
deriving DecidableEq, Repr

/-- What has become of a release. -/
inductive Resolution where
  | resolved (release : ResolvedRelease)
  | unsupported (generation : String)
deriving DecidableEq, Repr

/-- A part of a run that may end with a fault. -/
abbrev Task (σ α : Type) := ExceptT PublishFault (StateM (Journal σ)) α

namespace Task

variable {σ : Type}

/-- A part of a run that cannot fail. -/
def perform {α : Type} (run : Run σ α) : Task σ α := ExceptT.lift run

/-- A part of a run whose fault does not end the run here. -/
def attempt {α : Type} (task : Task σ α) : Task σ (Except PublishFault α) := perform task.run

/-- A call that must succeed. -/
def require {α : Type} (call : Run σ (Except Causes α)) (fault : Causes → PublishFault) :
    Task σ α := do
  match ← perform call with
  | .ok a => return a
  | .error causes => throw (fault causes)

end Task

namespace Resolution

/-- What a fetched release is. -/
def ofFetched (release : ReleaseId) (fetched : FetchedRelease) :
    Except PublishFault Resolution :=
  match ReleaseDocument.ofText? fetched.document with
  | none => .error (.resolution release .malformedDocument)
  | some document =>
    if document.isUnsupported then .ok (.unsupported (document.generation.getD ""))
    else .ok (.resolved ⟨document, fetched.package, fetched.directory⟩)

end Resolution

variable {σ : Type}

/-- Gets hold of the release at an address. -/
def resolveRelease (services : Services σ) (release : ReleaseId) (uri : String) :
    Task σ Resolution := do
  let uri := Text.trim uri
  if uri = "" then throw (.resolution release .noUri)
  let fetched ← Task.require (services.runFetch uri release) fun causes =>
    .resolution release (.notFetched causes)
  Resolution.ofFetched release fetched

end ConnectorCatalog
