import ConnectorCatalog.Archive.Fetch
import ConnectorCatalog.Images.Client
import ConnectorCatalog.Registry.Client
import ConnectorCatalog.Storage.Client

/-!
# Services over a network

The services of a publish run as a configuration and credentials name them, reached over a network.
Packages are kept as files of the machine until they are stored.
-/

namespace ConnectorCatalog

open Http (Network)

/-- How the services of a run are reached. -/
structure Remote where
  images : ImageClient
  registry : RegistryClient
  storage : StorageClient
  /-- The directory for downloads. -/
  scratchDir : String
deriving DecidableEq, Repr

namespace Remote

/-- The services that a configuration names. -/
def ofConfig (config : Config) (secrets : Secrets) : Remote where
  images := ⟨config.images, secrets.imageKey, secrets.imageSecret⟩
  registry := ⟨config.registry.graphqlUrl, config.registry.role, secrets.publicationKey⟩
  storage := ⟨config.storage, secrets.storageKeyId, secrets.storageKey⟩
  scratchDir := config.run.scratchDir

variable {σ : Type} (network : Network σ)

/-- Uses the network of a machine. -/
def overNetwork {α : Type} (work : StateM σ (Except Causes α)) (machine : Machine σ) :
    Except Causes α × Machine σ :=
  (Archive.onNetwork work).run machine

/-- Stores the file at a path under a key. -/
def putFile (storage : StorageClient) (now : Moment) (key path : String) : Work σ String := do
  match (← get).files.readBytes path with
  | .error fault => throw ["Failed to read package: " ++ path, fault.message]
  | .ok content => Archive.onNetwork (storage.put network now key content)

/-- The services at a moment. -/
def services (remote : Remote) (now : Moment) : Services (Machine σ) where
  upload content publicId format :=
    overNetwork (remote.images.upload network now content publicId format)
  lookup connector := overNetwork (remote.registry.lookup network connector)
  fetch uri release := (Archive.fetchRelease network remote.scratchDir uri release).run
  put key path := (putFile network remote.storage now key path).run
  delete key := overNetwork (remote.storage.delete network now key)
  publish request := overNetwork (remote.registry.publish network request)

end Remote

end ConnectorCatalog
