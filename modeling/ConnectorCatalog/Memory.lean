import ConnectorCatalog.Keyed
import ConnectorCatalog.Services
import ConnectorCatalog.Text.Order

/-!
# Services in memory

Services without a network, for dry runs and examples. What they know is fixed; calls can be told
to fail; the store remembers which objects it holds.
-/

namespace ConnectorCatalog.Memory

/-- What the services know, and which calls fail. -/
structure Setup where
  connectors : List (Identity × ConnectorInfo)
  failingLookups : List String
  /-- Why rows are rejected; nothing is rejected if there is no reason. -/
  publishFailure : Causes
  failingPuts : List String
  failingDeletes : List String
  imagesFail : Bool
  /-- The documents of releases by the addresses of their packages. -/
  releases : List (String × String)
deriving Repr, Inhabited

/-- The objects in the store: their keys, in order, with the files that were put there. -/
abbrev Store := List (String × String)

/-- The address of the object with a key. -/
def objectUrl (key : String) : String := "https://storage.example.test/packages-bucket/" ++ key

/-- The address of a logo. -/
def imageUrl (publicId : String) (format : LogoFormat) : String :=
  "https://images.example.test/" ++ publicId ++ "." ++ format.extension

/-- The store with another object. -/
def keep (key path : String) (store : Store) : Store :=
  Keyed.insert (fun a b => Text.compareTexts a.1 b.1) (key, path) store

/-- The value of a key; of several the last counts. -/
def lastValue? {α β : Type} [BEq α] (key : α) (entries : List (α × β)) : Option β :=
  entries.reverse.lookup key

/-- The directory of a release. -/
def releaseDir (release : ReleaseId) : String :=
  "memory/" ++ release.connector.ns ++ "/" ++ release.connector.name ++ "/" ++ release.version

/-- The answer to a fetch. -/
def fetched (setup : Setup) (uri : String) (release : ReleaseId) : Except Causes FetchedRelease :=
  match lastValue? uri setup.releases with
  | some document =>
    .ok ⟨document, releaseDir release ++ "/package.tgz", releaseDir release⟩
  | none => .error ["Error downloading file: 404 Not Found (" ++ uri ++ ")"]

/-- The services of a setup. -/
def services (setup : Setup) : Services Store where
  upload _ publicId format store :=
    if setup.imagesFail then
      (.error ["simulated image upload failure for " ++ publicId], store)
    else (.ok (imageUrl publicId format), store)
  lookup connector store :=
    if setup.failingLookups.contains connector.toText then
      (.error ["simulated lookup failure for " ++ connector.toText], store)
    else (.ok (lastValue? connector setup.connectors), store)
  fetch uri release store := (fetched setup uri release, store)
  put key path store :=
    if setup.failingPuts.contains key then
      (.error ["simulated upload failure for " ++ key], store)
    else (.ok (objectUrl key), keep key path store)
  delete key store :=
    if setup.failingDeletes.contains key then
      (.error ["simulated delete failure for " ++ key], store)
    else (.ok (), store.filter (·.1 != key))
  publish _ store :=
    if setup.publishFailure.isEmpty then (.ok (), store) else (.error setup.publishFailure, store)

end ConnectorCatalog.Memory
