import ConnectorCatalog.Files.Access
import ConnectorCatalog.Text.Blank
import ConnectorCatalog.Toml.Reader

/-!
# Configuration

The settings of a publish run are read from a TOML document, the credentials from the environment.

* `Config.parse` reads a document and checks it, `Config.load` one from a file.
* `Secrets.ofEnvironment` collects the credentials; each must be set and not blank.
-/

namespace ConnectorCatalog

/-- How the registry is reached. -/
structure RegistrySettings where
  graphqlUrl : String
  role : String
deriving DecidableEq, Repr, Inhabited

/-- Where packages are stored. -/
structure StorageSettings where
  bucket : String
  endpoint : String
  region : String
  publicBaseUrl : Option String
deriving DecidableEq, Repr, Inhabited

/-- Where logos are stored. -/
structure ImageSettings where
  cloudName : String
  folder : Option String
deriving DecidableEq, Repr, Inhabited

/-- Where a run works, and how long a request may take. -/
structure RunSettings where
  repoRoot : String
  scratchDir : String
  timeoutSecs : Nat
deriving DecidableEq, Repr, Inhabited

/-- All settings. -/
structure Config where
  registry : RegistrySettings
  storage : StorageSettings
  images : ImageSettings
  run : RunSettings
deriving DecidableEq, Repr, Inhabited

/-- Why a document is no configuration. -/
inductive ConfigFault where
  | malformed
  | notAUrl (text : String)
  | emptyRole
  | emptyBucket
  | emptyRegion
  | emptyCloudName
  | zeroTimeout
deriving DecidableEq, Repr

/-- The messages of a fault, outermost first. -/
def ConfigFault.causes : ConfigFault → List String
  | malformed => ["Failed to parse config file", "the text does not have the expected form"]
  | notAUrl text => ["registry.graphql_url must be an http(s) URL, got '" ++ text ++ "'"]
  | emptyRole => ["registry.role must not be empty"]
  | emptyBucket => ["storage.bucket must not be empty"]
  | emptyRegion => ["storage.region must not be empty"]
  | emptyCloudName => ["images.cloud_name must not be empty"]
  | zeroTimeout => ["pipeline.timeout_secs must be > 0"]

/-- Why a file holds no configuration. -/
inductive ConfigFileFault where
  | unreadable (path : String) (fault : ReadFault)
  | invalid (path : String) (fault : ConfigFault)
deriving DecidableEq, Repr

/-- The messages of a fault, outermost first. -/
def ConfigFileFault.causes : ConfigFileFault → List String
  | unreadable path fault => ["Failed to read config file: " ++ path, fault.message]
  | invalid path fault => ("Invalid config file: " ++ path) :: fault.causes

/-- The base of the addresses under which packages are found. -/
def StorageSettings.effectiveBaseUrl (s : StorageSettings) : String :=
  match s.publicBaseUrl with
  | some url => Text.trimSlashes url
  | none => Text.trimSlashes s.endpoint ++ "/" ++ s.bucket

namespace Config

open Toml (Value)

/-! ### Reading -/

/-- The role in which requests to the registry are made unless another one is set. -/
def defaultRole : String := "connector_publishing_automation"

/-- The storage service that is used unless another one is set. -/
def defaultEndpoint : String := "https://storage.googleapis.com"

/-- The region of the storage service unless another one is set. -/
def defaultRegion : String := "auto"

/-- The number of seconds that a request may take unless another one is set. -/
def defaultTimeoutSecs : Nat := 60

/-- The settings of a run that are used unless others are set. -/
def defaultRun (tempDir : String) : RunSettings :=
  ⟨".", Path.append tempDir "hub-publish", defaultTimeoutSecs⟩

/-- A field that must be given. -/
def required {α : Type} (read : Value → Option α) (field : Option Value) : Option α :=
  field >>= read

/-- A field that stands for `missing` when it is not given. -/
def withDefault {α : Type} (read : Value → Option α) (missing : α) : Option Value → Option α
  | some value => read value
  | none => some missing

/-- A field that may be missing. -/
def optional {α : Type} (read : Value → Option α) : Option Value → Option (Option α)
  | some value => (read value).map some
  | none => some none

/-- The registry settings that a value stands for. -/
def registryOf? (value : Value) : Option RegistrySettings := do
  let [url, role] ← value.fields? ["graphql_url", "role"] | none
  return ⟨← required Value.text? url, ← withDefault Value.text? defaultRole role⟩

/-- The storage settings that a value stands for. -/
def storageOf? (value : Value) : Option StorageSettings := do
  let [bucket, endpoint, region, publicBaseUrl] ←
    value.fields? ["bucket", "endpoint", "region", "public_base_url"] | none
  return ⟨← required Value.text? bucket, ← withDefault Value.text? defaultEndpoint endpoint,
    ← withDefault Value.text? defaultRegion region, ← optional Value.text? publicBaseUrl⟩

/-- The image settings that a value stands for. -/
def imagesOf? (value : Value) : Option ImageSettings := do
  let [cloudName, folder] ← value.fields? ["cloud_name", "folder"] | none
  return ⟨← required Value.text? cloudName, ← optional Value.text? folder⟩

/-- The settings of a run that a value stands for. -/
def runOf? (tempDir : String) (value : Value) : Option RunSettings := do
  let [repoRoot, scratchDir, timeoutSecs] ←
    value.fields? ["repo_root", "scratch_dir", "timeout_secs"] | none
  let missing := defaultRun tempDir
  return ⟨← withDefault Value.text? missing.repoRoot repoRoot,
    ← withDefault Value.text? missing.scratchDir scratchDir,
    ← withDefault Value.natural? missing.timeoutSecs timeoutSecs⟩

/-- The configuration that a table stands for. -/
def ofValue? (tempDir : String) (value : Value) : Option Config := do
  let [registry, storage, images, run] ←
    value.fields? ["registry", "storage", "images", "pipeline"] | none
  return ⟨← required registryOf? registry, ← required storageOf? storage,
    ← required imagesOf? images, ← withDefault (runOf? tempDir) (defaultRun tempDir) run⟩

/-! ### Checks -/

/-- The first fault of a configuration, if it has one. -/
def fault? (c : Config) : Option ConfigFault :=
  let url := Text.trim c.registry.graphqlUrl
  if !(Text.startsWith "https://" url || Text.startsWith "http://" url) then some (.notAUrl url)
  else if Text.isAllBlank c.registry.role then some .emptyRole
  else if Text.isAllBlank c.storage.bucket then some .emptyBucket
  else if Text.isAllBlank c.storage.region then some .emptyRegion
  else if Text.isAllBlank c.images.cloudName then some .emptyCloudName
  else if c.run.timeoutSecs = 0 then some .zeroTimeout
  else none

/-- The configuration that a text stands for; temporary files go below `tempDir`. -/
def parse (tempDir text : String) : Except ConfigFault Config :=
  match Toml.parse? text >>= ofValue? tempDir with
  | none => .error .malformed
  | some config =>
    match config.fault? with
    | some fault => .error fault
    | none => .ok config

/-- The configuration in the file at a path. -/
def load (tempDir : String) (tree : FileTree) (path : String) : Except ConfigFileFault Config :=
  match tree.readText path with
  | .error fault => .error (.unreadable path fault)
  | .ok text =>
    match parse tempDir text with
    | .error fault => .error (.invalid path fault)
    | .ok config => .ok config

end Config

/-! ### Credentials -/

/-- The credentials of a run. -/
structure Secrets where
  publicationKey : String
  storageKeyId : String
  storageKey : String
  imageKey : String
  imageSecret : String
deriving DecidableEq, Repr, Inhabited

/-- Why a credential is missing. -/
inductive SecretFault where
  | unset (name : String)
  | blank (name : String)
deriving DecidableEq, Repr

/-- The text of a fault. -/
def SecretFault.message : SecretFault → String
  | unset name => name ++ " environment variable not set"
  | blank name => name ++ " environment variable is empty"

namespace Secrets

/-- The value of a variable that must be set. -/
def credential (environment : String → Option String) (name : String) :
    Except SecretFault String :=
  match environment name with
  | none => .error (.unset name)
  | some value => if Text.isAllBlank value then .error (.blank name) else .ok value

/-- The credentials in an environment; the first that is missing is reported. -/
def ofEnvironment (environment : String → Option String) : Except SecretFault Secrets := do
  let publicationKey ← credential environment "CONNECTOR_PUBLICATION_KEY"
  let storageKeyId ← credential environment "HUB_STORAGE_ACCESS_KEY_ID"
  let storageKey ← credential environment "HUB_STORAGE_SECRET_ACCESS_KEY"
  let imageKey ← credential environment "IMAGE_HOST_API_KEY"
  let imageSecret ← credential environment "IMAGE_HOST_API_SECRET"
  return ⟨publicationKey, storageKeyId, storageKey, imageKey, imageSecret⟩

/-- What is shown of credentials. -/
def display (_ : Secrets) : String := "Secrets \x7b .. \x7d"

end Secrets

end ConnectorCatalog
