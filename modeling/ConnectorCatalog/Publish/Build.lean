import ConnectorCatalog.Document.Metadata
import ConnectorCatalog.Publish.Resolve

/-!
# Building rows

The rows that each kind of change contributes to a publish run. A builder reads what it needs from
the registry tree and asks the services. An upload is the last thing that it does, when nothing
else can fail any more.
-/

namespace ConnectorCatalog

/-- Where rows are built. -/
structure BuildSite (σ : Type) where
  environment : Environment
  /-- The directory that holds the registry tree. -/
  repoRoot : String
  tree : FileTree
  services : Services σ

/-- The rows of a new connector. -/
structure NewConnectorRows where
  connector : ConnectorRow
  overview : OverviewRow
deriving DecidableEq, Repr

/-- What has become of a release. -/
inductive ReleaseOutcome where
  | built (row : VersionRow)
  | skipped (generation : String)
deriving DecidableEq, Repr

/-! ### What documents say -/

/-- Whether the overview of a new connector agrees with where it stands. -/
def checkOverview (connector : Identity) (overview : Overview) : Except PublishFault Unit :=
  let fault (f : ConsistencyFault) := Except.error (PublishFault.consistency connector none f)
  if overview.ns = "" then fault .noNamespace
  else if overview.ns ≠ connector.ns then fault (.otherNamespace overview.ns connector.ns)
  else if overview.title = "" then fault .noTitle
  else .ok ()

/-- The rows of a new connector whose logo and documentation are known. -/
def newConnectorRows (connector : Identity) (metadata : ConnectorMetadata) (logo docs : String) :
    NewConnectorRows where
  connector := ⟨connector.name, metadata.overview.title, connector.ns⟩
  overview := {
    ns := connector.ns
    name := connector.name
    title := metadata.overview.title
    description := metadata.overview.description
    logo, docs
    isVerified := metadata.isVerified
    isHosted := metadata.isHosted
    author := ⟨metadata.author.name, metadata.author.supportEmail, metadata.author.homepage⟩ }

/-- A text unless it is empty. -/
def nonEmpty? (s : String) : Option String := if s = "" then none else some s

/-- The columns that changed metadata set: the latest version, the title and the description. -/
def overviewChange (overview : Overview) : OverviewChange where
  docs := none
  logo := none
  latestVersion := nonEmpty? overview.latestVersion
  title := nonEmpty? overview.title
  description := nonEmpty? overview.description

/-- Whether a packaging descriptor declares the version of the directory that it stands in. -/
def checkVersion (release : ReleaseId) (declared : String) : Except PublishFault Unit :=
  let fault (f : ConsistencyFault) :=
    Except.error (PublishFault.consistency release.connector (some release.version) f)
  match ReleaseVersion.parse declared with
  | .error f => fault (.invalidVersion f)
  | .ok _ =>
    if declared ≠ release.version then fault (.otherVersion declared release.version) else .ok ()

/-- How a release is packaged by its document, and the image that it consists of. -/
def packagingOf (document : ReleaseDocument) :
    Except ConsistencyFault (PackagingKind × Option String) :=
  match document.packaging with
  | none => .error .noPackaging
  | some packaging =>
    if packaging.kind = ReleaseDocument.prebuiltImage then
      match packaging.image.map Text.trim >>= nonEmpty? with
      | some image => .ok (.prebuiltImage, some image)
      | none => .error .noImage
    else if packaging.kind = ReleaseDocument.managedBuild then .ok (.managedBuild, none)
    else if packaging.kind = "" then .error .noPackagingType
    else .error (.unknownPackagingType packaging.kind)

/-! ### Builders -/

namespace BuildSite

variable {σ : Type} (site : BuildSite σ)

/-- A path of the registry tree from the working directory. -/
def locate (path : String) : String := Path.append site.repoRoot path

/-- The directory of a connector. -/
def connectorDir (connector : Identity) : String :=
  Path.append (Path.append (site.locate "registry") connector.ns) connector.name

/-- Opens the file at a path. -/
def openBytes (path : String) : Run σ (Except OsFault Bytes) := do
  Run.note (.opened path)
  return site.tree.readBytes path

/-- Opens the text file at a path. -/
def openText (path : String) : Run σ (Except ReadFault String) := do
  Run.note (.opened path)
  return site.tree.readText path

/-- Reads a document of the registry tree. -/
def readDocument {α : Type} (noun : String) (parse? : String → Option α) (connector : Identity)
    (path : String) : Task σ α := do
  let content ← Task.perform (site.openText (site.locate path))
  match Document.ofContent noun parse? (site.locate path) content with
  | .ok document => return document
  | .error fault => throw (.missing connector path (.document fault))

/-- Reads the metadata of a connector. -/
def readMetadata (connector : Identity) (path : String) : Task σ ConnectorMetadata :=
  site.readDocument ConnectorMetadata.noun ConnectorMetadata.ofText? connector path

/-- Reads the packaging descriptor of a release. -/
def readPackaging (connector : Identity) (path : String) : Task σ PackagingDescriptor :=
  site.readDocument PackagingDescriptor.noun PackagingDescriptor.ofText? connector path

/-- Reads a text file. -/
def readText (connector : Identity) (path : String) : Task σ String := do
  match ← Task.perform (site.openText path) with
  | .ok text => return text
  | .error fault => throw (.missing connector path (.file fault))

/-- Uploads the logo in the file at a path. -/
def uploadLogo (connector : Identity) (path : String) (format : LogoFormat) : Task σ String := do
  match ← Task.perform (site.openBytes path) with
  | .error fault => throw (.missing connector path (.file (.os fault)))
  | .ok content =>
    Task.require (site.services.runUpload content connector.logoPublicId format) fun causes =>
      .imageUpload connector path causes

/-- The logo in the directory of a connector; of two logos the one in PNG format. -/
def findLogo? (dir : String) : Option (String × LogoFormat) :=
  [LogoFormat.png, LogoFormat.svg].findSome? fun format =>
    let path := Path.append dir ("logo." ++ format.extension)
    if site.tree.isFile path then some (path, format) else none

/-- Looks a connector up in the registry. -/
def lookup (connector : Identity) : Task σ (Option ConnectorInfo) :=
  Task.require (site.services.runLookup connector) fun causes => .registry connector causes

/-- The rows of a connector that is added. -/
def newConnector (connector : Identity) (path : String) : Task σ NewConnectorRows := do
  let metadata ← site.readMetadata connector path
  checkOverview connector metadata.overview
  let dir := site.connectorDir connector
  let docs ← site.readText connector (Path.append dir "README.md")
  match site.findLogo? dir with
  | none => throw (.missing connector (Path.append dir "logo.png") .noLogo)
  | some (logoPath, format) =>
    let existing ← site.lookup connector
    if existing.isSome && site.environment = .production then
      throw (.consistency connector none .existsInProduction)
    let logo ← site.uploadLogo connector logoPath format
    return newConnectorRows connector metadata logo docs

/-- The update for a connector whose metadata is modified. -/
def modifiedConnector (connector : Identity) (path : String) : Task σ OverviewUpdate := do
  let metadata ← site.readMetadata connector path
  let change := overviewChange metadata.overview
  if change.isEmpty then throw (.consistency connector none .nothingToUpdate)
  return .ofConnector connector change

/-- The update for a logo. -/
def logo (connector : Identity) (path : String) (format : LogoFormat) : Task σ OverviewUpdate := do
  let url ← site.uploadLogo connector (site.locate path) format
  return .ofConnector connector { OverviewChange.none with logo := some url }

/-- The update for the documentation. -/
def readme (connector : Identity) (path : String) : Task σ OverviewUpdate := do
  let docs ← site.readText connector (site.locate path)
  return .ofConnector connector { OverviewChange.none with docs := some docs }

/-- Whether a release is for several tenants at once: as the registry says, and not so for a
connector that the run creates. -/
def multitenancy (release : ReleaseId) (isNew : Bool) : Task σ Bool := do
  match ← site.lookup release.connector with
  | some info => return info.isMultitenant
  | none =>
    if isNew then return false
    else throw (.consistency release.connector (some release.version) .unknownConnector)

/-- The row of a release that is at hand. -/
def versionRow (release : ReleaseId) (resolved : ResolvedRelease) (isNew : Bool) :
    Task σ VersionRow := do
  match packagingOf resolved.document with
  | .error fault => throw (.consistency release.connector (some release.version) fault)
  | .ok (kind, image) =>
    let isMultitenant ← site.multitenancy release isNew
    let url ← Task.require (site.services.runPut release.packageKey resolved.package)
      fun causes => .storage release release.packageKey causes
    return {
      ns := release.connector.ns
      name := release.connector.name
      version := release.version
      image
      packageUrl := url
      isMultitenant
      kind }

/-- The row of a release that is added, with its packaging descriptor at a path. `isNew` says
whether the run creates the connector. -/
def release (release : ReleaseId) (path : String) (isNew : Bool) : Task σ ReleaseOutcome := do
  let descriptor ← site.readPackaging release.connector path
  checkVersion release descriptor.version
  match ← resolveRelease site.services release descriptor.uri with
  | .unsupported generation => return .skipped generation
  | .resolved resolved => return .built (← site.versionRow release resolved isNew)

end BuildSite

end ConnectorCatalog
