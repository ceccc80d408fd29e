import ConnectorCatalog.Identity

/-!
# Rows of the registry

The rows that a publish run hands over to the registry, in the registry's columns. A `Batch` holds
the rows of a run: new connectors with their overviews, updates of overviews, and versions.
-/

namespace ConnectorCatalog

/-- A connector. -/
structure ConnectorRow where
  name : String
  title : String
  ns : String
deriving DecidableEq, Repr, Inhabited

/-- The author in an overview. -/
structure AuthorRow where
  name : String
  supportEmail : String
  website : String
deriving DecidableEq, Repr, Inhabited

/-- What the registry shows of a connector. -/
structure OverviewRow where
  ns : String
  name : String
  title : String
  description : String
  logo : String
  docs : String
  isVerified : Bool
  isHosted : Bool
  author : AuthorRow
deriving DecidableEq, Repr, Inhabited

/-- The columns of an overview that an update sets; the others stay as they are. -/
structure OverviewChange where
  docs : Option String
  logo : Option String
  latestVersion : Option String
  title : Option String
  description : Option String
deriving DecidableEq, Repr, Inhabited

/-- A condition on the overviews that an update is for. -/
inductive OverviewFilter where
  | name (value : String)
  | ns (value : String)
deriving DecidableEq, Repr

/-- An update of the overviews that meet all conditions. -/
structure OverviewUpdate where
  change : OverviewChange
  filters : List OverviewFilter
deriving DecidableEq, Repr

/-- How a version is packaged. -/
inductive PackagingKind where
  | prebuiltImage | managedBuild
deriving DecidableEq, Repr

/-- A version of a connector. -/
structure VersionRow where
  ns : String
  name : String
  version : String
  /-- The container image, for versions that are one. -/
  image : Option String
  packageUrl : String
  isMultitenant : Bool
  kind : PackagingKind
deriving DecidableEq, Repr

/-- The rows of a publish run. -/
structure Batch where
  connectors : List ConnectorRow
  overviews : List OverviewRow
  updates : List OverviewUpdate
  versions : List VersionRow
deriving DecidableEq, Repr, Inhabited

namespace OverviewChange

/-- No column is set. -/
def none : OverviewChange := ⟨.none, .none, .none, .none, .none⟩

/-- Whether no column is set. -/
def isEmpty (c : OverviewChange) : Bool := c == none

end OverviewChange

namespace OverviewUpdate

/-- An update of the overview of one connector. -/
def ofConnector (connector : Identity) (change : OverviewChange) : OverviewUpdate :=
  ⟨change, [.name connector.name, .ns connector.ns]⟩

end OverviewUpdate

namespace PackagingKind

/-- The name of a kind. -/
def label : PackagingKind → String
  | prebuiltImage => "PrebuiltDockerImage"
  | managedBuild => "ManagedDockerBuild"

/-- The kind with a name. -/
def ofLabel? : String → Option PackagingKind
  | "PrebuiltDockerImage" => some prebuiltImage
  | "ManagedDockerBuild" => some managedBuild
  | _ => none

end PackagingKind

/-- The release that a version row is about. -/
def VersionRow.release (row : VersionRow) : ReleaseId := ⟨⟨row.ns, row.name⟩, row.version⟩

namespace Batch

/-- No row. -/
def empty : Batch := ⟨[], [], [], []⟩

/-- Whether there is no row. -/
def isEmpty (b : Batch) : Bool :=
  b.connectors.isEmpty && b.overviews.isEmpty && b.updates.isEmpty && b.versions.isEmpty

/-- The number of rows. -/
def rowCount (b : Batch) : Nat :=
  b.connectors.length + b.overviews.length + b.updates.length + b.versions.length

end Batch

end ConnectorCatalog
