import ConnectorCatalog.Identity
import ConnectorCatalog.Version.Release

/-!
# Changes to the registry tree

A changed file of the registry tree, understood as the operation it asks for.

* `Change` names the connector, the kind of operation and the file.
* `Bucket` is the heading under which reports list a change; `Change.compare` orders changes by
  bucket, connector and version, and tells changes apart that ask for different operations.
-/

namespace ConnectorCatalog

/-- The list of a diff that a path stands in. -/
inductive Origin where
  | added | modified
deriving DecidableEq, Repr

/-- The image format of a logo. -/
inductive LogoFormat where
  | png | svg
deriving DecidableEq, Repr

namespace LogoFormat

/-- The format's file extension. -/
def extension : LogoFormat → String
  | png => "png"
  | svg => "svg"

/-- The format with a file extension. -/
def ofExtension? : String → Option LogoFormat
  | "png" => some png
  | "svg" => some svg
  | _ => none

/-- The format's media type. -/
def mediaType : LogoFormat → String
  | png => "image/png"
  | svg => "image/svg+xml"

end LogoFormat

/-- What a change asks for. Only an added packaging file makes a release. -/
inductive ChangeKind where
  | metadata (origin : Origin)
  | logo (origin : Origin) (format : LogoFormat)
  | readme (origin : Origin)
  | release (version : String)
deriving DecidableEq, Repr

/-- A changed file and the operation it asks for. -/
structure Change where
  connector : Identity
  kind : ChangeKind
  path : String
deriving DecidableEq, Repr

/-- The headings of reports, in their order. -/
inductive Bucket where
  | newConnector | modifiedConnector | newLogo | modifiedLogo | newReadme | modifiedReadme
  | newVersion
deriving DecidableEq, Repr

namespace Bucket

/-- The name of a heading. -/
def label : Bucket → String
  | newConnector => "new_connector"
  | modifiedConnector => "modified_connector"
  | newLogo => "new_logo"
  | modifiedLogo => "modified_logo"
  | newReadme => "new_readme"
  | modifiedReadme => "modified_readme"
  | newVersion => "new_version"

/-- The heading with a name. -/
def ofLabel? : String → Option Bucket
  | "new_connector" => some newConnector
  | "modified_connector" => some modifiedConnector
  | "new_logo" => some newLogo
  | "modified_logo" => some modifiedLogo
  | "new_readme" => some newReadme
  | "modified_readme" => some modifiedReadme
  | "new_version" => some newVersion
  | _ => none

/-- The place of a heading in reports. -/
def rank : Bucket → Nat
  | newConnector => 0
  | modifiedConnector => 1
  | newLogo => 2
  | modifiedLogo => 3
  | newReadme => 4
  | modifiedReadme => 5
  | newVersion => 6

end Bucket

namespace ChangeKind

/-- The heading of a kind of change. -/
def bucket : ChangeKind → Bucket
  | metadata .added => .newConnector
  | metadata .modified => .modifiedConnector
  | logo .added _ => .newLogo
  | logo .modified _ => .modifiedLogo
  | readme .added => .newReadme
  | readme .modified => .modifiedReadme
  | release _ => .newVersion

/-- The version that a change is about. -/
def version? : ChangeKind → Option String
  | release version => some version
  | _ => none

end ChangeKind

namespace Change

/-- The heading of a change. -/
def bucket (c : Change) : Bucket := c.kind.bucket

/-- The version that a change is about. -/
def version? (c : Change) : Option String := c.kind.version?

/-- Versions of one bucket: both are there or none is. -/
def compareVersions : Option String → Option String → Ordering
  | some v, some w => ReleaseVersion.compare v w
  | some _, none => .gt
  | none, some _ => .lt
  | none, none => .eq

/-- The order of changes in reports. Changes that compare equal ask for the same operation. -/
def compare (a b : Change) : Ordering :=
  (Ord.compare a.bucket.rank b.bucket.rank).then <|
  (Identity.compare a.connector b.connector).then <|
  compareVersions a.version? b.version?

end Change

/-- The files that a diff names. Deleted files are never acted upon. -/
structure ChangedFiles where
  added : List String
  modified : List String
  deleted : List String
deriving DecidableEq, Repr, Inhabited

end ConnectorCatalog
