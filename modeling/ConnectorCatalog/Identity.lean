import ConnectorCatalog.Text.Order

/-!
# Connectors and their releases

A connector is known by its namespace and its name, a release by its connector and its version.
Both are compared exactly; the order of identities, by namespace and then by name, is the order of
every report.
-/

namespace ConnectorCatalog

/-- The key of a connector. -/
structure Identity where
  /-- The namespace. -/
  ns : String
  name : String
deriving DecidableEq, Repr, Inhabited

namespace Identity

/-- The identity as it is shown. -/
def toText (id : Identity) : String := id.ns ++ "/" ++ id.name

/-- The order of identities. -/
def compare (a b : Identity) : Ordering :=
  (Text.compareTexts a.ns b.ns).then (Text.compareTexts a.name b.name)

/-- The name under which the image host keeps the connector's logo. -/
def logoPublicId (id : Identity) : String := id.ns ++ "-" ++ id.name

end Identity

/-- The key of a release. -/
structure ReleaseId where
  connector : Identity
  version : String
deriving DecidableEq, Repr, Inhabited

namespace ReleaseId

/-- The release as it is shown. -/
def toText (r : ReleaseId) : String := r.connector.toText ++ " @ " ++ r.version

/-- The key of the release's package in the blob store. -/
def packageKey (r : ReleaseId) : String :=
  "packages/" ++ r.connector.ns ++ "/" ++ r.connector.name ++ "/" ++ r.version ++ "/package.tgz"

end ReleaseId

end ConnectorCatalog
