import ConnectorCatalog.Json.Reader
import ConnectorCatalog.Json.Record

/-!
# Test configs

The document that a packaging descriptor names for the test run of a release.
-/

namespace ConnectorCatalog

/-- How a release is tested. -/
structure TestConfig where
  hubId : String
  port : Option Nat
  snapshotsDir : String
deriving DecidableEq, Repr, Inhabited

namespace TestConfig

/-- Ports are below this number. -/
def portBound : Nat := 65536

/-- The test config that a JSON value stands for. -/
def ofJson? (value : Json) : Option TestConfig := do
  let [hubId, port, snapshotsDir] ← value.members? ["hub_id", "port", "snapshots_dir"] 0 | none
  return ⟨← Json.withDefault Json.text? "" hubId,
    ← Json.optional (Json.natBelow? portBound) port,
    ← Json.withDefault Json.text? "" snapshotsDir⟩

/-- The test config that a text stands for. -/
def ofText? (text : String) : Option TestConfig := Json.parse? text >>= ofJson?

end TestConfig

end ConnectorCatalog
