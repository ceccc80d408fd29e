import ConnectorCatalog.Change
import ConnectorCatalog.Json.Basic

/-!
# Progress events

What a publish run reports while it works: one event for each stage that it reaches and for each
change that it builds rows for.
-/

namespace ConnectorCatalog

/-- A report of progress. -/
inductive ProgressEvent where
  /-- The diff is understood. -/
  | classified (changes releases : Nat)
  /-- The rows of a change are being built. -/
  | building (bucket : Bucket) (connector : Identity) (version : Option String)
  | releaseSkipped (release : ReleaseId) (generation : String)
  | releaseFailed (release : ReleaseId) (error : String)
  /-- The rows are about to be handed over. -/
  | submitting (rows versions : Nat)
  | committed (rows : Nat)
  /-- Uploaded packages have been deleted again. -/
  | rolledBack (attempted deleted failed : Nat)
deriving DecidableEq, Repr

namespace Identity

/-- The JSON form of an identity. -/
def toJson (id : Identity) : Json := .obj [("namespace", .str id.ns), ("name", .str id.name)]

end Identity

namespace ProgressEvent

/-- The JSON form of an event. -/
def toJson : ProgressEvent → Json
  | classified changes releases => .obj [("event", .str "classified"),
    ("changes", .ofNat changes), ("releases", .ofNat releases)]
  | building bucket connector version => .obj ([("event", .str "building"),
    ("bucket", .str bucket.label), ("identity", connector.toJson)] ++
    (version.map fun version => ("version", Json.str version)).toList)
  | releaseSkipped release generation => .obj [("event", .str "release_skipped"),
    ("identity", release.connector.toJson), ("version", .str release.version),
    ("generation", .str generation)]
  | releaseFailed release error => .obj [("event", .str "release_failed"),
    ("identity", release.connector.toJson), ("version", .str release.version),
    ("error", .str error)]
  | submitting rows versions => .obj [("event", .str "submitting"), ("rows", .ofNat rows),
    ("versions", .ofNat versions)]
  | committed rows => .obj [("event", .str "committed"), ("rows", .ofNat rows)]
  | rolledBack attempted deleted failed => .obj [("event", .str "rolled_back"),
    ("attempted", .ofNat attempted), ("deleted", .ofNat deleted), ("failed", .ofNat failed)]

end ProgressEvent

end ConnectorCatalog
