import ConnectorCatalog.Publish.Artifacts
import ConnectorCatalog.Publish.Run

/-!
# Reports

The JSON form of what a command has found out: the summary of a change set, the outcome of a
publish run and the list of unpacked releases.
-/

namespace ConnectorCatalog

/-- The line of a summary for a change. -/
def Change.toJson (c : Change) : Json :=
  .obj ([("bucket", .str c.bucket.label), ("namespace", .str c.connector.ns),
    ("name", .str c.connector.name)] ++
    (c.version?.map fun version => ("version", Json.str version)).toList ++
    [("path", .str c.path)])

/-- The summary of a change set, in the order of its changes. -/
def ChangeSet.toJson (set : ChangeSet) : Json :=
  .obj [("entries", .arr (set.changes.map Change.toJson))]

/-- The report of a skipped release. -/
def SkippedRelease.toJson (s : SkippedRelease) : Json :=
  .obj [("identity", s.release.connector.toJson), ("version", .str s.release.version),
    ("generation", .str s.generation)]

/-- The report of a failed release. -/
def FailedRelease.toJson (f : FailedRelease) : Json :=
  .obj [("identity", f.release.connector.toJson), ("version", .str f.release.version),
    ("error", .str f.fault.message)]

/-- The report of a publish run. -/
def PublishOutcome.toJson (o : PublishOutcome) : Json :=
  .obj [("state", .str o.state.label),
    ("connector_inserts", .ofNat o.connectors),
    ("overview_inserts", .ofNat o.overviews),
    ("overview_updates", .ofNat o.updates),
    ("versions", .ofNat o.versions),
    ("skipped_releases", .arr (o.skipped.map SkippedRelease.toJson)),
    ("failed_releases", .arr (o.failed.map FailedRelease.toJson))]

/-- The report of an unpacked release. -/
def ReleaseArtifacts.toJson (a : ReleaseArtifacts) : Json :=
  .obj [("namespace", .str a.release.connector.ns), ("name", .str a.release.connector.name),
    ("version", .str a.release.version), ("docker_images", .ofTexts a.images),
    ("artifacts_dir", .str a.directory)]

end ConnectorCatalog
