import ConnectorCatalog.Publish.Build

/-!
# Artifacts of added releases

The releases that a diff adds, unpacked, with the container images that they refer to. Releases of
the unsupported generation are left out; the first fault ends the work.
-/

namespace ConnectorCatalog

/-- A release that has been unpacked. -/
structure ReleaseArtifacts where
  release : ReleaseId
  images : List String
  directory : String
deriving DecidableEq, Repr

variable {σ : Type}

namespace BuildSite

variable (site : BuildSite σ)

/-- The artifacts of an added release, if it is published at all. -/
def artifacts? (added : AddedRelease) : Task σ (Option ReleaseArtifacts) := do
  let descriptor ← site.readPackaging added.id.connector added.packagingPath
  match ← resolveRelease site.services added.id descriptor.uri with
  | .resolved resolved => return some ⟨added.id, resolved.document.images, resolved.directory⟩
  | .unsupported _ => return none

/-- The artifacts of added releases, in their order. -/
def artifactsOf : List AddedRelease → Task σ (List ReleaseArtifacts)
  | [] => return []
  | added :: rest => do
    let first ← site.artifacts? added
    return first.toList ++ (← artifactsOf rest)

/-- The artifacts of the releases that a diff adds. -/
def collectArtifacts (files : ChangedFiles) : Task σ (List ReleaseArtifacts) :=
  site.artifactsOf (addedReleases files)

end BuildSite

end ConnectorCatalog
