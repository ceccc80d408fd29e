import ConnectorCatalog.Proofs.Files.Access
import ConnectorCatalog.Proofs.TestMatrix.Targets

/-!
# The latest releases among all releases

The selection of all releases goes by the files of the registry tree.  The selection of the latest
ones goes by connectors and asks for the file of the version that each declares.  **It holds one
release of a connector at most, in the order of connectors; and a release of it is among all releases
exactly if a file of the registry tree is recognized as its packaging file** (`latest_of_all`).  That
is so if the declared version is a plain name, unless the name of the connector or the version is
that of the directory of aliases.
-/

namespace ConnectorCatalog

open Std Text

variable {tree : FileTree} {repo : String} {names : List String}

/-! ### Connectors -/

theorem mem_subdirectories {name : String} :
    name ∈ subdirectories tree names ↔ ([name], .dir) ∈ tree.below names := by
  rw [subdirectories, List.mem_filterMap]
  constructor
  · rintro ⟨e, hmem, hname⟩
    split at hname
    · cases hname
      exact hmem
    · cases hname
  · intro hmem
    exact ⟨_, hmem, rfl⟩

theorem sorted_subdirectories (htree : tree.WellFormed) (names : List String) :
    Keyed.Sorted compareTexts (subdirectories tree names) := by
  rw [subdirectories, Keyed.Sorted, List.pairwise_filterMap]
  refine (htree.sorted_below names).imp fun {a b} hab name hname name' hname' => ?_
  split at hname
  · cases hname
    split at hname'
    · cases hname'
      rw [← compareNames_singleton]
      exact hab
    · cases hname'
  · cases hname

theorem sorted_connectorDirectories (htree : tree.WellFormed) (names : List String) :
    Keyed.Sorted Identity.compare (connectorDirectories tree names) := by
  rw [connectorDirectories, Keyed.Sorted, List.pairwise_flatMap]
  constructor
  · intro ns hns
    rw [List.pairwise_map]
    refine (sorted_subdirectories htree _).imp fun {a b} hab => ?_
    have hself : compareTexts ns ns = .eq := ReflCmp.compare_self
    rw [Identity.compare, hself, Ordering.eq_then]
    exact hab
  · refine ((sorted_subdirectories htree names).filter _).imp fun {ns ns'} hlt a ha b hb => ?_
    obtain ⟨name, -, rfl⟩ := List.mem_map.1 ha
    obtain ⟨name', -, rfl⟩ := List.mem_map.1 hb
    rw [Identity.compare, hlt]
    rfl

theorem mem_connectorDirectories {connector : Identity} :
    connector ∈ connectorDirectories tree names ↔ connector.ns ≠ aliasDir ∧
      ([connector.ns], .dir) ∈ tree.below names ∧
      ([connector.name], .dir) ∈ tree.below (names ++ [connector.ns]) := by
  obtain ⟨ns, name⟩ := connector
  simp only [connectorDirectories, List.mem_flatMap, List.mem_filter, List.mem_map,
    mem_subdirectories, bne_iff_ne, Identity.mk.injEq]
  constructor
  · rintro ⟨ns, ⟨hdir, halias⟩, name, hname, rfl, rfl⟩
    exact ⟨halias, hdir, hname⟩
  · rintro ⟨halias, hdir, hname⟩
    exact ⟨ns, ⟨hdir, halias⟩, name, hname, rfl, rfl⟩

/-! ### Packaging files -/

/-- The names on the way from the registry directory to the packaging file of a release. -/
def packagingNames (release : ReleaseId) : List String :=
  [release.connector.ns, release.connector.name, "releases", release.version, packagingFile]

theorem append_packagingPath (repo : String) (release : ReleaseId) :
    Path.append repo (packagingPath release) =
      RegistryTree.root repo ++ "/" ++ joinTexts "/" (packagingNames release) := by
  have hpath : packagingPath release =
      RegistryTree.folder ++ ("/" ++ joinTexts "/" (packagingNames release)) := by
    simp only [packagingPath, packagingNames, joinTexts, String.append_assoc]
  have hrelative : Path.isAbsolute (packagingPath release) = false := by
    rw [hpath, Path.isAbsolute_append (by decide)]
    decide
  rw [Path.append_of_relative hrelative, hpath, RegistryTree.root,
    Path.append_isPlainName (by decide)]
  simp only [String.append_assoc]

/-- Without links, the packaging file of a release of plain names is found only where a walk comes to
it. -/
theorem exists_mem_below_of_isFile (htree : tree.WellFormed) (hlinks : tree.IsLinkless)
    (hfind : RegistryTree.find tree repo = .ok names) {release : ReleaseId}
    (hplain : ∀ name ∈ packagingNames release, Path.isPlainName name = true)
    (hfile : tree.isFile (Path.append repo (packagingPath release)) = true) :
    ∃ content, (packagingNames release, .file content) ∈ tree.below names := by
  unfold FileTree.isFile at hfile
  split at hfile
  · rename_i path content hlocate
    rw [append_packagingPath] at hlocate
    obtain ⟨entry, hplace, hentry⟩ := FileTree.locate_below hlinks htree
      (RegistryTree.dirNames?_root hfind) (RegistryTree.endsInName_root repo).getLast?_ne
      (by simp [packagingNames]) hplain hlocate
    cases hplace
    exact ⟨content, hentry⟩
  · cases hfile

theorem isPlainName_packagingNames {release : ReleaseId}
    (hns : Path.isPlainName release.connector.ns = true)
    (hname : Path.isPlainName release.connector.name = true)
    (hversion : Path.isPlainName release.version = true) :
    ∀ name ∈ packagingNames release, Path.isPlainName name = true := by
  have hreleases : Path.isPlainName "releases" = true := by decide
  have hpackaging : Path.isPlainName packagingFile = true := by decide
  simp only [packagingNames, List.forall_mem_cons]
  exact ⟨hns, hname, hreleases, hversion, hpackaging, by simp⟩

theorem not_mem_packagingNames {release : ReleaseId} (hns : release.connector.ns ≠ aliasDir)
    (hname : release.connector.name ≠ aliasDir) (hversion : release.version ≠ aliasDir) :
    aliasDir ∉ packagingNames release := by
  have hreleases : aliasDir ≠ "releases" := by decide
  have hpackaging : aliasDir ≠ packagingFile := by decide
  simp [packagingNames, hns.symm, hname.symm, hversion.symm, hreleases, hpackaging]

/-- The packaging file of a release of plain names is found where its release is recognized. -/
theorem exists_describes (htree : tree.WellFormed) (hlinks : tree.IsLinkless)
    (hslash : tree.AvoidsBackslashes) (hfind : RegistryTree.find tree repo = .ok names)
    {release : ReleaseId} (hconnector : release.connector ∈ connectorDirectories tree names)
    (hfile : tree.isFile (Path.append repo (packagingPath release)) = true)
    (hversion : Path.isPlainName release.version = true) (halias : release.version ≠ aliasDir)
    (hname : release.connector.name ≠ aliasDir) :
    ∃ files, RegistryTree.files tree repo = .ok files ∧
      ∃ file ∈ files, file.Describes release := by
  obtain ⟨hns, hnsdir, hnamedir⟩ := mem_connectorDirectories.1 hconnector
  have hplain := isPlainName_packagingNames (htree.isPlainName hnsdir (List.mem_singleton_self _))
    (htree.isPlainName hnamedir (List.mem_singleton_self _)) hversion
  obtain ⟨content, hentry⟩ := exists_mem_below_of_isFile htree hlinks hfind hplain hfile
  have hmem := not_mem_packagingNames hns hname halias
  refine ⟨(tree.below names).filterMap RegistryTree.file?, by rw [RegistryTree.files, hfind],
    ⟨packagingNames release, content⟩, RegistryTree.mem_walk.2 ⟨hentry, hmem⟩, rfl, ?_⟩
  have hslashes : ∀ name ∈ packagingNames release, '\\' ∉ name.toList := fun name hname =>
    hslash _ (FileTree.mem_below.1 hentry).2 name (List.mem_append_right _ hname)
  exact (RegistryFile.spells_iff hplain hslashes).2 ⟨rfl, hmem⟩

/-! ### The latest releases -/

theorem collect_of_latestTargets (hfind : RegistryTree.find tree repo = .ok names)
    {latest : List TestTarget} (hlatest : latestTargets tree repo = .ok latest) :
    collect (latestTarget? tree repo) (connectorDirectories tree names) = .ok latest := by
  rw [latestTargets, hfind] at hlatest
  dsimp only at hlatest
  rwa [collectTargets_eq] at hlatest

/-- **Which of the latest releases are among all releases.**  The latest releases stand in the order
of their connectors, each of which has one at most.  One of them is among all releases, with the same
test config, exactly if a file of the registry tree is recognized as its packaging file.  In a tree
without links and backslashes that is so exactly if its version is a plain name and neither that nor
the name of its connector is the name of the directory of aliases. -/
theorem latest_of_all (htree : tree.WellFormed) {latest all : List TestTarget}
    (hlatest : latestTargets tree repo = .ok latest) (hall : allTargets tree repo = .ok all) :
    Keyed.Sorted Identity.compare (latest.map (·.release.connector)) ∧
    (∀ t ∈ latest, t ∈ all ↔ ∃ files, RegistryTree.files tree repo = .ok files ∧
      ∃ file ∈ files, file.Describes t.release) ∧
    (tree.IsLinkless → tree.AvoidsBackslashes → ∀ t ∈ latest, t ∈ all ↔
      Path.isPlainName t.release.version = true ∧ t.release.version ≠ aliasDir ∧
        t.release.connector.name ≠ aliasDir) := by
  have hmem : ∀ t ∈ latest, t ∈ all ↔ ∃ files, RegistryTree.files tree repo = .ok files ∧
      ∃ file ∈ files, file.Describes t.release := by
    intro t ht
    obtain ⟨-, -, -, -, htarget⟩ := (mem_latestTargets hlatest).1 ht
    rw [mem_allTargets hall]
    exact and_iff_left htarget
  refine ⟨?_, hmem, fun hlinks hslash t ht => ?_⟩
  · unfold latestTargets at hlatest
    split at hlatest
    · cases hlatest
    · rename_i names hfind
      rw [collectTargets_eq] at hlatest
      have hsub : (latest.map (·.release.connector)).Sublist
          ((connectorDirectories tree names).map id) :=
        sublist_of_collect (fun connector t h => (latestTarget?_eq_some.1 h).1) hlatest
      rw [List.map_id] at hsub
      exact (sorted_connectorDirectories htree names).sublist hsub
  · rw [hmem t ht]
    constructor
    · rintro ⟨files, hfiles, file, hfile, -, hspells⟩
      have hsegment : t.release.version ∈ segments (slashed file.path) := by
        rw [hspells.segments_eq]
        simp [RegistryItem.segments]
      have hname : t.release.connector.name ∈ segments (slashed file.path) := by
        rw [hspells.segments_eq]
        simp
      have hversion := hspells.not_reserved _ hsegment
      have hconnector := hspells.not_reserved _ hname
      simp only [isReserved, Bool.or_eq_false_iff, beq_eq_false_iff_ne] at hversion hconnector
      refine ⟨Path.isPlainName_iff.2 ⟨hspells.named.2.2 _ rfl,
        isSegment_of_mem_segments hsegment, hversion.1.2, hversion.2⟩, hversion.1.1, hconnector.1.1⟩
    · rintro ⟨hversion, halias, hname⟩
      obtain ⟨⟨names, hfind, hconnector⟩, -, -, hfile, -⟩ := (mem_latestTargets hlatest).1 ht
      exact exists_describes htree hlinks hslash hfind hconnector hfile hversion halias hname

section

/-- A tree with one release, whose connector declares it with a slash behind its name. -/
def slashedLatest : FileTree :=
  (FileTree.empty.write ["repo", "registry", "acme", "db", "metadata.json"]
    (utf8 "\x7b\"overview\": \x7b\"latest_version\": \"v1.0.0/\"\x7d\x7d"))
    |>.write ["repo", "registry", "acme", "db", "releases", "v1.0.0", "connector-packaging.json"]
      (utf8 "\x7b\"version\": \"v1.0.0\", \"test\": \x7b\"test_config_path\": \"t.json\"\x7d\x7d")

/-- The latest release is not among all releases. -/
theorem slashedLatest_missing : slashedLatest.WellFormed ∧ ∃ latest all,
    latestTargets slashedLatest "repo" = .ok latest ∧ allTargets slashedLatest "repo" = .ok all ∧
    ∃ t ∈ latest, t ∉ all := by
  have htree : slashedLatest.WellFormed := by decide +kernel
  have hlatest : latestTargets slashedLatest "repo" = .ok [⟨⟨⟨"acme", "db"⟩, "v1.0.0/"⟩,
      "registry/acme/db/releases/v1.0.0/t.json"⟩] :=
    Except.toOption_eq_some.1 (by decide +kernel)
  have hall : allTargets slashedLatest "repo" = .ok [⟨⟨⟨"acme", "db"⟩, "v1.0.0"⟩,
      "registry/acme/db/releases/v1.0.0/t.json"⟩] :=
    Except.toOption_eq_some.1 (by decide +kernel)
  obtain ⟨-, -, hmem⟩ := latest_of_all htree hlatest hall
  refine ⟨htree, _, _, hlatest, hall, _, List.mem_singleton_self _, fun h => ?_⟩
  obtain ⟨hplain, -⟩ := (hmem (by decide +kernel) (by decide +kernel) _
    (List.mem_singleton_self _)).1 h
  exact absurd hplain (by decide +kernel)

end

end ConnectorCatalog
