import ConnectorCatalog.Proofs.AddedReleases
import ConnectorCatalog.Proofs.RegistryTree
import ConnectorCatalog.TestMatrix

/-!
# The targets of the selections

Each selection collects targets for the members of a list, up to the first fault
(`collectTargets_eq`).  Where it comes to an end, its targets are known one by one
(`mem_changedTargets`, `mem_allTargets`, `mem_latestTargets`).  Whatever selects a release looks for
its packaging file at the path that the release comes to (`Spells.packagingPath_eq`).
-/

namespace ConnectorCatalog

open Text

/-! ### Collecting -/

theorem collectTargets_eq {α : Type} (target? : α → Except TestMatrixFault (Option TestTarget))
    (items : List α) : collectTargets target? items = collect target? items := by
  induction items with
  | nil => rfl
  | cons a rest ih => rw [collectTargets, collect, ih]

theorem releasesAt_eq (files : List RegistryFile) :
    releasesAt files = collect releaseAt? files := by
  induction files with
  | nil => rfl
  | cons file rest ih => rw [releasesAt, collect, ih]

/-! ### One target -/

variable {tree : FileTree} {repo path : String} {release : ReleaseId} {t : TestTarget}

/-- A target is the release with the test config that its packaging file names. -/
theorem targetFor?_eq_some : targetFor? tree repo release path = .ok (some t) ↔
    t.release = release ∧ ∃ descriptor testConfig,
      PackagingDescriptor.load tree (Path.append repo path) = .ok descriptor ∧
      descriptor.testConfigPath? path = some testConfig ∧
      testConfigOf path testConfig = .ok t.testConfig := by
  unfold targetFor?
  constructor
  · intro h
    split at h
    · cases h
    · rename_i descriptor hload
      split at h
      · cases h
      · rename_i testConfig hpath
        obtain ⟨config, hconfig, htarget⟩ := Except.map_eq_ok.1 h
        cases htarget
        exact ⟨rfl, descriptor, testConfig, hload, hpath, hconfig⟩
  · rintro ⟨rfl, descriptor, testConfig, hload, hpath, hconfig⟩
    simp only [hload, hpath, hconfig]
    rfl

theorem addedTarget_eq_ok_iff {added : AddedRelease} {target? : Option TestTarget} :
    addedTarget tree repo added = .ok target? ↔
      ∃ t, target? = some t ∧ targetFor? tree repo added.id added.packagingPath = .ok (some t) := by
  rw [addedTarget, Except.bind_eq_ok]
  constructor
  · rintro ⟨found, hfound, hsome⟩
    cases found with
    | none => cases hsome
    | some t =>
      cases hsome
      exact ⟨t, rfl, hfound⟩
  · rintro ⟨t, rfl, hfound⟩
    exact ⟨some t, hfound, rfl⟩

/-! ### Recognized releases -/

theorem Spells.packagingPath_eq
    (h : Spells path release.connector (.packaging release.version)) :
    packagingPath release = path := h.pathOf_eq

theorem addedRelease?_eq_some {added : AddedRelease} : addedRelease? path = some added ↔
    Spells (normalize path) added.id.connector (.packaging added.id.version) ∧
      added.packagingPath = packagingPath added.id := by
  unfold addedRelease?
  constructor
  · intro h
    split at h
    · rename_i connector version text hclassify
      cases h
      obtain ⟨htext, hplaced, -⟩ := classify_eq_some hclassify
      have hspells : Spells text connector (.packaging version) := hplaced.spells
      have hpath : packagingPath ⟨connector, version⟩ = text := Spells.packagingPath_eq hspells
      have htext : text = normalize path := htext
      exact ⟨htext ▸ hspells, hpath.symm⟩
    · cases h
  · rintro ⟨hspells, hpath⟩
    rw [classify_of_spells hspells, ← hspells.packagingPath_eq, ← hpath]
    rfl

/-- Packaging files of the registry tree stand for the releases that their paths add. -/
theorem releaseAt?_eq (file : RegistryFile) : releaseAt? file =
    .ok (if file.name = packagingFile then addedRelease? (slashed file.path) else none) := by
  unfold releaseAt? addedRelease?
  by_cases hname : file.name = packagingFile
  · rw [if_neg (by simpa using hname), if_pos hname]
    -- An added path is not refused.
    obtain ⟨change?, hclassify⟩ := exists_classify_added (slashed file.path)
    rw [hclassify]
    cases change? with
    | none => rfl
    | some change =>
      obtain ⟨connector, kind, path⟩ := change
      cases kind <;> rfl
  · rw [if_pos (by simpa using hname), if_neg hname]

/-- A file of the registry tree is recognized as the packaging file of a release. -/
structure RegistryFile.Describes (file : RegistryFile) (release : ReleaseId) : Prop where
  name_eq : file.name = packagingFile
  spells : Spells (slashed file.path) release.connector (.packaging release.version)

theorem releaseAt?_eq_some {file : RegistryFile} {added : AddedRelease} :
    releaseAt? file = .ok (some added) ↔ file.Describes added.id ∧
      added.packagingPath = packagingPath added.id := by
  rw [releaseAt?_eq, Except.ok.injEq, Option.ite_none_right_eq_some, addedRelease?_eq_some,
    file.normalize_slashed_path, ← and_assoc]
  exact and_congr_left fun _ => ⟨fun ⟨hname, hspells⟩ => ⟨hname, hspells⟩,
    fun ⟨hname, hspells⟩ => ⟨hname, hspells⟩⟩

/-! ### Selections -/

theorem mem_changedTargets {files : ChangedFiles} {changed : List TestTarget}
    (h : changedTargets tree repo files = .ok changed) : t ∈ changed ↔
      (∃ path ∈ files.added,
        Spells (normalize path) t.release.connector (.packaging t.release.version)) ∧
      targetFor? tree repo t.release (packagingPath t.release) = .ok (some t) := by
  rw [changedTargets, collectTargets_eq] at h
  simp only [mem_collect h, addedReleases, mem_dropRepeats, Text.mem_sortBy, List.mem_filterMap,
    addedRelease?_eq_some, addedTarget_eq_ok_iff, Option.some_inj, exists_eq_left']
  constructor
  · rintro ⟨added, ⟨path, hpath, hspells, hadded⟩, h⟩
    rw [hadded] at h
    obtain ⟨hrelease, -⟩ := targetFor?_eq_some.1 h
    rw [hrelease]
    exact ⟨⟨path, hpath, hspells⟩, h⟩
  · rintro ⟨⟨path, hpath, hspells⟩, h⟩
    exact ⟨⟨t.release, packagingPath t.release⟩, ⟨path, hpath, hspells, rfl⟩, h⟩

theorem mem_allTargets {all : List TestTarget} (h : allTargets tree repo = .ok all) :
    t ∈ all ↔ (∃ files, RegistryTree.files tree repo = .ok files ∧
        ∃ file ∈ files, file.Describes t.release) ∧
      targetFor? tree repo t.release (packagingPath t.release) = .ok (some t) := by
  unfold allTargets at h
  split at h
  · cases h
  · rename_i files hfiles
    obtain ⟨releases, hreleases, htargets⟩ := Except.bind_eq_ok.1 h
    rw [releasesAt_eq] at hreleases
    rw [collectTargets_eq] at htargets
    simp only [mem_collect htargets, Text.mem_sortBy, mem_collect hreleases, releaseAt?_eq_some]
    constructor
    · rintro ⟨added, ⟨file, hfile, hdescribes, hpath⟩, htarget⟩
      obtain ⟨hrelease, -⟩ := targetFor?_eq_some.1 htarget
      rw [hpath] at htarget
      rw [hrelease]
      exact ⟨⟨files, hfiles, file, hfile, hdescribes⟩, htarget⟩
    · rintro ⟨⟨other, hother, file, hfile, hdescribes⟩, htarget⟩
      cases hfiles.symm.trans hother
      exact ⟨⟨t.release, packagingPath t.release⟩, ⟨file, hfile, hdescribes, rfl⟩, htarget⟩

/-- A connector's own metadata in the registry tree declares a latest version. -/
def DeclaresLatest (tree : FileTree) (repo : String) (release : ReleaseId) : Prop :=
  let path := Path.append (Path.append (Path.append (RegistryTree.root repo) release.connector.ns)
    release.connector.name) metadataFile
  tree.isFile path = true ∧ ∃ metadata, ConnectorMetadata.load tree path = .ok metadata ∧
    metadata.overview.latestVersion = release.version

theorem latestTarget?_eq_some {connector : Identity} :
    latestTarget? tree repo connector = .ok (some t) ↔ t.release.connector = connector ∧
      DeclaresLatest tree repo t.release ∧ t.release.version ≠ "" ∧
      tree.isFile (Path.append repo (packagingPath t.release)) = true ∧
      targetFor? tree repo t.release (packagingPath t.release) = .ok (some t) := by
  unfold latestTarget?
  dsimp only
  constructor
  · intro h
    split at h
    · cases h
    · rename_i hmetadata
      split at h
      · cases h
      · rename_i metadata hload
        split at h
        · cases h
        · rename_i hversion
          split at h
          · cases h
          · rename_i hfile
            obtain ⟨hrelease, -⟩ := targetFor?_eq_some.1 h
            rw [hrelease]
            exact ⟨rfl, ⟨by simpa using hmetadata, metadata, hload, rfl⟩, hversion,
              by simpa using hfile, h⟩
  · rintro ⟨rfl, ⟨hmetadata, metadata, hload, hlatest⟩, hversion, hfile, htarget⟩
    have hrelease : (⟨t.release.connector, metadata.overview.latestVersion⟩ : ReleaseId) =
        t.release := by rw [hlatest]
    rw [if_neg (by simpa using hmetadata)]
    simp only [hload, hrelease]
    rw [hlatest, if_neg hversion, if_neg (by simpa using hfile)]
    exact htarget

theorem mem_latestTargets {latest : List TestTarget} (h : latestTargets tree repo = .ok latest) :
    t ∈ latest ↔ (∃ names, RegistryTree.find tree repo = .ok names ∧
        t.release.connector ∈ connectorDirectories tree names) ∧
      DeclaresLatest tree repo t.release ∧ t.release.version ≠ "" ∧
      tree.isFile (Path.append repo (packagingPath t.release)) = true ∧
      targetFor? tree repo t.release (packagingPath t.release) = .ok (some t) := by
  unfold latestTargets at h
  split at h
  · cases h
  · rename_i names hfind
    rw [collectTargets_eq] at h
    simp only [mem_collect h, latestTarget?_eq_some]
    constructor
    · rintro ⟨connector, hconnector, rfl, htarget⟩
      exact ⟨⟨names, hfind, hconnector⟩, htarget⟩
    · rintro ⟨⟨other, hother, hconnector⟩, htarget⟩
      cases hfind.symm.trans hother
      exact ⟨_, hconnector, rfl, htarget⟩

end ConnectorCatalog
