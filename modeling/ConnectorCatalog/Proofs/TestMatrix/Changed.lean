import ConnectorCatalog.Proofs.TestMatrix.Latest

/-!
# The releases of a diff that adds the whole tree

The selection of changed releases goes by the paths of a diff, that of all releases by the files of
the registry tree.  If a diff adds the packaging files of the tree and no others
(`ChangedFiles.AddsPackaging`), both find the same releases in the same order, and differ only in
what they make of a release without test config.  **So what is selected of the whole tree as changed
is what is selected of it as all** (`changedTargets_of_whole`).
-/

namespace ConnectorCatalog

open Keyed Std Text

/-! ### Test configs -/

variable {tree : FileTree} {repo : String} {names : List String} {release : ReleaseId}
  {file : RegistryFile} {files : ChangedFiles}

/-- The packaging file of a release can be read and names a test config. -/
def NamesTestConfig (tree : FileTree) (repo : String) (release : ReleaseId) : Prop :=
  ∃ descriptor, PackagingDescriptor.load tree (Path.append repo (packagingPath release)) =
    .ok descriptor ∧ descriptor.testConfig ≠ ""

/-- Where there is no fault, there is a target exactly for a release that names a test config. -/
theorem exists_targetFor?_iff {target? : Option TestTarget}
    (h : targetFor? tree repo release (packagingPath release) = .ok target?) :
    (∃ t, target? = some t) ↔ NamesTestConfig tree repo release := by
  unfold targetFor? at h
  unfold NamesTestConfig
  split at h
  · cases h
  · rename_i descriptor hload
    simp only [hload, Except.ok.injEq, exists_eq_left']
    split at h
    · rename_i hnone
      cases h
      unfold PackagingDescriptor.testConfigPath? at hnone
      split at hnone
      · rename_i hempty
        simp [hempty]
      · cases hnone
    · rename_i testConfig hpath
      obtain ⟨config, -, rfl⟩ := Except.map_eq_ok.1 h
      unfold PackagingDescriptor.testConfigPath? at hpath
      split at hpath
      · cases hpath
      · rename_i hnamed
        simp [hnamed]

/-! ### The releases of the tree -/

/-- The release that a file of the registry tree describes, with its packaging file. -/
def RegistryFile.added? (file : RegistryFile) : Option AddedRelease :=
  if file.name = packagingFile then addedRelease? (slashed file.path) else none

theorem RegistryFile.added?_eq_some {added : AddedRelease} : file.added? = some added ↔
    file.Describes added.id ∧ added.packagingPath = packagingPath added.id := by
  rw [← releaseAt?_eq_some, releaseAt?_eq, Except.ok.injEq, added?]

/-- The releases of the registry tree at a place, in the order of reports. -/
def treeReleases (tree : FileTree) (names : List String) : List AddedRelease :=
  sortBy AddedRelease.compare
    (((tree.below names).filterMap RegistryTree.file?).filterMap RegistryFile.added?)

theorem mem_treeReleases {added : AddedRelease} : added ∈ treeReleases tree names ↔
    (∃ file, RegistryTree.Walked tree names file ∧ file.Describes added.id) ∧
      added.packagingPath = packagingPath added.id := by
  simp only [treeReleases, mem_sortBy, List.mem_filterMap (f := RegistryFile.added?),
    RegistryTree.mem_walk, RegistryFile.added?_eq_some]
  constructor
  · rintro ⟨file, hwalked, hdescribes, hpath⟩
    exact ⟨⟨file, hwalked, hdescribes⟩, hpath⟩
  · rintro ⟨⟨file, hwalked, hdescribes⟩, hpath⟩
    exact ⟨file, hwalked, hdescribes, hpath⟩

theorem allTargets_eq (hfind : RegistryTree.find tree repo = .ok names) :
    allTargets tree repo = collect (fun release => targetFor? tree repo release.id
      release.packagingPath) (treeReleases tree names) := by
  have hfiles : RegistryTree.files tree repo =
      .ok ((tree.below names).filterMap RegistryTree.file?) := by
    rw [RegistryTree.files, hfind]
  rw [allTargets, hfiles]
  dsimp only
  rw [releasesAt_eq, collect_eq_filterMap releaseAt?_eq, Except.ok_bind, collectTargets_eq]
  rfl

/-! ### Their order -/

theorem sorted_walk (htree : tree.WellFormed) (names : List String) :
    ((tree.below names).filterMap RegistryTree.file?).Pairwise fun file file' =>
      compareNames file.names file'.names = .lt := by
  rw [List.pairwise_filterMap]
  refine (htree.sorted_below names).imp fun {e e'} hlt file hfile file' hfile' => ?_
  have hnames {e : List String × FileEntry} {file : RegistryFile}
      (h : RegistryTree.file? e = some file) : file.names = e.1 := by
    unfold RegistryTree.file? at h
    split at h
    · split at h
      · cases h
      · cases h
        rfl
    · cases h
  rw [hnames hfile, hnames hfile']
  exact hlt

theorem RegistryFile.slashed_path (hslash : ∀ name ∈ file.names, '\\' ∉ name.toList) :
    slashed file.path = file.path := by
  refine slashed_of_not_mem fun hmem => ?_
  rcases mem_joinTexts hmem with hc | ⟨name, hname, hc⟩
  · cases hc
  · rcases List.mem_cons.1 hname with rfl | hname
    · exact absurd hc (by decide)
    · exact hslash name hname hc

theorem FileTree.AvoidsBackslashes.of_mem_below (h : tree.AvoidsBackslashes) {entry : FileEntry}
    (hmem : (file.names, entry) ∈ tree.below names) : ∀ name ∈ file.names, '\\' ∉ name.toList :=
  fun name hname => h _ (FileTree.mem_below.1 hmem).2 name (List.mem_append_right _ hname)

/-- Without backslashes, the file that describes a release is the one at the place for it. -/
theorem describes_iff (htree : tree.WellFormed) (hslash : tree.AvoidsBackslashes)
    {entry : FileEntry} (hmem : (file.names, entry) ∈ tree.below names) :
    file.Describes release ↔ file.names = packagingNames release ∧ aliasDir ∉ file.names := by
  have hspells : Spells (slashed file.path) release.connector (.packaging release.version) ↔
      file.names = packagingNames release ∧ aliasDir ∉ file.names :=
    RegistryFile.spells_iff (fun name hname => htree.isPlainName hmem hname)
      (hslash.of_mem_below hmem)
  constructor
  · exact fun h => hspells.1 h.spells
  · intro h
    refine ⟨?_, hspells.2 h⟩
    rw [RegistryFile.name, h.1]
    rfl

/-- **The releases of a tree are different, and in their order.** -/
theorem sorted_treeReleases (htree : tree.WellFormed) (hslash : tree.AvoidsBackslashes) :
    Sorted AddedRelease.compare (treeReleases tree names) := by
  refine sorted_sortBy (List.pairwise_filterMap.2 ?_)
  refine (sorted_walk htree names).imp_of_mem ?_
  intro file file' hfile hfile' hlt added hadded added' hadded' heq
  have hnames {file : RegistryFile} {added : AddedRelease}
      (hfile : file ∈ (tree.below names).filterMap RegistryTree.file?)
      (hadded : file.added? = some added) : file.names = packagingNames added.id :=
    ((describes_iff htree hslash (RegistryTree.mem_walk.1 hfile).1).1
      (RegistryFile.added?_eq_some.1 hadded).1).1
  have hself : compareNames (packagingNames added'.id) (packagingNames added'.id) = .eq :=
    ReflCmp.compare_self
  rw [hnames hfile hadded, hnames hfile' hadded', AddedRelease.id_eq_of_compare heq, hself] at hlt
  cases hlt

/-! ### Diffs that add the tree -/

/-- The packaging files that a diff adds are those of the registry tree at a place, wherever they
stand in it: it adds each of them, and every added path that is read as that of a packaging file is
the path of one. -/
structure ChangedFiles.AddsPackaging (files : ChangedFiles) (tree : FileTree)
    (names : List String) : Prop where
  all_of (file : RegistryFile) : (file.names, .file file.content) ∈ tree.below names →
    file.name = packagingFile → file.path ∈ files.added
  no_other (path : String) (release : ReleaseId) : path ∈ files.added →
    Spells (normalize path) release.connector (.packaging release.version) →
    ∃ file : RegistryFile, (file.names, .file file.content) ∈ tree.below names ∧
      file.name = packagingFile ∧ file.path = normalize path

/-- **A diff that adds the packaging files of the tree adds the releases of the tree.** -/
theorem ChangedFiles.AddsPackaging.addedReleases_eq (h : files.AddsPackaging tree names)
    (htree : tree.WellFormed) (hslash : tree.AvoidsBackslashes) :
    addedReleases files = treeReleases tree names := by
  refine (sorted_addedReleases files).eq_of_mem_iff (sorted_treeReleases htree hslash)
    fun added => ?_
  simp only [mem_addedReleases, addedRelease?_eq_some, mem_treeReleases]
  constructor
  · rintro ⟨path, hpath, hspells, hadded⟩
    obtain ⟨file, hmem, hname, hsame⟩ := h.no_other path added.id hpath hspells
    have hdescribes : file.Describes added.id := by
      refine ⟨hname, ?_⟩
      rw [RegistryFile.slashed_path (hslash.of_mem_below hmem), hsame]
      exact hspells
    have halias := ((describes_iff htree hslash hmem).1 hdescribes).2
    exact ⟨⟨file, ⟨hmem, halias⟩, hdescribes⟩, hadded⟩
  · rintro ⟨⟨file, ⟨hmem, -⟩, hdescribes⟩, hadded⟩
    have hself := RegistryFile.slashed_path (hslash.of_mem_below hmem)
    have hspells := hdescribes.spells
    rw [← file.normalize_slashed_path, hself] at hspells
    exact ⟨file.path, h.all_of file hmem hdescribes.name_eq, hspells, hadded⟩

/-! ### The selections -/

/-- What is selected of the whole tree as changed is selected of it as all, unless a release lacks
its test config. -/
theorem ChangedFiles.AddsPackaging.changedTargets_eq_ok_iff (h : files.AddsPackaging tree names)
    (htree : tree.WellFormed) (hslash : tree.AvoidsBackslashes)
    (hfind : RegistryTree.find tree repo = .ok names) {targets : List TestTarget} :
    changedTargets tree repo files = .ok targets ↔ allTargets tree repo = .ok targets ∧
      ∀ added ∈ treeReleases tree names, NamesTestConfig tree repo added.id := by
  rw [changedTargets, collectTargets_eq, h.addedReleases_eq htree hslash, allTargets_eq hfind,
    collect_eq_ok_iff_of_some fun _ _ => addedTarget_eq_ok_iff]
  refine and_congr_right fun hall => forall₂_congr fun added hadded => ?_
  obtain ⟨target?, htarget⟩ := exists_of_mem_collect hall hadded
  rw [htarget]
  rw [(mem_treeReleases.1 hadded).2] at htarget
  rw [← exists_targetFor?_iff htarget]
  simp only [Except.ok.injEq]

theorem sorted_allTargets (htree : tree.WellFormed) (hslash : tree.AvoidsBackslashes)
    (hfind : RegistryTree.find tree repo = .ok names) {all : List TestTarget}
    (hall : allTargets tree repo = .ok all) : Sorted ReleaseId.compare (all.map (·.release)) := by
  rw [allTargets_eq hfind] at hall
  have hsub : (all.map (·.release)).Sublist ((treeReleases tree names).map (·.id)) :=
    sublist_of_collect (fun added t htarget => (targetFor?_eq_some.1 htarget).1) hall
  have htreeReleases : Sorted ReleaseId.compare ((treeReleases tree names).map (·.id)) :=
    List.pairwise_map.2 (sorted_treeReleases htree hslash)
  exact htreeReleases.sublist hsub

/-- Targets are made for the recognized releases that name a test config. -/
theorem mem_releases_allTargets (hfind : RegistryTree.find tree repo = .ok names)
    {all : List TestTarget} (hall : allTargets tree repo = .ok all) :
    release ∈ all.map (·.release) ↔
      (∃ file, RegistryTree.Walked tree names file ∧ file.Describes release) ∧
        NamesTestConfig tree repo release := by
  rw [allTargets_eq hfind] at hall
  simp only [List.mem_map, mem_collect hall]
  constructor
  · rintro ⟨t, ⟨added, hadded, htarget⟩, rfl⟩
    obtain ⟨hfile, hpath⟩ := mem_treeReleases.1 hadded
    rw [hpath] at htarget
    rw [(targetFor?_eq_some.1 htarget).1]
    exact ⟨hfile, (exists_targetFor?_iff htarget).1 ⟨t, rfl⟩⟩
  · rintro ⟨hfile, hnamed⟩
    have hadded : (⟨release, packagingPath release⟩ : AddedRelease) ∈ treeReleases tree names :=
      mem_treeReleases.2 ⟨hfile, rfl⟩
    obtain ⟨target?, htarget⟩ := exists_of_mem_collect hall hadded
    obtain ⟨t, rfl⟩ := (exists_targetFor?_iff htarget).2 hnamed
    exact ⟨t, ⟨_, hadded, htarget⟩, (targetFor?_eq_some.1 htarget).1⟩

/-- **Selecting the whole tree as changed refines selecting all of it.**  Of a diff that adds the
packaging files of the tree, targets are selected exactly if they are all targets of the tree and
every release that is recognized in the tree names a test config.  All targets stand in the order of
connectors and versions without repetition; there is one of each recognized release that names a
test config, and of no other. -/
theorem changedTargets_of_whole (htree : tree.WellFormed) (hslash : tree.AvoidsBackslashes)
    (hfind : RegistryTree.find tree repo = .ok names) :
    (∀ files targets, ChangedFiles.AddsPackaging files tree names →
      (changedTargets tree repo files = .ok targets ↔ allTargets tree repo = .ok targets ∧
        ∀ release file, RegistryTree.Walked tree names file → file.Describes release →
          NamesTestConfig tree repo release)) ∧
    ∀ all, allTargets tree repo = .ok all →
      Sorted ReleaseId.compare (all.map (·.release)) ∧
      ∀ release, (all.map (·.release)).count release = 1 ↔
        (∃ file, RegistryTree.Walked tree names file ∧ file.Describes release) ∧
          NamesTestConfig tree repo release := by
  constructor
  · intro files targets hadds
    rw [hadds.changedTargets_eq_ok_iff htree hslash hfind]
    refine and_congr_right fun _ => ⟨fun h release file hwalked hdescribes => ?_,
      fun h added hadded => ?_⟩
    · exact h ⟨release, packagingPath release⟩
        (mem_treeReleases.2 ⟨⟨file, hwalked, hdescribes⟩, rfl⟩)
    · obtain ⟨⟨file, hwalked, hdescribes⟩, -⟩ := mem_treeReleases.1 hadded
      exact h added.id file hwalked hdescribes
  · intro all hall
    have hsorted := sorted_allTargets htree hslash hfind hall
    have hself (r : ReleaseId) : ReleaseId.compare r r = .eq := by
      simp [ReleaseId.compare, ReflCmp.compare_self]
    have hnodup : (all.map (·.release)).Nodup := by
      simpa using hsorted.nodup_map (f := id) fun r r' heq => congrArg r.compare heq ▸ hself r
    refine ⟨hsorted, fun release => ?_⟩
    rw [← mem_releases_allTargets hfind hall, hnodup.count, ite_eq_left_iff]
    exact ⟨fun h => Decidable.byContradiction fun hnone => absurd (h hnone) (by decide),
      fun h hnone => absurd h hnone⟩

section

/-- A packaging file that names the test config at a path. -/
def wholePackaging (testConfig : String) : Bytes :=
  utf8 ("\x7b\"version\": \"v\", \"uri\": \"u\", \"test\": \x7b\"test_config_path\": \"" ++
    testConfig ++ "\"\x7d\x7d")

/-- A test config. -/
def wholeConfig : Bytes := utf8 "\x7b\"hub_id\": \"h\", \"snapshots_dir\": \"s\"\x7d"

/-- A tree with two tested releases, a packaging file that describes none, and one among the
aliases. -/
def wholeTree : FileTree :=
  (FileTree.empty.write ["repo", "registry", "acme", "db", "releases", "v1.10.0",
      "connector-packaging.json"] (wholePackaging "../../t.json"))
    |>.write ["repo", "registry", "acme", "db", "releases", "v1.9.0", "connector-packaging.json"]
      (wholePackaging "t.json")
    |>.write ["repo", "registry", "acme", "db", "releases", "v1.9.0", "t.json"] wholeConfig
    |>.write ["repo", "registry", "acme", "db", "t.json"] wholeConfig
    |>.write ["repo", "registry", "acme", "connector-packaging.json"] (utf8 "")
    |>.write ["repo", "registry", "aliased_connectors", "db", "releases", "v1.0.0",
      "connector-packaging.json"] (wholePackaging "t.json")

/-- A diff that adds these files in another order, one of them in two spellings. -/
def wholeDiff : ChangedFiles where
  added := ["registry/aliased_connectors/db/releases/v1.0.0/connector-packaging.json",
    "registry/acme/db/releases/v1.10.0/connector-packaging.json",
    "registry/acme/connector-packaging.json",
    "./registry/acme/db/releases/v1.9.0/connector-packaging.json", "registry/acme/db/README.md",
    "registry/acme/db/releases/v1.9.0/connector-packaging.json"]
  modified := []
  deleted := []

/-- The releases of the tree, in the order of versions. -/
def wholeReleases : List AddedRelease :=
  [⟨⟨⟨"acme", "db"⟩, "v1.9.0"⟩, "registry/acme/db/releases/v1.9.0/connector-packaging.json"⟩,
    ⟨⟨⟨"acme", "db"⟩, "v1.10.0"⟩, "registry/acme/db/releases/v1.10.0/connector-packaging.json"⟩]

theorem addedReleases_wholeDiff : addedReleases wholeDiff = wholeReleases := by
  have hfound : wholeDiff.added.filterMap addedRelease? =
      wholeReleases.reverse ++ wholeReleases.take 1 := by
    decide +kernel
  refine (sorted_addedReleases wholeDiff).eq_of_mem_iff ?_ fun added => ?_
  · unfold Sorted
    decide +kernel
  · rw [mem_addedReleases, ← List.mem_filterMap, hfound]
    simp [wholeReleases, or_comm]

theorem wholeDiff_addsPackaging : wholeDiff.AddsPackaging wholeTree ["repo", "registry"] := by
  have hall : ∀ e ∈ wholeTree.below ["repo", "registry"], e.1.getLastD "" = packagingFile →
      joinTexts "/" (RegistryTree.folder :: e.1) ∈ wholeDiff.added := by decide +kernel
  have hother : ∀ added ∈ wholeReleases,
      ∃ file ∈ (wholeTree.below ["repo", "registry"]).filterMap RegistryTree.file?,
        file.name = packagingFile ∧ file.path = added.packagingPath := by decide +kernel
  refine ⟨fun file hmem hname => hall _ hmem hname, fun path release hpath hspells => ?_⟩
  have hadded : ⟨release, packagingPath release⟩ ∈ addedReleases wholeDiff :=
    mem_addedReleases.2 ⟨path, hpath, addedRelease?_eq_some.2 ⟨hspells, rfl⟩⟩
  rw [addedReleases_wholeDiff] at hadded
  obtain ⟨file, hfile, hname, hsame⟩ := hother _ hadded
  exact ⟨file, (RegistryTree.mem_walk.1 hfile).1, hname, hsame.trans hspells.packagingPath_eq⟩

/-- What is selected of the tree as changed is selected of it as all, in the order of versions. -/
theorem wholeDiff_selects_all : wholeTree.WellFormed ∧ wholeTree.AvoidsBackslashes ∧
    RegistryTree.find wholeTree "repo" = .ok ["repo", "registry"] ∧
    wholeDiff.AddsPackaging wholeTree ["repo", "registry"] ∧ ∃ targets,
      changedTargets wholeTree "repo" wholeDiff = .ok targets ∧
      allTargets wholeTree "repo" = .ok targets ∧
      targets = [⟨⟨⟨"acme", "db"⟩, "v1.9.0"⟩, "registry/acme/db/releases/v1.9.0/t.json"⟩,
        ⟨⟨⟨"acme", "db"⟩, "v1.10.0"⟩, "registry/acme/db/t.json"⟩] ∧
      Sorted ReleaseId.compare (targets.map (·.release)) := by
  have htree : wholeTree.WellFormed := by decide +kernel
  have hslash : wholeTree.AvoidsBackslashes := by decide +kernel
  have hfind : RegistryTree.find wholeTree "repo" = .ok ["repo", "registry"] := by decide +kernel
  obtain ⟨hchanged, hall⟩ := changedTargets_of_whole htree hslash hfind
  have htargets : changedTargets wholeTree "repo" wholeDiff =
      .ok [⟨⟨⟨"acme", "db"⟩, "v1.9.0"⟩, "registry/acme/db/releases/v1.9.0/t.json"⟩,
        ⟨⟨⟨"acme", "db"⟩, "v1.10.0"⟩, "registry/acme/db/t.json"⟩] := by
    rw [changedTargets, addedReleases_wholeDiff]
    exact Except.toOption_eq_some.1 (by decide +kernel)
  have hsame := ((hchanged _ _ wholeDiff_addsPackaging).1 htargets).1
  exact ⟨htree, hslash, hfind, wholeDiff_addsPackaging, _, htargets, hsame, rfl, (hall _ hsame).1⟩

end

end ConnectorCatalog
