import ConnectorCatalog.Proofs.Preflight.Releases
import ConnectorCatalog.Proofs.Text.Utf8

/-!
# What a validation reports

Without a look at the packages, each file of the registry tree is held to its rules alone: what is
wrong with it is told by its content, by the test config that it names and by the names of the
directories where releases stand, whatever other files hold (`RegistryFile.Problem`).  **A validation
reports exactly these problems, so it finds nothing exactly if every packaging file is sound and every
connector's metadata declares a latest version that the releases bear out** (`validate_reports`).
-/

namespace ConnectorCatalog

open Std Text

variable {σ : Type} {tree : FileTree} {repo : String} {dir : List String}

/-! ### Files and releases -/

/-- The names on the way to each file that a walk from the registry directory comes to. -/
def RegistryTree.walkedNames (tree : FileTree) (dir : List String) : List (List String) :=
  ((tree.below dir).filterMap RegistryTree.file?).map (·.names)

theorem RegistryTree.mem_walkedNames {file : RegistryFile} (h : RegistryTree.Walked tree dir file) :
    file.names ∈ RegistryTree.walkedNames tree dir :=
  List.mem_map_of_mem (RegistryTree.mem_walk.2 h)

/-- The names of the directories, two below a connector's own, that hold a packaging file. -/
def releaseNames (paths : List (List String)) (connector : Identity) : List String :=
  paths.filterMap fun
    | [ns, name, _, version, last] =>
      if ns = connector.ns ∧ name = connector.name ∧ last = packagingFile then some version else none
    | _ => none

/-- The releases that a declared latest version is checked against are told by names. -/
theorem releaseDirectories_eq_releaseNames (files : List RegistryFile) (connector : Identity) :
    releaseDirectories files connector = releaseNames (files.map (·.names)) connector := by
  rw [releaseDirectories_eq, releaseNames, List.filterMap_map]
  refine List.filterMap_congr fun file _ => Option.ext fun version => ?_
  rw [RegistryFile.checkedVersion?_eq_some, Function.comp_apply]
  constructor
  · rintro ⟨folder, hnames⟩
    simp [hnames]
  · intro h
    split at h
    · rename_i ns name folder version' last hnames
      split at h
      · rename_i heq
        obtain ⟨rfl, rfl, rfl⟩ := heq
        cases h
        exact ⟨folder, hnames⟩
      · cases h
    · cases h

/-- A stable release of a connector, in a directory called by its version. -/
def StableRelease (tree : FileTree) (dir : List String) (connector : Identity) (text : String)
    (version : Version) : Prop :=
  (∃ file folder, RegistryTree.Walked tree dir file ∧
    file.names = [connector.ns, connector.name, folder, text, packagingFile]) ∧
  ReleaseVersion.parse text = .ok version ∧ version.pre = []

/-- A stable release of a connector that no other is above. -/
def HighestStable (tree : FileTree) (dir : List String) (connector : Identity) (text : String)
    (version : Version) : Prop :=
  StableRelease tree dir connector text version ∧
  ∀ text' other, StableRelease tree dir connector text' other →
    (Version.compareCore other version).isLE = true

/-- A declared latest version that the releases of a connector bear out: there is no stable one, or
it has the precedence of the highest. -/
def BornOut (tree : FileTree) (dir : List String) (connector : Identity) (declared : String) : Prop :=
  (∀ text version, ¬StableRelease tree dir connector text version) ∨
  ∃ v text version, ReleaseVersion.parse declared = .ok v ∧
    HighestStable tree dir connector text version ∧ Version.SameCore v version ∧ v.pre = []

namespace RegistryFile

/-- The path of the test config that a packaging file names, from the directory of the file. -/
def testConfigAt (file : RegistryFile) (repo : String) (descriptor : PackagingDescriptor) : String :=
  Path.append (file.holder repo) descriptor.testConfig

/-- What is wrong with a file, by its content, the test config that it names and the names of the
files that a walk comes to. -/
inductive Problem (file : RegistryFile) (repo : String)
    (reads : String → Except ReadFault String) (paths : List (List String)) : Issue → Prop where
  | packaging {fault : DocumentFault} (hname : file.name = packagingFile)
      (h : file.packaging repo = .error fault) :
      Problem file repo reads paths ⟨file.path, .document fault⟩
  | invalidVersion {d : PackagingDescriptor} {fault : ReleaseVersion.Fault}
      (hname : file.name = packagingFile) (h : file.packaging repo = .ok d)
      (hversion : ReleaseVersion.parse d.version = .error fault) :
      Problem file repo reads paths ⟨file.path, .invalidVersion fault⟩
  | otherVersion {d : PackagingDescriptor} {version : Version}
      (hname : file.name = packagingFile) (h : file.packaging repo = .ok d)
      (hversion : ReleaseVersion.parse d.version = .ok version) (hne : d.version ≠ file.directory) :
      Problem file repo reads paths ⟨file.path, .otherVersion d.version file.directory⟩
  | emptyUri {d : PackagingDescriptor}
      (hname : file.name = packagingFile) (h : file.packaging repo = .ok d)
      (huri : isAllBlank d.uri = true) :
      Problem file repo reads paths ⟨file.path, .emptyUri⟩
  | unreadableTestConfig {d : PackagingDescriptor} {fault : ReadFault}
      (hname : file.name = packagingFile) (h : file.packaging repo = .ok d)
      (hnamed : d.testConfig ≠ "") (hread : reads (file.testConfigAt repo d) = .error fault) :
      Problem file repo reads paths ⟨file.path, .unreadableTestConfig (file.testConfigAt repo d) fault⟩
  | malformedTestConfig {d : PackagingDescriptor} {text : String}
      (hname : file.name = packagingFile) (h : file.packaging repo = .ok d)
      (hnamed : d.testConfig ≠ "") (hread : reads (file.testConfigAt repo d) = .ok text)
      (hparse : TestConfig.ofText? text = none) :
      Problem file repo reads paths ⟨file.testConfigAt repo d, .malformedTestConfig⟩
  | emptyHubId {d : PackagingDescriptor} {text : String} {config : TestConfig}
      (hname : file.name = packagingFile) (h : file.packaging repo = .ok d)
      (hnamed : d.testConfig ≠ "") (hread : reads (file.testConfigAt repo d) = .ok text)
      (hparse : TestConfig.ofText? text = some config) (hempty : config.hubId = "") :
      Problem file repo reads paths ⟨file.testConfigAt repo d, .emptyHubId⟩
  | emptySnapshotsDir {d : PackagingDescriptor} {text : String} {config : TestConfig}
      (hname : file.name = packagingFile) (h : file.packaging repo = .ok d)
      (hnamed : d.testConfig ≠ "") (hread : reads (file.testConfigAt repo d) = .ok text)
      (hparse : TestConfig.ofText? text = some config) (hempty : config.snapshotsDir = "") :
      Problem file repo reads paths ⟨file.testConfigAt repo d, .emptySnapshotsDir⟩
  | metadata {connector : Identity} {fault : DocumentFault}
      (hnames : file.names = [connector.ns, connector.name, metadataFile])
      (h : file.metadata repo = .error fault) :
      Problem file repo reads paths ⟨file.path, .document fault⟩
  /-- The highest stable release that is named is not the declared one. -/
  | latest {connector : Identity} {m : ConnectorMetadata} {finding : Finding}
      (hnames : file.names = [connector.ns, connector.name, metadataFile])
      (h : file.metadata repo = .ok m)
      (hlatest : latestFinding? m.overview.latestVersion (releaseNames paths connector) =
        some finding) :
      Problem file repo reads paths ⟨file.path, finding⟩

/-- A packaging file as it should be: it declares the version of its directory and an address, and
the test config that it names, if any, can be read and is filled in. -/
def SoundPackaging (file : RegistryFile) (repo : String)
    (reads : String → Except ReadFault String) : Prop :=
  ∃ text d version, file.content = utf8 text ∧ PackagingDescriptor.ofText? text = some d ∧
    ReleaseVersion.parse d.version = .ok version ∧ d.version = file.directory ∧
    isAllBlank d.uri = false ∧
    (d.testConfig ≠ "" → ∃ text config, reads (file.testConfigAt repo d) = .ok text ∧
      TestConfig.ofText? text = some config ∧ config.hubId ≠ "" ∧ config.snapshotsDir ≠ "")

/-- A connector's metadata as it should be. -/
def SoundMetadata (file : RegistryFile) (tree : FileTree) (dir : List String)
    (connector : Identity) : Prop :=
  ∃ text m, file.content = utf8 text ∧ ConnectorMetadata.ofText? text = some m ∧
    BornOut tree dir connector m.overview.latestVersion

variable {file : RegistryFile} {files : List RegistryFile} {issue : Issue} {finding : Finding}

/-! ### Reading the files -/

theorem ofContent_eq_ok {α : Type} {noun : String} {parse? : String → Option α} {path : String}
    {a : α} : Document.ofContent noun parse? path file.text = .ok a ↔
      ∃ text, file.content = utf8 text ∧ parse? text = some a := by
  unfold RegistryFile.text Document.ofContent
  constructor
  · intro h
    split at h
    · cases h
    · rename_i text htext
      split at htext
      · rename_i read hread
        cases htext
        split at h
        · rename_i hparse
          cases h
          exact ⟨text, ofUtf8?_eq_some.1 hread, hparse⟩
        · cases h
      · cases htext
  · rintro ⟨text, hcontent, hparse⟩
    simp only [ofUtf8?_eq_some.2 hcontent, hparse]

theorem isMetadata_iff : file.isMetadata = true ↔
    ∃ connector : Identity, file.names = [connector.ns, connector.name, metadataFile] := by
  rw [isMetadata, Bool.and_eq_true, beq_iff_eq, beq_iff_eq, name]
  constructor
  · rintro ⟨hname, hlength⟩
    obtain ⟨ns, name, last, hnames⟩ := List.length_eq_three.1 hlength
    rw [hnames] at hname ⊢
    cases hname
    exact ⟨⟨ns, name⟩, rfl⟩
  · rintro ⟨connector, hnames⟩
    rw [hnames]
    exact ⟨rfl, rfl⟩

/-! ### The issues of one file -/

theorem mem_findings {d : PackagingDescriptor} {directory : String} :
    finding ∈ d.findings directory ↔
      (∃ fault, ReleaseVersion.parse d.version = .error fault ∧ finding = .invalidVersion fault) ∨
      (∃ version, ReleaseVersion.parse d.version = .ok version ∧ d.version ≠ directory ∧
        finding = .otherVersion d.version directory) ∨
      isAllBlank d.uri = true ∧ finding = .emptyUri := by
  rw [PackagingDescriptor.findings, PackagingDescriptor.versionFinding?,
    PackagingDescriptor.uriFinding?, List.mem_append]
  cases ReleaseVersion.parse d.version <;> simp [and_comm, eq_comm (a := finding)]

theorem mem_findingsOf {text : String} : finding ∈ TestConfig.findingsOf text ↔
    TestConfig.ofText? text = none ∧ finding = .malformedTestConfig ∨
    ∃ config, TestConfig.ofText? text = some config ∧
      (config.hubId = "" ∧ finding = .emptyHubId ∨
        config.snapshotsDir = "" ∧ finding = .emptySnapshotsDir) := by
  rw [TestConfig.findingsOf]
  cases TestConfig.ofText? text with
  | none => simp
  | some config => simp [TestConfig.findings]

/-- What is wrong with the test config is told by what stands at its path. -/
theorem mem_testConfigIssues {d : PackagingDescriptor}
    (hholder : Path.parent (file.foundAt repo) = file.holder repo) :
    issue ∈ file.testConfigIssues tree repo d ↔ d.testConfig ≠ "" ∧
      ((∃ fault, tree.readText (file.testConfigAt repo d) = .error fault ∧
        issue = ⟨file.path, .unreadableTestConfig (file.testConfigAt repo d) fault⟩) ∨
      ∃ text, tree.readText (file.testConfigAt repo d) = .ok text ∧
        ∃ finding ∈ TestConfig.findingsOf text, issue = ⟨file.testConfigAt repo d, finding⟩) := by
  rw [testConfigIssues, PackagingDescriptor.testConfigPath?, hholder, ← testConfigAt]
  by_cases hnamed : d.testConfig = ""
  · simp [hnamed]
  · rw [if_neg hnamed]
    dsimp only
    cases tree.readText (file.testConfigAt repo d) with
    | error fault => simp [hnamed]
    | ok text => simp [hnamed, eq_comm]

/-- What is wrong with a file in itself, its package aside. -/
def ownIssues (file : RegistryFile) (tree : FileTree) (repo : String) : List Issue :=
  if file.isPackaging then
    match file.packaging repo with
    | .error fault => [⟨file.path, .document fault⟩]
    | .ok d => file.packagingIssues tree repo d
  else if file.isMetadata then file.metadataIssues repo
  else []

theorem issues_none (tree : FileTree) (repo : String) (file : RegistryFile) (world : σ) :
    (file.issues none tree repo).run world = (file.ownIssues tree repo, world) := by
  unfold issues ownIssues
  split
  · cases file.packaging repo with
    | error fault => rfl
    | ok d =>
      refine congrArg (·, world) ?_
      exact List.append_nil _
  · split <;> rfl

variable (hholder : Path.parent (file.foundAt repo) = file.holder repo)

include hholder in
theorem problem_of_mem_packagingIssues {paths : List (List String)} {d : PackagingDescriptor}
    (hpackaging : file.name = packagingFile) (hd : file.packaging repo = .ok d)
    (h : issue ∈ file.packagingIssues tree repo d) :
    file.Problem repo tree.readText paths issue := by
  rw [packagingIssues, List.mem_append, List.mem_map, mem_testConfigIssues hholder] at h
  rcases h with ⟨finding, hfinding, rfl⟩ |
    ⟨hnamed, ⟨fault, hread, rfl⟩ | ⟨text, hread, finding, hfinding, rfl⟩⟩
  · rcases mem_findings.1 hfinding with
      ⟨fault, hversion, rfl⟩ | ⟨version, hversion, hne, rfl⟩ | ⟨huri, rfl⟩
    · exact .invalidVersion hpackaging hd hversion
    · exact .otherVersion hpackaging hd hversion hne
    · exact .emptyUri hpackaging hd huri
  · exact .unreadableTestConfig hpackaging hd hnamed hread
  · rcases mem_findingsOf.1 hfinding with
      ⟨hparse, rfl⟩ | ⟨config, hparse, ⟨hempty, rfl⟩ | ⟨hempty, rfl⟩⟩
    · exact .malformedTestConfig hpackaging hd hnamed hread hparse
    · exact .emptyHubId hpackaging hd hnamed hread hparse hempty
    · exact .emptySnapshotsDir hpackaging hd hnamed hread hparse hempty

include hholder in
theorem problem_of_mem_ownIssues {paths : List (List String)}
    (h : issue ∈ file.ownIssues tree repo) : file.Problem repo tree.readText paths issue := by
  unfold ownIssues at h
  split at h
  · rename_i hpackaging
    have hpackaging := beq_iff_eq.1 hpackaging
    split at h
    · rename_i fault hfault
      obtain rfl := List.mem_singleton.1 h
      exact .packaging hpackaging hfault
    · rename_i d hd
      exact problem_of_mem_packagingIssues hholder hpackaging hd h
  · split at h
    · rename_i hmetadata
      obtain ⟨connector, hnames⟩ := isMetadata_iff.1 hmetadata
      unfold metadataIssues at h
      split at h
      · cases h
      · rename_i fault hfault
        obtain rfl := List.mem_singleton.1 h
        exact .metadata hnames hfault
    · cases h

theorem problem_of_latestIssue? (h : latestIssue? repo files file = some issue) :
    file.Problem repo tree.readText (files.map (·.names)) issue := by
  unfold latestIssue? at h
  split at h
  · rename_i hmetadata
    obtain ⟨connector, hnames⟩ := isMetadata_iff.1 hmetadata
    rw [connector?, hnames] at h
    simp only [Option.bind_eq_bind, Option.bind_some, Option.bind_eq_some_iff] at h
    obtain ⟨m, hm, finding, hfinding, hissue⟩ := h
    cases hissue
    rw [releaseDirectories_eq_releaseNames] at hfinding
    exact .latest hnames (Except.toOption_eq_some.1 hm) hfinding
  · cases h

include hholder in
/-- **The issues of a file are its problems.** -/
theorem mem_issues : issue ∈ file.ownIssues tree repo ∨ latestIssue? repo files file = some issue ↔
    file.Problem repo tree.readText (files.map (·.names)) issue := by
  refine ⟨fun h => h.elim (problem_of_mem_ownIssues hholder) problem_of_latestIssue?, fun h => ?_⟩
  have hown {d : PackagingDescriptor} (hpackaging : file.name = packagingFile)
      (hd : file.packaging repo = .ok d) :
      file.ownIssues tree repo = file.packagingIssues tree repo d := by
    rw [ownIssues, isPackaging, if_pos (beq_iff_eq.2 hpackaging), hd]
  have hfinding {d : PackagingDescriptor} (hpackaging : file.name = packagingFile)
      (hd : file.packaging repo = .ok d) {finding : Finding}
      (h : finding ∈ d.findings file.directory) :
      Issue.mk file.path finding ∈ file.ownIssues tree repo := by
    rw [hown hpackaging hd]
    exact List.mem_append_left _ (List.mem_map_of_mem h)
  have hconfig {d : PackagingDescriptor} (hpackaging : file.name = packagingFile)
      (hd : file.packaging repo = .ok d) (hnamed : d.testConfig ≠ "") {text : String}
      (hread : tree.readText (file.testConfigAt repo d) = .ok text) {finding : Finding}
      (h : finding ∈ TestConfig.findingsOf text) :
      Issue.mk (file.testConfigAt repo d) finding ∈ file.ownIssues tree repo := by
    rw [hown hpackaging hd]
    exact List.mem_append_right _ ((mem_testConfigIssues hholder).2
      ⟨hnamed, .inr ⟨text, hread, finding, h, rfl⟩⟩)
  cases h with
  | packaging hpackaging hfault =>
    rw [ownIssues, isPackaging, if_pos (beq_iff_eq.2 hpackaging), hfault]
    exact .inl (List.mem_singleton_self _)
  | invalidVersion hpackaging hd hversion =>
    exact .inl (hfinding hpackaging hd (mem_findings.2 (.inl ⟨_, hversion, rfl⟩)))
  | otherVersion hpackaging hd hversion hne =>
    exact .inl (hfinding hpackaging hd (mem_findings.2 (.inr (.inl ⟨_, hversion, hne, rfl⟩))))
  | emptyUri hpackaging hd huri =>
    exact .inl (hfinding hpackaging hd (mem_findings.2 (.inr (.inr ⟨huri, rfl⟩))))
  | unreadableTestConfig hpackaging hd hnamed hread =>
    rw [hown hpackaging hd]
    exact .inl (List.mem_append_right _ ((mem_testConfigIssues hholder).2
      ⟨hnamed, .inl ⟨_, hread, rfl⟩⟩))
  | malformedTestConfig hpackaging hd hnamed hread hparse =>
    exact .inl (hconfig hpackaging hd hnamed hread (mem_findingsOf.2 (.inl ⟨hparse, rfl⟩)))
  | emptyHubId hpackaging hd hnamed hread hparse hempty =>
    exact .inl (hconfig hpackaging hd hnamed hread
      (mem_findingsOf.2 (.inr ⟨_, hparse, .inl ⟨hempty, rfl⟩⟩)))
  | emptySnapshotsDir hpackaging hd hnamed hread hparse hempty =>
    exact .inl (hconfig hpackaging hd hnamed hread
      (mem_findingsOf.2 (.inr ⟨_, hparse, .inr ⟨hempty, rfl⟩⟩)))
  | metadata hnames hfault =>
    have hmetadata := isMetadata_iff.2 ⟨_, hnames⟩
    have hother : file.isPackaging = false := by
      rw [isPackaging, name, hnames]
      exact (by decide : (metadataFile == packagingFile) = false)
    rw [ownIssues, if_neg (Bool.eq_false_iff.1 hother), if_pos hmetadata, metadataIssues, hfault]
    exact .inl (List.mem_singleton_self _)
  | latest hnames hm hlatest =>
    have hmetadata := isMetadata_iff.2 ⟨_, hnames⟩
    right
    rw [latestIssue?, if_pos hmetadata, connector?, hnames, hm]
    rw [← releaseDirectories_eq_releaseNames] at hlatest
    simp [Except.toOption, hlatest]

end RegistryFile

/-! ### The latest versions -/

theorem mem_stable_releaseNames {connector : Identity} {text : String} {version : Version} :
    (text, version) ∈ ReleaseVersion.stable
        (releaseNames (RegistryTree.walkedNames tree dir) connector) ↔
      StableRelease tree dir connector text version := by
  rw [ReleaseVersion.mem_stable, StableRelease, RegistryTree.walkedNames,
    ← releaseDirectories_eq_releaseNames, releaseDirectories_eq, List.mem_filterMap]
  simp only [RegistryTree.mem_walk, RegistryFile.checkedVersion?_eq_some, exists_and_left]

theorem latestFinding?_eq_none_iff_bornOut {connector : Identity} {declared : String} :
    latestFinding? declared (releaseNames (RegistryTree.walkedNames tree dir) connector) = none ↔
      BornOut tree dir connector declared := by
  rw [latestFinding?_eq_none_iff, ReleaseVersion.latestStable?_eq_none]
  have hnone : ReleaseVersion.stable (releaseNames (RegistryTree.walkedNames tree dir) connector) = [] ↔
      ∀ text version, ¬StableRelease tree dir connector text version := by
    simp only [List.eq_nil_iff_forall_not_mem, Prod.forall, mem_stable_releaseNames]
  rw [hnone, BornOut]
  refine or_congr_right' fun hstable => ?_
  constructor
  · rintro ⟨⟨text, version⟩, v, hlatest, hparse, hsame⟩
    obtain ⟨hmem, hle⟩ := ReleaseVersion.isLE_of_latestStable? hlatest
    obtain ⟨hcore, hpre⟩ := Version.samePrecedence_iff.1 hsame
    have hrelease := mem_stable_releaseNames.1 hmem
    exact ⟨v, text, version, hparse, ⟨hrelease,
      fun text' other hother => hle (text', other) (mem_stable_releaseNames.2 hother)⟩,
      Version.sameCore_iff.2 hcore, hpre.trans hrelease.2.2⟩
  · rintro ⟨v, text, version, hparse, ⟨hrelease, hle⟩, hcore, hpre⟩
    cases hlatest : ReleaseVersion.latestStable?
        (releaseNames (RegistryTree.walkedNames tree dir) connector) with
    | none => exact absurd (hnone.1 (ReleaseVersion.latestStable?_eq_none.1 hlatest)) hstable
    | some latest =>
      -- Two releases that no other is above are of one precedence.
      obtain ⟨hmem, htop⟩ := ReleaseVersion.isLE_of_latestStable? hlatest
      have hother : StableRelease tree dir connector latest.1 latest.2 := mem_stable_releaseNames.1 hmem
      have heq := OrientedCmp.isLE_antisymm (htop _ (mem_stable_releaseNames.2 hrelease))
        (hle _ _ hother)
      exact ⟨latest, v, rfl, hparse, Version.samePrecedence_iff.2
        ⟨TransCmp.eq_trans (Version.sameCore_iff.1 hcore) heq, hpre.trans hother.2.2.symm⟩⟩

/-! ### Sound files -/

theorem RegistryFile.SoundPackaging.of_packaging {file : RegistryFile}
    {reads : String → Except ReadFault String} (h : file.SoundPackaging repo reads)
    {d : PackagingDescriptor} (hd : file.packaging repo = .ok d) :
    (∃ version, ReleaseVersion.parse d.version = .ok version) ∧ d.version = file.directory ∧
      isAllBlank d.uri = false ∧
      (d.testConfig ≠ "" → ∃ text config, reads (file.testConfigAt repo d) = .ok text ∧
        TestConfig.ofText? text = some config ∧ config.hubId ≠ "" ∧ config.snapshotsDir ≠ "") := by
  obtain ⟨text, d', version, hcontent, hparse, hversion, hsound⟩ := h
  cases hd.symm.trans (ofContent_eq_ok.2 ⟨text, hcontent, hparse⟩)
  exact ⟨⟨version, hversion⟩, hsound⟩

theorem RegistryFile.SoundPackaging.of_testConfig {file : RegistryFile}
    {reads : String → Except ReadFault String} (h : file.SoundPackaging repo reads)
    {d : PackagingDescriptor} (hd : file.packaging repo = .ok d) (hnamed : d.testConfig ≠ "")
    {text : String} (hread : reads (file.testConfigAt repo d) = .ok text) :
    ∃ config, TestConfig.ofText? text = some config ∧ config.hubId ≠ "" ∧
      config.snapshotsDir ≠ "" := by
  obtain ⟨-, -, -, hconfig⟩ := h.of_packaging hd
  obtain ⟨text', config, hread', hsound⟩ := hconfig hnamed
  cases hread.symm.trans hread'
  exact ⟨config, hsound⟩

theorem RegistryFile.not_problem_iff {file : RegistryFile}
    {reads : String → Except ReadFault String} :
    (∀ issue, ¬file.Problem repo reads (RegistryTree.walkedNames tree dir) issue) ↔
      (file.name = packagingFile → file.SoundPackaging repo reads) ∧
      ∀ connector : Identity, file.names = [connector.ns, connector.name, metadataFile] →
        file.SoundMetadata tree dir connector := by
  constructor
  · intro h
    constructor
    · intro hname
      cases hd : file.packaging repo with
      | error fault => exact absurd (.packaging hname hd) (h _)
      | ok d =>
        obtain ⟨text, hcontent, hparse⟩ := ofContent_eq_ok.1 hd
        cases hversion : ReleaseVersion.parse d.version with
        | error fault => exact absurd (.invalidVersion hname hd hversion) (h _)
        | ok version =>
          have hdirectory : d.version = file.directory := by_contra fun hne =>
            h _ (.otherVersion hname hd hversion hne)
          have huri : isAllBlank d.uri = false := Bool.eq_false_iff.2 fun huri =>
            h _ (.emptyUri hname hd huri)
          refine ⟨text, d, version, hcontent, hparse, hversion, hdirectory, huri, fun hnamed => ?_⟩
          cases hread : reads (file.testConfigAt repo d) with
          | error fault => exact absurd (.unreadableTestConfig hname hd hnamed hread) (h _)
          | ok text =>
            cases hconfig : TestConfig.ofText? text with
            | none => exact absurd (.malformedTestConfig hname hd hnamed hread hconfig) (h _)
            | some config =>
              exact ⟨text, config, rfl, hconfig,
                fun hempty => h _ (.emptyHubId hname hd hnamed hread hconfig hempty),
                fun hempty => h _ (.emptySnapshotsDir hname hd hnamed hread hconfig hempty)⟩
    · intro connector hnames
      cases hm : file.metadata repo with
      | error fault => exact absurd (.metadata hnames hm) (h _)
      | ok m =>
        obtain ⟨text, hcontent, hparse⟩ := ofContent_eq_ok.1 hm
        refine ⟨text, m, hcontent, hparse, latestFinding?_eq_none_iff_bornOut.1 ?_⟩
        exact Option.eq_none_iff_forall_ne_some.2 fun finding hlatest =>
          h _ (.latest hnames hm hlatest)
  · rintro ⟨hpackaging, hmetadata⟩ issue hproblem
    cases hproblem with
    | packaging hname hd =>
      obtain ⟨text, d, version, hcontent, hparse, -⟩ := hpackaging hname
      cases hd.symm.trans (ofContent_eq_ok.2 ⟨text, hcontent, hparse⟩)
    | invalidVersion hname hd hversion =>
      obtain ⟨⟨version, hparse⟩, -⟩ := (hpackaging hname).of_packaging hd
      cases hversion.symm.trans hparse
    | otherVersion hname hd hversion hne =>
      obtain ⟨-, hdirectory, -⟩ := (hpackaging hname).of_packaging hd
      exact hne hdirectory
    | emptyUri hname hd huri =>
      obtain ⟨-, -, hblank, -⟩ := (hpackaging hname).of_packaging hd
      cases huri.symm.trans hblank
    | unreadableTestConfig hname hd hnamed hread =>
      obtain ⟨-, -, -, hconfig⟩ := (hpackaging hname).of_packaging hd
      obtain ⟨text, config, hread', -⟩ := hconfig hnamed
      cases hread.symm.trans hread'
    | malformedTestConfig hname hd hnamed hread hnone =>
      obtain ⟨config, hparse, -⟩ := (hpackaging hname).of_testConfig hd hnamed hread
      cases hnone.symm.trans hparse
    | emptyHubId hname hd hnamed hread hsome hempty =>
      obtain ⟨config, hparse, hhub, -⟩ := (hpackaging hname).of_testConfig hd hnamed hread
      cases hsome.symm.trans hparse
      exact hhub hempty
    | emptySnapshotsDir hname hd hnamed hread hsome hempty =>
      obtain ⟨config, hparse, -, hsnapshots⟩ := (hpackaging hname).of_testConfig hd hnamed hread
      cases hsome.symm.trans hparse
      exact hsnapshots hempty
    | metadata hnames hm =>
      obtain ⟨text, m, hcontent, hparse, -⟩ := hmetadata _ hnames
      cases hm.symm.trans (ofContent_eq_ok.2 ⟨text, hcontent, hparse⟩)
    | latest hnames hm hlatest =>
      obtain ⟨text, m, hcontent, hparse, hborn⟩ := hmetadata _ hnames
      cases hm.symm.trans (ofContent_eq_ok.2 ⟨text, hcontent, hparse⟩)
      cases hlatest.symm.trans (latestFinding?_eq_none_iff_bornOut.2 hborn)

/-! ### The report -/

theorem fileIssues_none (tree : FileTree) (repo : String) (files : List RegistryFile) (world : σ) :
    (fileIssues none tree repo files).run world = (files.flatMap (·.ownIssues tree repo), world) := by
  induction files with
  | nil => rfl
  | cons file rest ih =>
    rw [fileIssues, StateT.run_bind, file.issues_none, List.flatMap_cons]
    exact congrArg (fun p : List Issue × σ => (file.ownIssues tree repo ++ p.1, p.2)) ih

/-- A validation that looks at no package reports on the files that a walk comes to. -/
theorem run_validateRegistry (hfind : RegistryTree.find tree repo = .ok dir) (world : σ) :
    let files := (tree.below dir).filterMap RegistryTree.file?
    (validateRegistry none tree repo).run world = (.ok {
      packagingFiles := files.countP (·.isPackaging)
      metadataFiles := files.countP (·.isMetadata)
      issues := files.flatMap (·.ownIssues tree repo) ++ files.filterMap (latestIssue? repo files) },
      world) := by
  intro files
  have hfiles : RegistryTree.files tree repo = .ok files := by rw [RegistryTree.files, hfind]
  rw [validateRegistry, hfiles, StateT.run_bind, fileIssues_none]
  rfl

/-- **What a validation reports.**  Where there is a registry directory, a validation that looks at no
package gives a report and changes nothing.  The report holds the problems of each file that a walk
comes to, and these do not depend on what other files hold, the test config aside that a packaging
file names.  So it is free of issues exactly if each packaging file is sound and each connector's
metadata declares a latest version that the releases bear out. -/
theorem validate_reports (htree : tree.WellFormed) (hfind : RegistryTree.find tree repo = .ok dir)
    (world : σ) :
    ∃ report, (validateRegistry none tree repo).run world = (.ok report, world) ∧
      (∀ issue, issue ∈ report.issues ↔ ∃ file, RegistryTree.Walked tree dir file ∧
        file.Problem repo tree.readText (RegistryTree.walkedNames tree dir) issue) ∧
      (report.issues = [] ↔
        (∀ file, RegistryTree.Walked tree dir file → file.name = packagingFile →
          file.SoundPackaging repo tree.readText) ∧
        ∀ connector file, RegistryTree.Walked tree dir file →
          file.names = [connector.ns, connector.name, metadataFile] →
          file.SoundMetadata tree dir connector) := by
  have hrun := run_validateRegistry hfind world
  set files := (tree.below dir).filterMap RegistryTree.file? with hfiles
  have hmem : ∀ issue, issue ∈ files.flatMap (·.ownIssues tree repo) ++
        files.filterMap (latestIssue? repo files) ↔
      ∃ file, RegistryTree.Walked tree dir file ∧
        file.Problem repo tree.readText (RegistryTree.walkedNames tree dir) issue := by
    intro issue
    rw [List.mem_append, List.mem_flatMap, List.mem_filterMap, ← exists_or]
    refine exists_congr fun file => ?_
    rw [← and_or_left, hfiles, RegistryTree.mem_walk]
    refine and_congr_right fun hwalked => ?_
    have hplain : ∀ name ∈ file.names, Path.isPlainName name = true := fun name hname =>
      htree.isPlainName hwalked.1 hname
    have hne : file.names ≠ [] := (FileTree.mem_below.1 hwalked.1).1
    exact RegistryFile.mem_issues (RegistryFile.parent_foundAt hplain hne repo)
  refine ⟨_, hrun, hmem, ?_⟩
  rw [List.eq_nil_iff_forall_not_mem]
  simp only [hmem, not_exists, not_and]
  constructor
  · intro h
    have hsound := fun file hwalked => RegistryFile.not_problem_iff.1 fun issue hproblem =>
      h issue file hwalked hproblem
    exact ⟨fun file hwalked => (hsound file hwalked).1,
      fun connector file hwalked => (hsound file hwalked).2 connector⟩
  · rintro ⟨hpackaging, hmetadata⟩ issue file hwalked
    exact RegistryFile.not_problem_iff.2
      ⟨hpackaging file hwalked, fun connector => hmetadata connector file hwalked⟩ issue

section

/-- A tree with a packaging file that cannot be parsed, beside a release above the declared one. -/
def neglectedReleases : FileTree :=
  (FileTree.empty.write ["repo", "registry", "acme", "db", "metadata.json"]
    (utf8 "\x7b\"overview\": \x7b\"latest_version\": \"v1.0.0\"\x7d\x7d"))
    |>.write ["repo", "registry", "acme", "db", "releases", "v1.0.0", "connector-packaging.json"]
      (utf8 "\x7b")
    |>.write ["repo", "registry", "acme", "db", "releases", "v2.0.0", "connector-packaging.json"]
      (utf8 "\x7b\"version\": \"v2.0.0\", \"uri\": \"u\"\x7d")

/-- Both problems are reported. -/
theorem neglectedReleases_reported : neglectedReleases.WellFormed ∧
    RegistryTree.find neglectedReleases "repo" = .ok ["repo", "registry"] ∧
    ∃ report, (validateRegistry none neglectedReleases "repo").run () = (.ok report, ()) ∧
      ⟨"registry/acme/db/releases/v1.0.0/connector-packaging.json", .document (.malformed
        "packaging file" "repo/registry/acme/db/releases/v1.0.0/connector-packaging.json")⟩ ∈
        report.issues ∧
      ⟨"registry/acme/db/metadata.json", .otherLatest "v1.0.0" "v2.0.0"⟩ ∈ report.issues := by
  have htree : neglectedReleases.WellFormed := by decide +kernel
  have hfind : RegistryTree.find neglectedReleases "repo" = .ok ["repo", "registry"] :=
    Except.toOption_eq_some.1 (by decide +kernel)
  obtain ⟨report, hrun, hissues, -⟩ := validate_reports htree hfind ()
  refine ⟨htree, hfind, report, hrun, (hissues _).2 ?_, (hissues _).2 ?_⟩
  · refine ⟨⟨["acme", "db", "releases", "v1.0.0", "connector-packaging.json"], utf8 "\x7b"⟩,
      ⟨by decide +kernel, by decide +kernel⟩, ?_⟩
    exact .packaging rfl (by decide +kernel)
  · let file : RegistryFile := ⟨["acme", "db", "metadata.json"],
      utf8 "\x7b\"overview\": \x7b\"latest_version\": \"v1.0.0\"\x7d\x7d"⟩
    let connector : Identity := ⟨"acme", "db"⟩
    obtain ⟨m, hm, hdeclared⟩ : ∃ m, (file.metadata "repo").toOption = some m ∧
        m.overview.latestVersion = "v1.0.0" :=
      Option.map_eq_some_iff.1 (by decide +kernel)
    refine ⟨file, ⟨by decide +kernel, by decide +kernel⟩, ?_⟩
    have hnames : file.names = [connector.ns, connector.name, metadataFile] := rfl
    refine .latest hnames (Except.toOption_eq_some.1 hm) ?_
    rw [hdeclared]
    decide +kernel

end

end ConnectorCatalog
