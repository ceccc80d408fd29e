import ConnectorCatalog.Proofs.Preflight.Report
import ConnectorCatalog.Proofs.TestMatrix.Latest

/-!
# The latest releases of a validated tree

A validation compares the declared latest version of a connector with its releases by precedence, so
build metadata does not count.  The selection of the latest releases looks for a directory of that
very name below `releases`.  **In a validated tree the latest release of a connector is found if a
release that is filed there has the declared precedence and build metadata, and only then, unless a
link leads there** (`latest_of_validated`).
-/

namespace ConnectorCatalog

open Std Text

variable {σ : Type} {tree : FileTree} {repo : String} {dir : List String} {connector : Identity}
  {file : RegistryFile}

/-! ### Finding the files of a walk -/

theorem append_packagingPath_eq_foundAt {release : ReleaseId}
    (hplain : ∀ name ∈ file.names, Path.isPlainName name = true)
    (hnames : file.names = packagingNames release) :
    Path.append repo (packagingPath release) = file.foundAt repo := by
  have hne : file.names ≠ [] := by simp [hnames, packagingNames]
  rw [append_packagingPath, RegistryFile.foundAt_eq hplain hne,
    (RegistryTree.endsInName_root repo).within_eq, hnames]

theorem mem_connectorDirectories_of_walked (htree : tree.WellFormed)
    (hwalked : RegistryTree.Walked tree dir file) {last : String}
    (hnames : file.names = [connector.ns, connector.name, last]) :
    connector ∈ connectorDirectories tree dir := by
  obtain ⟨hbelow, halias⟩ := hwalked
  have hmem := (FileTree.mem_below.1 hbelow).2
  rw [hnames] at hmem halias
  have hns : tree.entry? (dir ++ [connector.ns]) = some .dir := by
    rw [List.append_cons] at hmem
    exact htree.entry?_eq_dir hmem (List.cons_ne_nil _ _)
  have hname : tree.entry? (dir ++ [connector.ns] ++ [connector.name]) = some .dir := by
    rw [List.append_cons, List.append_cons] at hmem
    exact htree.entry?_eq_dir hmem (List.cons_ne_nil _ _)
  refine mem_connectorDirectories.2 ⟨fun h => halias (h ▸ List.mem_cons_self), ?_, ?_⟩
  · exact FileTree.mem_below.2 ⟨List.cons_ne_nil _ _, (htree.entry?_eq_some (by simp)).1 hns⟩
  · exact FileTree.mem_below.2 ⟨List.cons_ne_nil _ _, (htree.entry?_eq_some (by simp)).1 hname⟩

theorem ReleaseVersion.isPlainName_of_parse {text : String} {version : Version}
    (h : parse text = .ok version) : Path.isPlainName text = true ∧ text ≠ aliasDir := by
  obtain ⟨rest, htext, -⟩ := parse_eq_ok h
  have hne {other : String} (hother : other.toList.head? ≠ some 'v') : text ≠ other := by
    rintro rfl
    exact hother (congrArg List.head? htext)
  refine ⟨Path.isPlainName_iff.2 ⟨hne (by decide), fun hslash => ?_, hne (by decide),
    hne (by decide)⟩, hne (by decide)⟩
  exact absurd (isVersionChar_of_parse h '/' hslash) (by decide)

/-! ### The packaging file of one release -/

theorem load_of_walked (htree : tree.WellFormed) (hnames : tree.HasUsableNames)
    (hfind : RegistryTree.find tree repo = .ok dir) (hwalked : RegistryTree.Walked tree dir file)
    {release : ReleaseId} (hof : file.names = packagingNames release)
    (hsound : file.SoundPackaging repo tree.readText) :
    tree.isFile (Path.append repo (packagingPath release)) = true ∧ ∃ d,
      PackagingDescriptor.load tree (Path.append repo (packagingPath release)) = .ok d ∧
      d.version = release.version := by
  obtain ⟨text, d, version, hcontent, hparse, -, hdirectory, -⟩ := hsound
  have hplain : ∀ name ∈ file.names, Path.isPlainName name = true := fun name hname =>
    htree.isPlainName hwalked.1 hname
  rw [append_packagingPath_eq_foundAt hplain hof, PackagingDescriptor.load, Document.load,
    RegistryFile.readText_foundAt htree hnames hfind hwalked]
  refine ⟨RegistryFile.isFile_foundAt htree hnames hfind hwalked, d,
    RegistryFile.ofContent_eq_ok.2 ⟨text, hcontent, hparse⟩, ?_⟩
  rw [hdirectory, RegistryFile.directory, hof]
  rfl

/-- A stable release of a connector whose packaging file stands where it is looked for. -/
def FiledRelease (tree : FileTree) (dir : List String) (connector : Identity) (text : String)
    (version : Version) : Prop :=
  (∃ file, RegistryTree.Walked tree dir file ∧ file.names = packagingNames ⟨connector, text⟩) ∧
  ReleaseVersion.parse text = .ok version ∧ version.pre = []

theorem FiledRelease.stableRelease {text : String} {version : Version}
    (h : FiledRelease tree dir connector text version) :
    StableRelease tree dir connector text version := by
  obtain ⟨⟨file, hwalked, hnames⟩, hversion⟩ := h
  exact ⟨⟨file, "releases", hwalked, hnames⟩, hversion⟩

theorem FiledRelease.load (htree : tree.WellFormed) (hnames : tree.HasUsableNames)
    (hfind : RegistryTree.find tree repo = .ok dir)
    (hsound : ∀ file, RegistryTree.Walked tree dir file → file.name = packagingFile →
      file.SoundPackaging repo tree.readText) {text : String} {version : Version}
    (h : FiledRelease tree dir connector text version) :
    let path := Path.append repo (packagingPath ⟨connector, text⟩)
    tree.isFile path = true ∧ ∃ d, PackagingDescriptor.load tree path = .ok d ∧ d.version = text := by
  obtain ⟨⟨file, hwalked, hof⟩, -⟩ := h
  have hname : file.name = packagingFile := by
    rw [RegistryFile.name, hof]
    rfl
  exact load_of_walked htree hnames hfind hwalked hof (hsound file hwalked hname)

/-- A stable release that is not below a highest one is a highest one itself. -/
theorem HighestStable.of_isLE {text text' : String} {version other : Version}
    (h : HighestStable tree dir connector text version)
    (hother : StableRelease tree dir connector text' other)
    (hle : (Version.compareCore version other).isLE = true) :
    HighestStable tree dir connector text' other ∧ version.SameCore other := by
  obtain ⟨-, htop⟩ := h
  exact ⟨⟨hother, fun last third hthird => TransCmp.isLE_trans (htop last third hthird) hle⟩,
    Version.sameCore_iff.2 (OrientedCmp.isLE_antisymm hle (htop text' other hother))⟩

/-- Without links, a packaging file that is found is one that a walk comes to. -/
theorem filedRelease_of_isFile (htree : tree.WellFormed) (hlinks : tree.IsLinkless)
    (hfind : RegistryTree.find tree repo = .ok dir) (hwalked : RegistryTree.Walked tree dir file)
    (hof : file.names = [connector.ns, connector.name, metadataFile]) {text : String}
    {version : Version} (hparse : ReleaseVersion.parse text = .ok version) (hpre : version.pre = [])
    (hfile : tree.isFile (Path.append repo (packagingPath ⟨connector, text⟩)) = true) :
    FiledRelease tree dir connector text version := by
  obtain ⟨hbelow, halias⟩ := hwalked
  rw [hof] at hbelow halias
  obtain ⟨hversion, haliasVersion⟩ := ReleaseVersion.isPlainName_of_parse hparse
  have hplain : ∀ name ∈ packagingNames ⟨connector, text⟩, Path.isPlainName name = true :=
    isPlainName_packagingNames (htree.isPlainName hbelow (by simp))
      (htree.isPlainName hbelow (by simp)) hversion
  obtain ⟨content, hentry⟩ := exists_mem_below_of_isFile htree hlinks hfind hplain hfile
  have hmem : aliasDir ∉ packagingNames ⟨connector, text⟩ :=
    not_mem_packagingNames (fun h => halias (by simp [← h])) (fun h => halias (by simp [← h]))
      haliasVersion
  exact ⟨⟨⟨_, content⟩, ⟨hentry, hmem⟩, rfl⟩, hparse, hpre⟩

theorem exists_target_of_load {release : ReleaseId} {path : String} {d : PackagingDescriptor}
    (hload : PackagingDescriptor.load tree (Path.append repo path) = .ok d) (hnamed : d.testConfig ≠ "")
    {t? : Option TestTarget} (h : targetFor? tree repo release path = .ok t?) :
    ∃ t, t? = some t ∧ t.release = release := by
  unfold targetFor? at h
  rw [hload] at h
  dsimp only at h
  rw [PackagingDescriptor.testConfigPath?, if_neg hnamed] at h
  obtain ⟨config, -, rfl⟩ := Except.map_eq_ok.1 h
  exact ⟨_, rfl, rfl⟩

/-! ### The latest release of one connector -/

/-- Where the metadata of a connector is known, its latest release is looked for. -/
theorem latestTarget?_of_metadata (htree : tree.WellFormed) (hnames : tree.HasUsableNames)
    (hfind : RegistryTree.find tree repo = .ok dir) (hwalked : RegistryTree.Walked tree dir file)
    (hof : file.names = [connector.ns, connector.name, metadataFile]) {m : ConnectorMetadata}
    (hm : file.metadata repo = .ok m) (hne : m.overview.latestVersion ≠ "") :
    let release : ReleaseId := ⟨connector, m.overview.latestVersion⟩
    latestTarget? tree repo connector =
      if tree.isFile (Path.append repo (packagingPath release)) = true
      then targetFor? tree repo release (packagingPath release) else .ok none := by
  intro release
  have hplain : ∀ name ∈ file.names, Path.isPlainName name = true := fun name hname =>
    htree.isPlainName hwalked.1 hname
  have hpath : Path.append (Path.append (Path.append (RegistryTree.root repo) connector.ns)
      connector.name) metadataFile = file.foundAt repo := by
    rw [RegistryFile.foundAt_eq_foldl hplain (FileTree.mem_below.1 hwalked.1).1, hof]
    rfl
  have hload : ConnectorMetadata.load tree (file.foundAt repo) = .ok m := by
    rw [ConnectorMetadata.load, Document.load,
      RegistryFile.readText_foundAt htree hnames hfind hwalked]
    exact hm
  unfold latestTarget?
  dsimp only
  rw [hpath, RegistryFile.isFile_foundAt htree hnames hfind hwalked, hload]
  dsimp only
  rw [if_neg hne]
  cases tree.isFile (Path.append repo (packagingPath release)) <;> rfl

theorem exists_mem_latestTargets (hfind : RegistryTree.find tree repo = .ok dir)
    {latest : List TestTarget} (hlatest : latestTargets tree repo = .ok latest)
    (hconnector : connector ∈ connectorDirectories tree dir) {release : ReleaseId} {path : String}
    (htarget : latestTarget? tree repo connector = targetFor? tree repo release path)
    {d : PackagingDescriptor} (hload : PackagingDescriptor.load tree (Path.append repo path) = .ok d)
    (hnamed : d.testConfig ≠ "") : ∃ t ∈ latest, t.release = release := by
  have hcollect := collect_of_latestTargets hfind hlatest
  obtain ⟨t?, ht⟩ := exists_of_mem_collect hcollect hconnector
  rw [htarget] at ht
  obtain ⟨t, rfl, hrelease⟩ := exists_target_of_load hload hnamed ht
  exact ⟨t, (mem_collect hcollect).2 ⟨connector, hconnector, htarget.trans ht⟩, hrelease⟩

theorem not_mem_latestTargets (hfind : RegistryTree.find tree repo = .ok dir)
    {latest : List TestTarget} (hlatest : latestTargets tree repo = .ok latest)
    (htarget : latestTarget? tree repo connector = .ok none) :
    ∀ t ∈ latest, t.release.connector ≠ connector := by
  intro t ht heq
  obtain ⟨other, -, hother⟩ := (mem_collect (collect_of_latestTargets hfind hlatest)).1 ht
  obtain ⟨hconnector, -⟩ := latestTarget?_eq_some.1 hother
  rw [← hconnector, heq, htarget] at hother
  cases hother

/-- **When the latest release of a validated connector is found.**  Take a tree in which a validation
has nothing to report and the latest releases can be selected, and a connector with metadata of its
own and a stable release below `releases`.  It declares a stable latest version, which has the
precedence of the highest stable release below `releases` unless one that stands elsewhere is above
all of them.  If a release of the declared precedence that stands there has the declared build
metadata too, its packaging file is found, declares that very version, and is selected if it names a
test config.  Otherwise no packaging file is found in a tree without links, so the connector is left
out. -/
theorem latest_of_validated (htree : tree.WellFormed) (hnames : tree.HasUsableNames)
    (hfind : RegistryTree.find tree repo = .ok dir) {world : σ} {report : ValidationReport}
    (hrun : ((validateRegistry none tree repo).run world).1 = .ok report)
    (hclean : report.issues = []) {latest : List TestTarget}
    (hlatest : latestTargets tree repo = .ok latest) (hwalked : RegistryTree.Walked tree dir file)
    (hof : file.names = [connector.ns, connector.name, metadataFile])
    (hstable : ∃ text version, FiledRelease tree dir connector text version) :
    ∃ m v, file.metadata repo = .ok m ∧
      ReleaseVersion.parse m.overview.latestVersion = .ok v ∧ v.pre = [] ∧
      ((∀ text version, StableRelease tree dir connector text version →
          ∃ text' other, FiledRelease tree dir connector text' other ∧
            (Version.compareCore version other).isLE = true) →
        ∃ text version, FiledRelease tree dir connector text version ∧
          HighestStable tree dir connector text version ∧ v.SameCore version) ∧
      let release : ReleaseId := ⟨connector, m.overview.latestVersion⟩
      let path := Path.append repo (packagingPath release)
      ((∃ text version, FiledRelease tree dir connector text version ∧ v.SameCore version ∧
          version.build = v.build) →
        tree.isFile path = true ∧ ∃ d, PackagingDescriptor.load tree path = .ok d ∧
          d.version = m.overview.latestVersion ∧
          (d.testConfig ≠ "" → ∃ t ∈ latest, t.release = release)) ∧
      (tree.IsLinkless →
        (∀ text version, FiledRelease tree dir connector text version → v.SameCore version →
          version.build ≠ v.build) →
        tree.isFile path = false ∧ ∀ t ∈ latest, t.release.connector ≠ connector) := by
  -- What a validation without issues says of the files.
  obtain ⟨report', hrun', -, hsound⟩ := validate_reports htree hfind world
  rw [hrun'] at hrun
  cases hrun
  obtain ⟨hpackaging, hmetadata⟩ := hsound.1 hclean
  obtain ⟨text, m, hcontent, hparse, hborn⟩ := hmetadata connector file hwalked hof
  have hm : file.metadata repo = .ok m := RegistryFile.ofContent_eq_ok.2 ⟨text, hcontent, hparse⟩
  obtain ⟨top, topVersion, htop⟩ := hstable
  obtain ⟨v, highest, version, hv, hhighest, hcore, hpre⟩ :=
    hborn.resolve_left fun hnone => hnone top topVersion htop.stableRelease
  have hne : m.overview.latestVersion ≠ "" := by
    intro hempty
    rw [hempty] at hv
    cases hv
  have hconnector := mem_connectorDirectories_of_walked htree hwalked hof
  have htarget := latestTarget?_of_metadata htree hnames hfind hwalked hof hm hne
  refine ⟨m, v, hm, hv, hpre, ?_, ?_, ?_⟩
  · intro hfiled
    obtain ⟨text, other, hother, hle⟩ := hfiled highest version hhighest.1
    obtain ⟨htopmost, hsame⟩ := hhighest.of_isLE hother.stableRelease hle
    exact ⟨text, other, hother, htopmost, Version.sameCore_iff.2
      (TransCmp.eq_trans (Version.sameCore_iff.1 hcore) (Version.sameCore_iff.1 hsame))⟩
  · rintro ⟨text, other, hfiled, hothercore, hbuild⟩
    -- A release with the declared precedence and build metadata is the declared one.
    obtain rfl := hothercore.eq (hpre.trans hfiled.2.2.symm) hbuild.symm
    obtain rfl := ReleaseVersion.parse_injective hfiled.2.1 hv
    obtain ⟨hfile, d, hload, hversion⟩ := hfiled.load htree hnames hfind hpackaging
    exact ⟨hfile, d, hload, hversion, exists_mem_latestTargets hfind hlatest hconnector
      (htarget.trans (if_pos hfile)) hload⟩
  · intro hlinks hnone
    have hfile : tree.isFile (Path.append repo
        (packagingPath ⟨connector, m.overview.latestVersion⟩)) = false := by
      rw [← Bool.not_eq_true]
      intro hfile
      exact hnone _ _ (filedRelease_of_isFile htree hlinks hfind hwalked hof hv hpre hfile)
        ⟨rfl, rfl, rfl⟩ rfl
    exact ⟨hfile, not_mem_latestTargets hfind hlatest
      (htarget.trans (if_neg (Bool.eq_false_iff.1 hfile)))⟩

section

/-- The test config of the releases below. -/
def filledConfig : Bytes := utf8 "\x7b\"hub_id\": \"h\", \"snapshots_dir\": \"s\"\x7d"

/-- The packaging file of the releases below. -/
def testedPackaging : Bytes := utf8
  "\x7b\"version\": \"v1.0.0\", \"uri\": \"u\", \"test\": \x7b\"test_config_path\": \"t.json\"\x7d\x7d"

/-- A tree with one tested release, of a connector with the given metadata. -/
def testedRelease (metadata : Bytes) : FileTree :=
  (FileTree.empty.write ["repo", "registry", "acme", "db", "metadata.json"] metadata)
    |>.write ["repo", "registry", "acme", "db", "releases", "v1.0.0", "connector-packaging.json"]
      testedPackaging
    |>.write ["repo", "registry", "acme", "db", "releases", "v1.0.0", "t.json"] filledConfig

/-- Metadata that declares the release. -/
def plainLatest : Bytes := utf8 "\x7b\"overview\": \x7b\"latest_version\": \"v1.0.0\"\x7d\x7d"

/-- Metadata that declares the release with build metadata. -/
def builtLatest : Bytes := utf8 "\x7b\"overview\": \x7b\"latest_version\": \"v1.0.0+b\"\x7d\x7d"

/-- The declared release is selected. -/
theorem plainLatest_selected :
    let tree := testedRelease plainLatest
    let connector : Identity := ⟨"acme", "db"⟩
    tree.WellFormed ∧ tree.HasUsableNames ∧
    RegistryTree.find tree "repo" = .ok ["repo", "registry"] ∧
    ((validateRegistry none tree "repo").run ()).1 = .ok ⟨1, 1, []⟩ ∧
    RegistryTree.Walked tree ["repo", "registry"] ⟨["acme", "db", "metadata.json"], plainLatest⟩ ∧
    (∀ other folder text, RegistryTree.Walked tree ["repo", "registry"] other →
      other.names = [connector.ns, connector.name, folder, text, packagingFile] →
      folder = "releases") ∧
    FiledRelease tree ["repo", "registry"] connector "v1.0.0" ⟨1, 0, 0, [], []⟩ ∧
    (∃ text version, FiledRelease tree ["repo", "registry"] connector text version ∧
      HighestStable tree ["repo", "registry"] connector text version ∧
      Version.SameCore ⟨1, 0, 0, [], []⟩ version) ∧
    ∃ latest, latestTargets tree "repo" = .ok latest ∧
      ∃ t ∈ latest, t.release = ⟨connector, "v1.0.0"⟩ := by
  intro tree connector
  have htree : tree.WellFormed := by decide +kernel
  have hnames : tree.HasUsableNames := by decide +kernel
  have hfind : RegistryTree.find tree "repo" = .ok ["repo", "registry"] :=
    Except.toOption_eq_some.1 (by decide +kernel)
  have hrun : ((validateRegistry none tree "repo").run ()).1 = .ok ⟨1, 1, []⟩ :=
    Except.toOption_eq_some.1 (by decide +kernel)
  have hwalked : RegistryTree.Walked tree ["repo", "registry"]
      ⟨["acme", "db", "metadata.json"], plainLatest⟩ := ⟨by decide +kernel, by decide +kernel⟩
  have hreleases : ∀ other folder text, RegistryTree.Walked tree ["repo", "registry"] other →
      other.names = [connector.ns, connector.name, folder, text, packagingFile] →
      folder = "releases" := by
    intro other folder text hother hof
    have hfolders : ∀ names ∈ RegistryTree.walkedNames tree ["repo", "registry"],
        names.length = 5 → names[2]? = some "releases" ∨ names[4]? ≠ some packagingFile := by
      decide +kernel
    have hfolder := hfolders _ (RegistryTree.mem_walkedNames hother)
    rw [hof] at hfolder
    simpa using hfolder rfl
  have hfiled : FiledRelease tree ["repo", "registry"] connector "v1.0.0" ⟨1, 0, 0, [], []⟩ :=
    ⟨⟨⟨packagingNames ⟨connector, "v1.0.0"⟩, testedPackaging⟩,
      ⟨by decide +kernel, by decide +kernel⟩, rfl⟩, Except.toOption_eq_some.1 (by decide +kernel), rfl⟩
  obtain ⟨latest, hlatest⟩ : ∃ latest, (latestTargets tree "repo").toOption = some latest :=
    Option.isSome_iff_exists.1 (by decide +kernel)
  have hlatest := Except.toOption_eq_some.1 hlatest
  have hof : (⟨["acme", "db", "metadata.json"], plainLatest⟩ : RegistryFile).names =
      [connector.ns, connector.name, metadataFile] := rfl
  obtain ⟨m, v, hm, hv, -, hhighest, hfound, -⟩ :=
    latest_of_validated htree hnames hfind hrun rfl hlatest hwalked hof ⟨_, _, hfiled⟩
  have hdeclared : m.overview.latestVersion = "v1.0.0" := by
    have hread : ((⟨["acme", "db", "metadata.json"], plainLatest⟩ : RegistryFile).metadata
        "repo").toOption.map (·.overview.latestVersion) = some "v1.0.0" := by decide +kernel
    rw [hm] at hread
    exact Option.some_inj.1 hread
  rw [hdeclared] at hv hfound
  cases hv.symm.trans hfiled.2.1
  obtain ⟨-, d, hload, -, htarget⟩ := hfound ⟨_, _, hfiled, ⟨rfl, rfl, rfl⟩, rfl⟩
  have hnamed : d.testConfig ≠ "" := by
    have hread : (PackagingDescriptor.load tree
        (Path.append "repo" (packagingPath ⟨connector, "v1.0.0"⟩))).toOption.map (·.testConfig) =
        some "t.json" := by decide +kernel
    rw [hload] at hread
    have hconfig : d.testConfig = "t.json" := Option.some_inj.1 hread
    rw [hconfig]
    decide
  have hall : ∀ text version, StableRelease tree ["repo", "registry"] connector text version →
      ∃ text' other, FiledRelease tree ["repo", "registry"] connector text' other ∧
        (Version.compareCore version other).isLE = true := by
    rintro text version ⟨⟨found, folder, hfound, hof⟩, hversion⟩
    obtain rfl := hreleases found folder text hfound hof
    exact ⟨text, version, ⟨⟨found, hfound, hof⟩, hversion⟩, ReflCmp.isLE_rfl⟩
  exact ⟨htree, hnames, hfind, hrun, hwalked, hreleases, hfiled, hhighest hall, latest, hlatest,
    htarget hnamed⟩

/-- A declared version with other build metadata passes the validation and is left out: a validated
tree need not have the packaging file of its latest release. -/
theorem builtLatest_left_out : ¬∀ (tree : FileTree) (repo : String) (dir : List String)
    (report : ValidationReport) (latest : List TestTarget) (connector : Identity)
    (file : RegistryFile) (m : ConnectorMetadata), tree.WellFormed → tree.HasUsableNames →
    RegistryTree.find tree repo = .ok dir →
    ((validateRegistry none tree repo).run ()).1 = .ok report → report.issues = [] →
    latestTargets tree repo = .ok latest → RegistryTree.Walked tree dir file →
    file.names = [connector.ns, connector.name, metadataFile] → file.metadata repo = .ok m →
    (∃ other text version, RegistryTree.Walked tree dir other ∧
      other.names = [connector.ns, connector.name, "releases", text, packagingFile] ∧
      ReleaseVersion.parse text = .ok version ∧ version.pre = []) →
    let path := Path.append repo (packagingPath ⟨connector, m.overview.latestVersion⟩)
    tree.isFile path = true ∧ ∃ d v text version, PackagingDescriptor.load tree path = .ok d ∧
      ReleaseVersion.parse d.version = .ok v ∧ HighestStable tree dir connector text version ∧
      v.SameCore version ∧ v.pre = [] := by
  intro h
  let tree := testedRelease builtLatest
  let connector : Identity := ⟨"acme", "db"⟩
  let file : RegistryFile := ⟨["acme", "db", "metadata.json"], builtLatest⟩
  have hrun : ((validateRegistry none tree "repo").run ()).1 = .ok ⟨1, 1, []⟩ :=
    Except.toOption_eq_some.1 (by decide +kernel)
  obtain ⟨m, hm, hdeclared⟩ : ∃ m, (file.metadata "repo").toOption = some m ∧
      m.overview.latestVersion = "v1.0.0+b" :=
    Option.map_eq_some_iff.1 (by decide +kernel)
  obtain ⟨hfile, -⟩ := h tree "repo" ["repo", "registry"] ⟨1, 1, []⟩ [] connector file m
    (by decide +kernel) (by decide +kernel) (Except.toOption_eq_some.1 (by decide +kernel)) hrun rfl
    (Except.toOption_eq_some.1 (by decide +kernel)) ⟨by decide +kernel, by decide +kernel⟩ rfl
    (Except.toOption_eq_some.1 hm)
    ⟨⟨packagingNames ⟨connector, "v1.0.0"⟩, testedPackaging⟩, "v1.0.0", ⟨1, 0, 0, [], []⟩,
      ⟨by decide +kernel, by decide +kernel⟩, rfl, Except.toOption_eq_some.1 (by decide +kernel), rfl⟩
  rw [hdeclared] at hfile
  exact absurd hfile (by decide +kernel)

end

end ConnectorCatalog
