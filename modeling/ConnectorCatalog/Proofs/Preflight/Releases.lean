import ConnectorCatalog.Preflight.Validation
import ConnectorCatalog.Proofs.Preflight.Latest
import ConnectorCatalog.Proofs.TestMatrix.Targets

/-!
# The releases that a declared latest version is checked against

A validation holds the latest version that a connector declares to the packaging files two
directories below the connector's own, whatever the directory between them is called.  What counts as
a release elsewhere is a packaging file whose path is recognized.  **The two agree on a connector
exactly if the files that only one of them finds come to the same versions**, and the declarations
that are accepted agree exactly if none of these files holds a stable release above all others
(`latest_verdict`).
-/

namespace ConnectorCatalog

open Std Text ReleaseVersion

/-! ### Two ways to find something in a list -/

section

variable {α β : Type} {f g : α → Option β} {l : List α}

/-- What one way finds for the members for which the other finds nothing. -/
def foundOnlyBy (f g : α → Option β) (l : List α) : List β :=
  (l.filter fun a => (g a).isNone).filterMap f

/-- What both ways find. -/
def foundByBoth (f g : α → Option β) (l : List α) : List β :=
  (l.filter fun a => (g a).isSome).filterMap f

theorem perm_found (f g : α → Option β) (l : List α) :
    (l.filterMap f).Perm (foundByBoth f g l ++ foundOnlyBy f g l) := by
  have hsplit := (List.filter_append_perm (fun a => (g a).isSome) l).symm.filterMap f
  rw [List.filterMap_append] at hsplit
  have hnone : (fun a => !(g a).isSome) = fun a => (g a).isNone := by
    funext a
    cases g a <;> rfl
  rwa [hnone] at hsplit

theorem foundByBoth_comm (h : ∀ a ∈ l, ∀ b c, f a = some b → g a = some c → b = c) :
    foundByBoth f g l = foundByBoth g f l := by
  rw [foundByBoth, foundByBoth, List.filterMap_filter, List.filterMap_filter]
  refine List.filterMap_congr fun a ha => ?_
  cases hf : f a with
  | none => simp
  | some b =>
    cases hg : g a with
    | none => simp
    | some c => simp [h a ha b c hf hg]

theorem sublist_found (h : ∀ a ∈ l, ∀ b, g a = some b → f a = some b) :
    (l.filterMap g).Sublist (l.filterMap f) := by
  have hboth : l.filterMap g = foundByBoth f g l := by
    rw [foundByBoth, List.filterMap_filter]
    refine List.filterMap_congr fun a ha => ?_
    cases hg : g a with
    | none => simp
    | some b => simp [h a ha b hg]
  rw [hboth]
  exact List.filter_sublist.filterMap f

theorem mem_foundOnlyBy {b : β} :
    b ∈ foundOnlyBy f g l ↔ ∃ a ∈ l, f a = some b ∧ g a = none := by
  simp only [foundOnlyBy, List.mem_filterMap, List.mem_filter, Option.isNone_iff_eq_none]
  constructor
  · rintro ⟨a, ⟨ha, hnone⟩, hfound⟩
    exact ⟨a, ha, hfound, hnone⟩
  · rintro ⟨a, ha, hfound, hnone⟩
    exact ⟨a, ⟨ha, hnone⟩, hfound⟩

theorem foundOnlyBy_eq_nil (h : ∀ a ∈ l, ∀ b, g a = some b → f a = some b) :
    foundOnlyBy g f l = [] := by
  refine List.eq_nil_iff_forall_not_mem.2 fun b hb => ?_
  obtain ⟨a, ha, hfound, hnone⟩ := mem_foundOnlyBy.1 hb
  cases (h a ha b hfound).symm.trans hnone

/-- They find the same, up to order, exactly if they do so where only one of them finds anything. -/
theorem found_perm_iff (h : ∀ a ∈ l, ∀ b c, f a = some b → g a = some c → b = c) :
    (l.filterMap f).Perm (l.filterMap g) ↔ (foundOnlyBy f g l).Perm (foundOnlyBy g f l) := by
  rw [(perm_found f g l).congr_left, (perm_found g f l).congr_right, foundByBoth_comm h,
    List.perm_append_left_iff]

end

namespace ReleaseVersion

variable {texts others rest : List String}

/-- Among texts that are covered anyway only the others matter. -/
theorem coveredBy_iff (h : ∀ text, text ∈ texts → text ∈ others ∨ text ∈ rest)
    (hrest : ∀ text ∈ rest, text ∈ texts) : CoveredBy texts others ↔ CoveredBy rest others := by
  constructor
  · intro hcovered s hs
    obtain ⟨hmem, hstable⟩ := mem_stable.1 hs
    exact hcovered s (mem_stable.2 ⟨hrest _ hmem, hstable⟩)
  · intro hcovered s hs
    obtain ⟨hmem, hstable⟩ := mem_stable.1 hs
    rcases h _ hmem with hother | hmem
    · exact ⟨s, mem_stable.2 ⟨hother, hstable⟩, ReflCmp.isLE_rfl⟩
    · exact hcovered s (mem_stable.2 ⟨hmem, hstable⟩)

end ReleaseVersion

theorem coveredBy_found {α : Type} {f g : α → Option String} {l : List α}
    (h : ∀ a ∈ l, ∀ b c, f a = some b → g a = some c → b = c) :
    CoveredBy (l.filterMap f) (l.filterMap g) ↔
      CoveredBy (foundOnlyBy f g l) (l.filterMap g) := by
  refine coveredBy_iff (fun text htext => ?_) fun text htext => ?_
  · rw [(perm_found f g l).mem_iff, foundByBoth_comm h, List.mem_append] at htext
    refine htext.imp_left fun hboth => ?_
    rw [(perm_found g f l).mem_iff]
    exact List.mem_append_left _ hboth
  · rw [(perm_found f g l).mem_iff]
    exact List.mem_append_right _ htext

/-! ### Files and releases -/

namespace RegistryFile

variable {file : RegistryFile} {connector : Identity} {version : String}

/-- The version that the declared latest version of a connector is checked against because of a
file. -/
def checkedVersion? (connector : Identity) (file : RegistryFile) : Option String :=
  if file.isPackaging && file.releaseOwner? == some connector then some file.directory else none

/-- The version of a connector's release that a file is recognized as. -/
def recognizedVersion? (connector : Identity) (file : RegistryFile) : Option String :=
  match releaseAt? file with
  | .ok (some added) => if added.id.connector = connector then some added.id.version else none
  | _ => none

theorem checkedVersion?_eq_some : file.checkedVersion? connector = some version ↔
    ∃ folder, file.names = [connector.ns, connector.name, folder, version, packagingFile] := by
  rw [checkedVersion?, Option.ite_none_right_eq_some, Bool.and_eq_true, isPackaging, beq_iff_eq,
    beq_iff_eq, Option.some_inj, releaseOwner?, name, directory]
  constructor
  · rintro ⟨⟨hname, howner⟩, rfl⟩
    split at howner
    · rename_i ns name folder version last hnames
      cases howner
      rw [hnames] at hname ⊢
      cases hname
      exact ⟨folder, rfl⟩
    · cases howner
  · rintro ⟨folder, hnames⟩
    rw [hnames]
    exact ⟨⟨rfl, rfl⟩, rfl⟩

theorem recognizedVersion?_eq_some :
    file.recognizedVersion? connector = some version ↔ file.Describes ⟨connector, version⟩ := by
  unfold recognizedVersion?
  constructor
  · intro h
    split at h
    · rename_i added hadded
      split at h
      · rename_i hconnector
        cases h
        exact hconnector ▸ (releaseAt?_eq_some.1 hadded).1
      · cases h
    · cases h
  · intro h
    have hadded : releaseAt? file =
        .ok (some ⟨⟨connector, version⟩, packagingPath ⟨connector, version⟩⟩) :=
      releaseAt?_eq_some.2 ⟨h, rfl⟩
    rw [hadded]
    exact if_pos rfl

/-- Backslashes make up more segments than there are names. -/
theorem not_mem_of_length_segments (hplain : ∀ name ∈ file.names, Path.isPlainName name = true)
    (h : (segments (slashed file.path)).length = file.names.length + 1) :
    ∀ name ∈ file.names, '\\' ∉ name.toList := by
  have hsegments : segments file.path = RegistryTree.folder :: file.names :=
    Path.segments_of_isPlainName (List.cons_ne_nil _ _) (List.forall_mem_cons.2 ⟨by decide, hplain⟩)
  have hslashes := length_segments file.path
  rw [hsegments, List.length_cons] at hslashes
  rw [length_segments, count_slashed] at h
  have hnone : '\\' ∉ file.path.toList := List.count_eq_zero.1 (by omega)
  intro name hname hmem
  exact hnone (mem_of_mem_segments (hsegments ▸ List.mem_cons_of_mem _ hname) hmem)

/-- A file that is checked and recognized holds the same version either way. -/
theorem eq_of_checked_of_recognized {version' : String}
    (hplain : ∀ name ∈ file.names, Path.isPlainName name = true)
    (h : file.checkedVersion? connector = some version)
    (h' : file.recognizedVersion? connector = some version') : version = version' := by
  obtain ⟨folder, hnames⟩ := checkedVersion?_eq_some.1 h
  have hdescribes := recognizedVersion?_eq_some.1 h'
  have hlength : (segments (slashed file.path)).length = file.names.length + 1 := by
    rw [hdescribes.spells.segments_eq, hnames]
    rfl
  obtain ⟨hnames', -⟩ := (spells_iff hplain (not_mem_of_length_segments hplain hlength)).1
    hdescribes.spells
  cases hnames.symm.trans hnames'
  rfl

/-- Where names hold no backslashes, a file is recognized if it stands in a directory of releases. -/
theorem recognizedVersion?_iff (hplain : ∀ name ∈ file.names, Path.isPlainName name = true)
    (hslash : ∀ name ∈ file.names, '\\' ∉ name.toList) (halias : aliasDir ∉ file.names) :
    file.recognizedVersion? connector = some version ↔
      file.names = [connector.ns, connector.name, "releases", version, packagingFile] := by
  rw [recognizedVersion?_eq_some]
  constructor
  · rintro ⟨-, hspells⟩
    exact ((spells_iff hplain hslash).1 hspells).1
  · intro hnames
    refine ⟨?_, (spells_iff hplain hslash).2 ⟨hnames, halias⟩⟩
    rw [name, hnames]
    rfl

end RegistryFile

theorem RegistryTree.recognizedVersion?_iff {tree : FileTree} (htree : tree.WellFormed)
    (hslash : tree.AvoidsBackslashes) {repo : String} {files : List RegistryFile}
    (hfiles : RegistryTree.files tree repo = .ok files) {file : RegistryFile} (hfile : file ∈ files)
    {connector : Identity} {version : String} : file.recognizedVersion? connector = some version ↔
      file.names = [connector.ns, connector.name, "releases", version, packagingFile] := by
  obtain ⟨names, -, hmem, halias⟩ := (RegistryTree.mem_files hfiles).1 hfile
  refine RegistryFile.recognizedVersion?_iff
    (fun name => isPlainName_of_mem_files htree hfiles hfile) (fun name hname => ?_) halias
  exact hslash _ (FileTree.mem_below.1 hmem).2 name (List.mem_append_right _ hname)

theorem releaseDirectories_eq (files : List RegistryFile) (connector : Identity) :
    releaseDirectories files connector = files.filterMap (·.checkedVersion? connector) := by
  rw [releaseDirectories, ← List.filterMap_eq_map, List.filterMap_filter]
  rfl

/-! ### The latest version -/

/-- **What a declared latest version is checked against, and what else counts as a release.**  The
verdict on a connector's latest version depends on the versions that are `checked`.  These are, up to
order, the versions of the files that are `recognized` as its releases exactly if the `strays`, which
are only checked, and the `hidden` ones, which are only recognized, come to the same versions.  The
verdicts that they give agree on every declaration exactly if the strays are covered by recognized
releases and the hidden ones by checked ones.  Where names hold no backslashes, nothing is hidden, and
the strays are those whose directory does not stand in one called `releases`. -/
theorem latest_verdict {tree : FileTree} (htree : tree.WellFormed) {repo : String}
    {files : List RegistryFile} (hfiles : RegistryTree.files tree repo = .ok files)
    (connector : Identity) :
    let checked := releaseDirectories files connector
    let recognized := files.filterMap (·.recognizedVersion? connector)
    let strays := foundOnlyBy (·.checkedVersion? connector) (·.recognizedVersion? connector) files
    let hidden := foundOnlyBy (·.recognizedVersion? connector) (·.checkedVersion? connector) files
    (∀ file ∈ files, file.isMetadata = true → file.connector? = some connector →
      latestIssue? repo files file = (file.metadata repo).toOption.bind fun metadata =>
        (latestFinding? metadata.overview.latestVersion checked).map (Issue.mk file.path)) ∧
    (checked.Perm recognized ↔ strays.Perm hidden) ∧
    ((∀ declared, latestFinding? declared checked = none ↔
        latestFinding? declared recognized = none) ↔
      CoveredBy strays recognized ∧ CoveredBy hidden checked) ∧
    (tree.AvoidsBackslashes → hidden = [] ∧ recognized.Sublist checked ∧
      ∀ version, version ∈ strays ↔ ∃ file ∈ files, ∃ folder, folder ≠ "releases" ∧
        file.names = [connector.ns, connector.name, folder, version, packagingFile]) := by
  intro checked recognized strays hidden
  have hchecked : checked = files.filterMap (·.checkedVersion? connector) :=
    releaseDirectories_eq files connector
  have hplain : ∀ file ∈ files, ∀ name ∈ file.names, Path.isPlainName name = true :=
    fun file hfile name => RegistryTree.isPlainName_of_mem_files htree hfiles hfile
  have hsame : ∀ file ∈ files, ∀ version version', file.checkedVersion? connector = some version →
      file.recognizedVersion? connector = some version' → version = version' :=
    fun file hfile _ _ => RegistryFile.eq_of_checked_of_recognized (hplain file hfile)
  have hsame' : ∀ file ∈ files, ∀ version version',
      file.recognizedVersion? connector = some version →
      file.checkedVersion? connector = some version' → version = version' :=
    fun file hfile _ _ h h' => (hsame file hfile _ _ h' h).symm
  refine ⟨fun file _ hmetadata hconnector => ?_, ?_, ?_, fun hslash => ?_⟩
  · unfold latestIssue?
    rw [if_pos hmetadata, hconnector]
    cases (file.metadata repo).toOption with
    | none => rfl
    | some metadata =>
      cases h : latestFinding? metadata.overview.latestVersion checked <;> simp [h, checked]
  · rw [hchecked]
    exact found_perm_iff hsame
  · rw [accepts_same_iff, hchecked]
    exact and_congr (coveredBy_found hsame) (coveredBy_found hsame')
  · have hrecognized : ∀ file ∈ files, ∀ version,
        file.recognizedVersion? connector = some version ↔
          file.names = [connector.ns, connector.name, "releases", version, packagingFile] :=
      fun _ hfile _ => RegistryTree.recognizedVersion?_iff htree hslash hfiles hfile
    -- What is recognized stands where it is checked.
    have hpart : ∀ file ∈ files, ∀ version, file.recognizedVersion? connector = some version →
        file.checkedVersion? connector = some version := fun file hfile version h =>
      RegistryFile.checkedVersion?_eq_some.2 ⟨"releases", (hrecognized file hfile version).1 h⟩
    refine ⟨foundOnlyBy_eq_nil hpart, hchecked ▸ sublist_found hpart, fun version => ?_⟩
    rw [mem_foundOnlyBy]
    refine exists_congr fun file => and_congr_right fun hfile => ?_
    rw [RegistryFile.checkedVersion?_eq_some, ← exists_and_right]
    refine exists_congr fun folder => ?_
    constructor
    · rintro ⟨hnames, hnone⟩
      refine ⟨?_, hnames⟩
      rintro rfl
      cases hnone.symm.trans ((hrecognized file hfile version).2 hnames)
    · rintro ⟨hne, hnames⟩
      refine ⟨hnames, Option.eq_none_iff_forall_ne_some.2 fun other hother => ?_⟩
      cases hnames.symm.trans ((hrecognized file hfile other).1 hother)
      exact hne rfl

section

/-- A tree in which the one release of a connector is its latest version, beside a draft of the next
one. -/
def draftedRelease : FileTree :=
  (FileTree.empty.write ["repo", "registry", "acme", "db", "metadata.json"]
    (utf8 "\x7b\"overview\": \x7b\"latest_version\": \"v1.0.0\"\x7d\x7d"))
    |>.write ["repo", "registry", "acme", "db", "releases", "v1.0.0", "connector-packaging.json"]
      (utf8 "\x7b\"version\": \"v1.0.0\", \"uri\": \"u\"\x7d")
    |>.write ["repo", "registry", "acme", "db", "drafts", "v2.0.0", "connector-packaging.json"]
      (utf8 "\x7b\"version\": \"v2.0.0\", \"uri\": \"u\"\x7d")

/-- The files of this tree. -/
def draftedFiles : List RegistryFile :=
  (draftedRelease.below ["repo", "registry"]).filterMap RegistryTree.file?

/-- The draft is no release, but the latest version is judged by it. -/
theorem draftedRelease_judged : draftedRelease.WellFormed ∧ draftedRelease.AvoidsBackslashes ∧
    RegistryTree.files draftedRelease "repo" = .ok draftedFiles ∧
    let checked := releaseDirectories draftedFiles ⟨"acme", "db"⟩
    let recognized := draftedFiles.filterMap (·.recognizedVersion? ⟨"acme", "db"⟩)
    recognized = ["v1.0.0"] ∧ ¬checked.Perm recognized ∧
      ¬∀ declared, latestFinding? declared checked = none ↔
        latestFinding? declared recognized = none := by
  have htree : draftedRelease.WellFormed := by decide +kernel
  have hslash : draftedRelease.AvoidsBackslashes := by decide +kernel
  have hfiles : RegistryTree.files draftedRelease "repo" = .ok draftedFiles :=
    Except.toOption_eq_some.1 (by decide +kernel)
  have hrecognized : draftedFiles.filterMap (·.recognizedVersion? ⟨"acme", "db"⟩) = ["v1.0.0"] := by
    decide +kernel
  have hstrays : foundOnlyBy (·.checkedVersion? ⟨"acme", "db"⟩)
      (·.recognizedVersion? ⟨"acme", "db"⟩) draftedFiles = ["v2.0.0"] := by decide +kernel
  obtain ⟨-, hperm, haccepts, hplain⟩ := latest_verdict htree hfiles ⟨"acme", "db"⟩
  obtain ⟨hhidden, -, -⟩ := hplain hslash
  refine ⟨htree, hslash, hfiles, hrecognized, fun h => ?_, fun h => ?_⟩
  · have hsame := hperm.1 h
    rw [hhidden, hstrays] at hsame
    exact absurd hsame.length_eq (by decide)
  · have hcovered := (haccepts.1 h).1
    rw [hrecognized, hstrays] at hcovered
    exact absurd hcovered (by decide +kernel)

end

end ConnectorCatalog
