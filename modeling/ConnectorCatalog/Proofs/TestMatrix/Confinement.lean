import ConnectorCatalog.Proofs.Files.Clean
import ConnectorCatalog.Proofs.TestMatrix.Targets

/-!
# Test configs stay in the repository, up to backslashes

The path of a test config is cleaned, so that it consists of plain names, and only then its backslashes
are turned into slashes.  **It stays in the repository's directory exactly if no name comes apart at its
backslashes into a piece that is no name** (`testConfig_isConfined_iff`); a path that is written without
backslashes always stays there.
-/

namespace ConnectorCatalog

open Text

variable {tree : FileTree} {repo : String} {t : TestTarget}

/-- A target of one of the selections. -/
inductive IsSelected (tree : FileTree) (repo : String) (t : TestTarget) : Prop where
  | changed {files : ChangedFiles} {targets : List TestTarget} :
    changedTargets tree repo files = .ok targets → t ∈ targets → IsSelected tree repo t
  | all {targets : List TestTarget} :
    allTargets tree repo = .ok targets → t ∈ targets → IsSelected tree repo t
  | latest {targets : List TestTarget} :
    latestTargets tree repo = .ok targets → t ∈ targets → IsSelected tree repo t

theorem IsSelected.targetFor? (h : IsSelected tree repo t) :
    targetFor? tree repo t.release (packagingPath t.release) = .ok (some t) := by
  cases h with
  | changed htargets hmem => exact ((mem_changedTargets htargets).1 hmem).2
  | all htargets hmem => exact ((mem_allTargets htargets).1 hmem).2
  | latest htargets hmem => exact ((mem_latestTargets htargets).1 hmem).2.2.2.2

/-- Plain names with their backslashes as slashes make up a confined path exactly if none of them comes
apart into a detour. -/
theorem isConfined_slashed {names : List String}
    (h : ∀ name ∈ names, Path.isPlainName name = true) :
    Path.IsConfined (slashed (joinTexts "/" names)) ↔
      ∀ name ∈ names, ∀ part ∈ segments (slashed name), ¬Path.IsDetour part := by
  cases names with
  | nil => exact iff_of_true (by decide) nofun
  | cons name rest =>
    -- The path is not empty, since its first name is not.
    have hne : slashed (joinTexts "/" (name :: rest)) ≠ "" := by
      intro hempty
      have hjoined : joinTexts "/" (name :: rest) = "" := by
        apply String.toList_injective
        simpa [toList_slashed] using congrArg String.toList hempty
      have hsegments := Path.segments_of_isPlainName (List.cons_ne_nil name rest) h
      rw [hjoined] at hsegments
      exact Path.ne_empty_of_isPlainName (h name List.mem_cons_self)
        (List.cons.inj hsegments).1.symm
    rw [Path.isConfined_iff hne, slashed_joinTexts, segments_joinTexts_eq (by simp)]
    simp only [List.forall_mem_flatMap, List.forall_mem_map]

/-- **Where the test config of a target is.**  The path that its packaging file names, from the
directory of that file, comes to plain names, and the target has these names with backslashes as
slashes.  It stays in the repository's directory exactly if none of the names comes apart at its
backslashes into a detour; so it does if neither the path that is named nor that of the packaging file
holds a backslash. -/
theorem testConfig_isConfined_iff (h : IsSelected tree repo t) :
    ∃ descriptor names,
      PackagingDescriptor.load tree (Path.append repo (packagingPath t.release)) = .ok descriptor ∧
      descriptor.testConfig ≠ "" ∧
      Path.clean (Path.append (Path.parent (packagingPath t.release)) descriptor.testConfig) =
        .ok names ∧
      (∀ name ∈ names, Path.isPlainName name = true) ∧
      t.testConfig = slashed (joinTexts "/" names) ∧
      (Path.IsConfined t.testConfig ↔
        ∀ name ∈ names, ∀ part ∈ segments (slashed name), ¬Path.IsDetour part) ∧
      ('\\' ∉ descriptor.testConfig.toList → '\\' ∉ (packagingPath t.release).toList →
        Path.IsConfined t.testConfig) := by
  obtain ⟨-, descriptor, testConfig, hload, hpath, hconfig⟩ := targetFor?_eq_some.1 h.targetFor?
  obtain ⟨hnamed, rfl⟩ : descriptor.testConfig ≠ "" ∧
      Path.append (Path.parent (packagingPath t.release)) descriptor.testConfig = testConfig := by
    unfold PackagingDescriptor.testConfigPath? at hpath
    split at hpath
    · cases hpath
    · rename_i hne
      exact ⟨hne, Option.some.inj hpath⟩
  obtain ⟨names, hclean, hslashed⟩ : ∃ names, Path.clean
      (Path.append (Path.parent (packagingPath t.release)) descriptor.testConfig) = .ok names ∧
      t.testConfig = slashed (joinTexts "/" names) := by
    unfold testConfigOf at hconfig
    split at hconfig
    · rename_i names hclean
      exact ⟨names, hclean, (Except.ok.inj hconfig).symm⟩
    · cases hconfig
  have hplain : ∀ name ∈ names, Path.isPlainName name = true := fun name =>
    Path.isPlainName_of_clean hclean
  have hconfined := isConfined_slashed hplain
  rw [← hslashed] at hconfined
  refine ⟨descriptor, names, hload, hnamed, hclean, hplain, hslashed, hconfined,
    fun hconfig hpackaging => hconfined.2 fun name hname part hpart => ?_⟩
  -- A name holds no character that the path does not hold, so it does not come apart.
  have hpath : '\\' ∉ (Path.append (Path.parent (packagingPath t.release))
      descriptor.testConfig).toList := by
    intro hmem
    rcases Path.mem_append hmem with hslash | hdir | hpath
    · cases hslash
    · rcases Path.mem_parent hdir with hslash | hmem
      · cases hslash
      · exact hpackaging hmem
    · exact hconfig hpath
  have hslash : '\\' ∉ name.toList := fun hmem =>
    hpath (mem_of_mem_segments (Path.mem_of_clean hclean hname).1 hmem)
  rw [slashed_of_not_mem hslash,
    segments_of_isSegment (Path.isSegment_of_isPlainName (hplain name hname))] at hpart
  rw [List.mem_singleton.1 hpart]
  exact Path.not_isDetour_of_isPlainName (hplain name hname)

section

/-- A tree with one release, whose test config is named with backslashes. -/
def backslashedConfig : FileTree := FileTree.empty.write
  ["repo", "registry", "acme", "db", "releases", "v1.0.0", "connector-packaging.json"]
  (utf8 "\x7b\"test\": \x7b\"test_config_path\": \"..\\\\..\\\\..\\\\..\\\\..\\\\..\\\\etc\\\\passwd\"\x7d\x7d")

/-- The test config that is selected lies above the repository's directory, although it comes to
plain names: one of them comes apart into detours. -/
theorem backslashedConfig_leaves : ∃ t names, IsSelected backslashedConfig "repo" t ∧
    t.testConfig = "registry/acme/db/releases/v1.0.0/../../../../../../etc/passwd" ∧
    ¬Path.IsConfined t.testConfig ∧ t.testConfig = slashed (joinTexts "/" names) ∧
    (∀ name ∈ names, Path.isPlainName name = true) ∧
    ∃ name ∈ names, ∃ part ∈ segments (slashed name), Path.IsDetour part := by
  have hall : allTargets backslashedConfig "repo" = .ok [⟨⟨⟨"acme", "db"⟩, "v1.0.0"⟩,
      "registry/acme/db/releases/v1.0.0/../../../../../../etc/passwd"⟩] :=
    Except.toOption_eq_some.1 (by decide +kernel)
  have hselected := IsSelected.all hall (List.mem_singleton_self _)
  obtain ⟨-, names, -, -, -, hplain, hslashed, hconfined, -⟩ := testConfig_isConfined_iff hselected
  have hleaves : ¬Path.IsConfined
      "registry/acme/db/releases/v1.0.0/../../../../../../etc/passwd" := by decide +kernel
  refine ⟨_, names, hselected, rfl, hleaves, hslashed, hplain, ?_⟩
  by_contra hnone
  exact hleaves (hconfined.2 fun name hname part hpart hdetour =>
    hnone ⟨name, hname, part, hpart, hdetour⟩)

end

end ConnectorCatalog
