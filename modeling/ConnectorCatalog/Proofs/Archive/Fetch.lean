import ConnectorCatalog.Archive.Fetch
import ConnectorCatalog.Proofs.Files.Path
import ConnectorCatalog.Proofs.Identity

/-!
# Where releases are unpacked

A release has a directory of its own exactly if its parts are plain names
(`exists_extractionDir_iff`).  The directory is read as the scratch directory followed by the parts
(`components_extractionDir`), so different releases have directories side by side
(`not_prefix_extractionDir`).

A release without such a directory is not fetched (`fetchRelease_of_refused`).
-/

namespace ConnectorCatalog

namespace Archive

open Http ConnectorCatalog.Path Text

variable {scratch dir dir' : String} {r s : ReleaseId}

theorem parts_ne_nil (r : ReleaseId) : parts r ≠ [] := List.cons_ne_nil _ _

theorem extractionDir_eq_ok_iff : extractionDir scratch r = .ok dir ↔
    (∀ part ∈ parts r, isPlainName part = true) ∧
      dir = within scratch ++ joinTexts "/" (parts r) := by
  have hnone : (parts r).find? (!isPlainName ·) = none ↔
      ∀ part ∈ parts r, isPlainName part = true := by
    simp [List.find?_eq_none]
  unfold extractionDir
  cases hfind : (parts r).find? (!isPlainName ·) with
  | none =>
    have hplain := hnone.1 hfind
    simp only [Except.ok.injEq, foldl_append_isPlainName (parts_ne_nil r) hplain]
    rw [and_iff_right hplain, eq_comm]
  | some part =>
    refine iff_of_false nofun fun h => ?_
    rw [hnone.2 h.1] at hfind
    cases hfind

/-- **A release has a directory of its own exactly if its parts are plain names.** -/
theorem exists_extractionDir_iff : (∃ dir, extractionDir scratch r = .ok dir) ↔
    ∀ part ∈ parts r, part ≠ "" ∧ IsSegment part ∧ part ≠ "." ∧ part ≠ ".." := by
  simp only [extractionDir_eq_ok_iff, isPlainName_iff, exists_and_left, exists_eq, and_true]

-- A slash at the end of a part, which a reader of paths would pass over, is refused.
example : extractionDir "scratch" ⟨⟨"acme", "db/"⟩, "v1"⟩ =
    .error (.notPlain ⟨⟨"acme", "db/"⟩, "v1"⟩ "db/") := rfl

/-- The directory of a release is the scratch directory followed by the parts of the release. -/
theorem components_extractionDir (h : extractionDir scratch r = .ok dir) :
    components dir = components scratch ++ parts r := by
  obtain ⟨hplain, rfl⟩ := extractionDir_eq_ok_iff.1 h
  rw [← foldl_append_isPlainName (parts_ne_nil r) hplain, components_foldl_append hplain]

theorem isPlain_of_extractionDir (h : extractionDir scratch r = .ok dir) : r.IsPlain := by
  have hall := exists_extractionDir_iff.1 ⟨dir, h⟩
  exact ⟨(hall _ (by simp [parts])).2.1, (hall _ (by simp [parts])).2.1,
    (hall _ (by simp [parts])).2.1⟩

theorem parts_injective (h : parts r = parts s) : r = s := by
  obtain ⟨⟨ns, name⟩, version⟩ := r
  obtain ⟨⟨ns', name'⟩, version'⟩ := s
  simp only [parts, List.cons.injEq] at h
  obtain ⟨rfl, rfl, rfl, -⟩ := h
  rfl

/-- **The directories of different releases lie side by side.** -/
theorem not_prefix_extractionDir (hr : extractionDir scratch r = .ok dir)
    (hs : extractionDir scratch s = .ok dir') (hne : r ≠ s) :
    ¬components dir <+: components dir' := by
  rw [components_extractionDir hr, components_extractionDir hs, List.prefix_append_right_inj]
  -- Both have three parts, so one is in front of the other only if they agree.
  exact fun hfront => hne (parts_injective (hfront.eq_of_length rfl))

variable {τ : Type}

/-- **A release without a directory of its own is not fetched.** -/
theorem fetchRelease_of_refused {fault : ExtractionFault}
    (h : extractionDir scratch r = .error fault) (network : Network τ) (uri : String)
    (machine : Machine τ) :
    fetchRelease network scratch uri r machine = (.error [fault.message], machine) := by
  rw [fetchRelease, h]
  rfl

end Archive

end ConnectorCatalog
