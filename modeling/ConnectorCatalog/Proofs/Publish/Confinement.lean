import ConnectorCatalog.Proofs.Archive.Fetch
import ConnectorCatalog.Proofs.Publish.Footprint

/-!
# Runs stay in their places

The paths of a diff are arbitrary texts.  Even so a run opens nothing but the items of the
connectors that its diff changes, and every release has a package and a directory that no other
release reaches into (`publish_confined`).
-/

namespace ConnectorCatalog

open Archive Http ConnectorCatalog.Path Text

variable {σ : Type}

/-- The parts of a placed release are plain names. -/
theorem Change.Placed.isPlainName_parts {c : Change} (h : c.Placed) {r : ReleaseId}
    (hr : c.release? = some r) : ∀ part ∈ parts r, Path.isPlainName part = true := by
  obtain ⟨hkind, hconnector⟩ := Change.release?_eq_some hr
  have hmem := h.isPlainName_of_mem_items c.kind.item_mem_items
  rw [hkind, hconnector] at hmem
  intro part hpart
  simp only [parts, List.mem_cons, List.not_mem_nil, or_false] at hpart
  rcases hpart with rfl | rfl | rfl <;>
    exact hmem _ (by simp [ChangeKind.item, RegistryItem.segments])

/-- **A run stays in its places.**  Every file that it opens in the registry tree is an item of a
connector that its diff changes, at the end of plain names below the repository.  Every release of
the diff has a directory of its own below `scratch`; such directories are told by the names of the
connector and the version, and different releases have different packages and directories, none
inside another.  A release has such a directory exactly if its parts are plain names; without one
nothing at all is done to fetch it. -/
theorem publish_confined (site : BuildSite σ) (files : ChangedFiles) (world : σ)
    (scratch : String) :
    (∀ path, .opened path ∈ (publish site files (.start world)).2.log →
      ∃ set change item, ChangeSet.ofFiles files = .ok set ∧ change ∈ set.changes ∧
        item ∈ change.kind.items ∧ path = within site.repoRoot ++ item.pathOf change.connector ∧
        ∀ s ∈ segments (item.pathOf change.connector), s ≠ "" ∧ s ≠ "." ∧ s ≠ "..") ∧
    (∀ set, ChangeSet.ofFiles files = .ok set → ∀ change ∈ set.changes, ∀ release,
      change.release? = some release → ∃ dir, extractionDir scratch release = .ok dir) ∧
    (∀ release dir, extractionDir scratch release = .ok dir →
      dir = within scratch ++ release.connector.ns ++ "/" ++ release.connector.name ++ "/" ++
        release.version ∧
      components dir = components scratch ++
        [release.connector.ns, release.connector.name, release.version]) ∧
    (∀ release release' dir dir', extractionDir scratch release = .ok dir →
      extractionDir scratch release' = .ok dir' → release ≠ release' →
      release.packageKey ≠ release'.packageKey ∧ dir ≠ dir' ∧
        ¬components dir <+: components dir' ∧ ¬components dir' <+: components dir) ∧
    (∀ release, (∃ dir, extractionDir scratch release = .ok dir) ↔
      ∀ part ∈ [release.connector.ns, release.connector.name, release.version],
        part ≠ "" ∧ '/' ∉ part.toList ∧ part ≠ "." ∧ part ≠ "..") ∧
    ∀ release fault, extractionDir scratch release = .error fault →
      ∀ {τ : Type} (network : Network τ) (uri : String) (machine : Machine τ),
        fetchRelease network scratch uri release machine = (.error [fault.message], machine) := by
  refine ⟨?_, ?_, ?_, ?_, fun _ => exists_extractionDir_iff,
    fun release fault h _ network uri machine => fetchRelease_of_refused h network uri machine⟩
  · intro path hpath
    obtain ⟨actions, hlog, -, htrace⟩ := site.publish_trace files (.start world)
    rw [hlog, Journal.start, List.nil_append] at hpath
    obtain ⟨set, hset, change, hchange, hmem⟩ := htrace.opened hpath
    obtain ⟨item, hitem, rfl⟩ := List.mem_map.1 hmem
    have hplain := (ChangeSet.placed_of_ofFiles hset hchange).isPlainName_of_mem_items hitem
    refine ⟨set, change, item, hset, hchange, hitem, rfl, fun s hs => ?_⟩
    rw [RegistryItem.pathOf, segments_joinTexts (List.cons_ne_nil _ _)
      fun s hs => (isPlainName_iff.1 (hplain s hs)).2.1] at hs
    obtain ⟨hempty, -, hdot, hclimb⟩ := isPlainName_iff.1 (hplain s hs)
    exact ⟨hempty, hdot, hclimb⟩
  · intro set hset change hchange release hrelease
    have hparts := (ChangeSet.placed_of_ofFiles hset hchange).isPlainName_parts hrelease
    exact ⟨_, extractionDir_eq_ok_iff.2 ⟨hparts, rfl⟩⟩
  · intro release dir h
    refine ⟨?_, components_extractionDir h⟩
    rw [(extractionDir_eq_ok_iff.1 h).2]
    simp only [parts, joinTexts, String.append_assoc]
  · intro release release' dir dir' h h' hne
    have hapart := not_prefix_extractionDir h h' hne
    refine ⟨fun hkey => hne ?_, fun hdir => hapart ?_, hapart,
      not_prefix_extractionDir h' h hne.symm⟩
    · exact ReleaseId.packageKey_injective (isPlain_of_extractionDir h) (isPlain_of_extractionDir h')
        hkey
    · exact hdir ▸ List.prefix_rfl

end ConnectorCatalog
