import ConnectorCatalog.Proofs.Aggregation

/-!
# The releases that a diff adds, told without its change set

`addedReleases` sorts the releases among the added paths of a diff and drops repetitions; it does
not look at anything else.  Where the diff has a change set, it finds **the releases of the change
set, with their packaging files and in their order** (`addedReleases_eq`).
-/

namespace ConnectorCatalog

open Keyed Std

/-! ### Dropping repetitions -/

section

variable {α : Type}

theorem mem_dropRepeats [DecidableEq α] {l : List α} {a : α} : a ∈ dropRepeats l ↔ a ∈ l := by
  fun_induction dropRepeats l with
  | case1 b rest ih => simp [ih]
  | case2 b c rest hne ih => simp only [List.mem_cons, ih]
  | case3 l hl => exact Iff.rfl

variable {cmp : α → α → Ordering} [TransCmp cmp] {l : List α}

/-- Without repetitions, a list that does not decrease increases, if no two members share a key. -/
theorem sorted_dropRepeats [DecidableEq α] (h : l.Pairwise fun a b => (cmp a b).isLE = true)
    (hkey : ∀ a ∈ l, ∀ b ∈ l, cmp a b = .eq → a = b) : Sorted cmp (dropRepeats l) := by
  fun_induction dropRepeats l with
  | case1 b rest ih =>
    exact ih h.of_cons fun a ha b hb =>
      hkey a (List.mem_cons_of_mem _ ha) b (List.mem_cons_of_mem _ hb)
  | case2 b c rest hne ih =>
    have ih := ih h.of_cons fun a ha b hb =>
      hkey a (List.mem_cons_of_mem _ ha) b (List.mem_cons_of_mem _ hb)
    obtain ⟨hb, hrest⟩ := List.pairwise_cons.1 h
    refine List.pairwise_cons.2 ⟨fun d hd => ?_, ih⟩
    rw [mem_dropRepeats] at hd
    refine Ordering.isLE_iff_eq_lt_or_eq_eq.1 (hb d hd) |>.resolve_right fun heq => hne ?_
    -- The member behind `b` lies between `b` and `d`, so it shares their key.
    have hcd : (cmp c d).isLE = true := by
      rcases List.mem_cons.1 hd with rfl | hd
      · exact ReflCmp.isLE_rfl
      · exact (List.pairwise_cons.1 hrest).1 d hd
    have hcb : (cmp c b).isLE = true :=
      TransCmp.isLE_trans hcd (by rw [OrientedCmp.eq_symm heq]; rfl)
    exact hkey b List.mem_cons_self c (by simp)
      (OrientedCmp.isLE_antisymm (hb c List.mem_cons_self) hcb)
  | case3 l hl =>
    cases l with
    | nil => exact .nil
    | cons a rest =>
      cases rest with
      | nil => exact List.pairwise_singleton _ _
      | cons b rest => exact (hl a b rest rfl).elim

end

/-! ### Releases and their packaging files -/

/-- The release that a change makes, with its packaging file. -/
def Change.added? (c : Change) : Option AddedRelease := c.release?.map (AddedRelease.mk · c.path)

instance : TransCmp AddedRelease.compare :=
  have := Text.transCmp_on (fun r : AddedRelease => r.id.connector) Identity.compare
  have := Text.transCmp_on (fun r : AddedRelease => r.id.version) ReleaseVersion.compare
  inferInstanceAs (TransCmp (compareLex
    (fun a b : AddedRelease => Identity.compare a.id.connector b.id.connector)
    fun a b => ReleaseVersion.compare a.id.version b.id.version))

theorem AddedRelease.compare_of_connector_eq {a b : AddedRelease}
    (h : a.id.connector = b.id.connector) :
    compare a b = ReleaseVersion.compare a.id.version b.id.version := by
  have hself : Identity.compare b.id.connector b.id.connector = .eq := ReflCmp.compare_self
  rw [compare, h, hself, Ordering.eq_then]

theorem AddedRelease.id_eq_of_compare {a b : AddedRelease} (h : compare a b = .eq) :
    a.id = b.id := by
  obtain ⟨⟨connector, version⟩, path⟩ := a
  obtain ⟨⟨connector', version'⟩, path'⟩ := b
  simp only [compare, Ordering.then_eq_eq, LawfulEqCmp.compare_eq_iff_eq] at h
  rw [h.1, h.2]

theorem addedRelease?_eq (path : String) :
    addedRelease? path = (requested? .added path).bind Change.added? := by
  unfold addedRelease? requested?
  cases classify path .added with
  | error fault => rfl
  | ok change? =>
    cases change? with
    | none => rfl
    | some change =>
      obtain ⟨connector, kind, path⟩ := change
      cases kind <;> rfl

namespace Change

variable {c d : Change} {added : AddedRelease}

theorem added?_eq_some : c.added? = some added ↔
    c.kind = .release added.id.version ∧ c.connector = added.id.connector ∧
      c.path = added.packagingPath := by
  obtain ⟨connector, kind, path⟩ := c
  obtain ⟨⟨connector', version⟩, path'⟩ := added
  cases kind <;> simp [added?, release?, Change.version?, ChangeKind.version?]
  grind

theorem Placed.added_eq (hc : c.Placed) (hd : d.Placed) {added' : AddedRelease}
    (h : c.added? = some added) (h' : d.added? = some added') (hid : added.id = added'.id) :
    added = added' := by
  obtain ⟨hkind, hconnector, hpath⟩ := added?_eq_some.1 h
  obtain ⟨hkind', hconnector', hpath'⟩ := added?_eq_some.1 h'
  have hsame : c.path = d.path := hc.path_eq hd (by rw [hconnector, hconnector', hid])
    (by rw [hkind, hkind', hid])
  obtain ⟨id, path⟩ := added
  obtain ⟨id', path'⟩ := added'
  cases hid
  exact congrArg (AddedRelease.mk id) (hpath.symm.trans (hsame.trans hpath'))

end Change

namespace ChangeSet

variable {set : ChangeSet} {files : ChangedFiles}

/-- The releases of a change set with their packaging files, in the order of reports. -/
def added (set : ChangeSet) : List AddedRelease := set.changes.filterMap Change.added?

theorem map_id_added (set : ChangeSet) :
    set.added.map (·.id) = set.changes.filterMap Change.release? := by
  rw [added, List.map_filterMap]
  congr 1
  funext c
  simp only [Change.added?, Option.map_map]
  exact Option.map_id' 

theorem added_sorted (h : ofFiles files = .ok set) : Sorted AddedRelease.compare set.added := by
  have hsorted := Change.releases_sorted (sorted_of_ofFiles h)
  rw [← map_id_added, Sorted, List.pairwise_map] at hsorted
  exact hsorted

theorem mem_added (h : ofFiles files = .ok set) {added : AddedRelease} :
    added ∈ set.added ↔ ∃ path ∈ files.added, addedRelease? path = some added := by
  simp only [ChangeSet.added, List.mem_filterMap, addedRelease?_eq, Option.bind_eq_some_iff,
    requested?_eq_some]
  constructor
  · rintro ⟨c, hc, hadded⟩
    obtain ⟨path, hpath, hclassify⟩ := asksFor_of_mem h hc
    have horigin : c.kind.origin = .added := by rw [(Change.added?_eq_some.1 hadded).1]; rfl
    rw [horigin] at hpath hclassify
    exact ⟨path, hpath, c, hclassify, hadded⟩
  · rintro ⟨path, hpath, c, hclassify, hadded⟩
    have hkind := (Change.added?_eq_some.1 hadded).1
    have horigin : c.kind.origin = .added := by rw [hkind]; rfl
    have hasks : files.AsksFor c := by
      rw [ChangedFiles.AsksFor, horigin]
      exact ⟨path, hpath, hclassify⟩
    obtain ⟨d, hd, -, rfl | hrivals⟩ := exists_mem_of_asksFor h hasks
    · exact ⟨c, hd, hadded⟩
    · obtain ⟨origin, format, other, hlogo, -⟩ := hrivals.kinds
      rw [hkind] at hlogo
      cases hlogo

end ChangeSet

/-! ### What is found -/

section

variable {files : ChangedFiles} {set : ChangeSet} {added : AddedRelease}

theorem mem_addedReleases :
    added ∈ addedReleases files ↔ ∃ path ∈ files.added, addedRelease? path = some added := by
  rw [addedReleases, mem_dropRepeats, Text.mem_sortBy, List.mem_filterMap]

/-- Paths of one release are spelled in one way only. -/
theorem eq_of_addedRelease? {path path' : String} {added' : AddedRelease}
    (h : addedRelease? path = some added) (h' : addedRelease? path' = some added')
    (hid : added.id = added'.id) : added = added' := by
  rw [addedRelease?_eq, Option.bind_eq_some_iff] at h h'
  obtain ⟨c, hc, hca⟩ := h
  obtain ⟨d, hd, hdb⟩ := h'
  exact (classify_eq_some (requested?_eq_some.1 hc)).2.1.added_eq
    (classify_eq_some (requested?_eq_some.1 hd)).2.1 hca hdb hid

theorem sorted_addedReleases (files : ChangedFiles) :
    Sorted AddedRelease.compare (addedReleases files) := by
  refine sorted_dropRepeats Text.pairwise_sortBy fun a ha b hb heq => ?_
  rw [Text.mem_sortBy, List.mem_filterMap] at ha hb
  obtain ⟨path, -, hpath⟩ := ha
  obtain ⟨path', -, hpath'⟩ := hb
  exact eq_of_addedRelease? hpath hpath' (AddedRelease.id_eq_of_compare heq)

/-- **The releases that a diff adds are those of its change set**, with their packaging files and in
their order. -/
theorem addedReleases_eq (h : ChangeSet.ofFiles files = .ok set) :
    addedReleases files = set.added := by
  refine (sorted_addedReleases files).eq_of_mem_iff (ChangeSet.added_sorted h) fun added => ?_
  rw [ChangeSet.mem_added h, mem_addedReleases]

end

end ConnectorCatalog
