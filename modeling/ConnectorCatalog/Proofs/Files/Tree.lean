import Mathlib.Data.List.Induction
import ConnectorCatalog.Files.Path
import ConnectorCatalog.Files.Tree
import ConnectorCatalog.Proofs.Keyed
import ConnectorCatalog.Proofs.Text.Order

/-!
# Trees that are well formed

A well-formed tree lists each path once and in the order of a walk, names everything plainly and has
a directory above everything.  What stands at a path is then what the list says
(`WellFormed.entry?_eq_some`), and a walk from any directory keeps the order
(`WellFormed.sorted_below`).
-/

namespace ConnectorCatalog

open Std Text

namespace Text

theorem compareNames_append (names a b : List String) :
    compareNames (names ++ a) (names ++ b) = compareNames a b := by
  induction names with
  | nil => rfl
  | cons name rest ih =>
    have hself : compareTexts name name = .eq := ReflCmp.compare_self
    rw [compareNames, List.cons_append, List.cons_append, compareLists, hself, Ordering.eq_then]
    exact ih

theorem compareNames_singleton (a b : String) : compareNames [a] [b] = compareTexts a b := by
  rw [compareNames, compareLists, compareLists]
  cases compareTexts a b <;> rfl

end Text

namespace FileTree

/-- Entries by their paths. -/
def compareEntries (a b : List String × FileEntry) : Ordering := compareNames a.1 b.1

/-- A tree as it stands on a disk. -/
structure WellFormed (tree : FileTree) : Prop where
  /-- Each path is listed once, in the order of a walk. -/
  sorted : Keyed.Sorted compareEntries tree.entries
  /-- The names on a path are plain. -/
  plain : ∀ e ∈ tree.entries, e.1 ≠ [] ∧ ∀ name ∈ e.1, Path.isPlainName name = true
  /-- Everything stands in a directory. -/
  parents : ∀ e ∈ tree.entries, tree.entry? e.1.dropLast = some .dir

variable {tree : FileTree} {names rest : List String} {entry : FileEntry}

instance : Decidable tree.WellFormed :=
  have : Decidable (Keyed.Sorted compareEntries tree.entries) :=
    inferInstanceAs (Decidable (List.Pairwise _ _))
  decidable_of_iff (Keyed.Sorted compareEntries tree.entries ∧
      (∀ e ∈ tree.entries, e.1 ≠ [] ∧ ∀ name ∈ e.1, Path.isPlainName name = true) ∧
      ∀ e ∈ tree.entries, tree.entry? e.1.dropLast = some .dir)
    ⟨fun ⟨hsorted, hplain, hparents⟩ => ⟨hsorted, hplain, hparents⟩,
      fun h => ⟨h.sorted, h.plain, h.parents⟩⟩

/-- **What stands at a path is what is listed there.** -/
theorem WellFormed.entry?_eq_some (h : tree.WellFormed) (hne : names ≠ []) :
    tree.entry? names = some entry ↔ (names, entry) ∈ tree.entries := by
  unfold entry?
  rw [if_neg hne, List.lookup_eq_some_iff]
  constructor
  · rintro ⟨before, after, hsplit, -⟩
    rw [hsplit]
    exact List.mem_append_right _ List.mem_cons_self
  · intro hmem
    obtain ⟨before, after, hsplit⟩ := List.append_of_mem hmem
    refine ⟨before, after, hsplit, fun e he => ?_⟩
    -- Whatever is listed before stands at a lesser path.
    have hlt : compareNames e.1 names = .lt := by
      have hsorted := h.sorted
      rw [hsplit, Keyed.Sorted, List.pairwise_append] at hsorted
      exact hsorted.2.2 e he _ List.mem_cons_self
    rw [bne_iff_ne]
    rintro rfl
    have hself : compareNames e.1 e.1 = .eq := ReflCmp.compare_self
    rw [hself] at hlt
    cases hlt

/-- Above whatever stands in a tree are directories. -/
theorem WellFormed.entry?_eq_dir (h : tree.WellFormed) (hmem : (names ++ rest, entry) ∈ tree.entries)
    (hne : rest ≠ []) : tree.entry? names = some .dir := by
  induction rest using List.reverseRecOn generalizing entry with
  | nil => exact absurd rfl hne
  | append_singleton rest name ih =>
    have hparent := h.parents _ hmem
    rw [← List.append_assoc, List.dropLast_concat] at hparent
    cases rest with
    | nil => rwa [List.append_nil] at hparent
    | cons first rest =>
      exact ih ((h.entry?_eq_some (by simp)).1 hparent) (List.cons_ne_nil first rest)

/-! ### Walks -/

theorem mem_below : (rest, entry) ∈ tree.below names ↔
    rest ≠ [] ∧ (names ++ rest, entry) ∈ tree.entries := by
  rw [below, List.mem_filterMap]
  constructor
  · rintro ⟨⟨path, other⟩, hmem, hstep⟩
    dsimp only at hstep
    split at hstep
    · cases hstep
    · rename_i hnil hfront
      cases hstep
      refine ⟨hnil, ?_⟩
      rwa [List.isPrefixOf?_eq_some_iff_append_eq.1 hfront]
    · cases hstep
  · rintro ⟨hne, hmem⟩
    obtain ⟨name, more, rfl⟩ := List.exists_cons_of_ne_nil hne
    have hfront : names.isPrefixOf? (names ++ name :: more) = some (name :: more) :=
      List.isPrefixOf?_eq_some_iff_append_eq.2 rfl
    exact ⟨_, hmem, by simp only [hfront]⟩

/-- A walk passes over entries and shortens paths, it moves nothing. -/
theorem below_sublist (tree : FileTree) (names : List String) :
    ((tree.below names).map fun e => (names ++ e.1, e.2)).Sublist tree.entries := by
  rw [below]
  induction tree.entries with
  | nil => exact .slnil
  | cons e entries ih =>
    obtain ⟨path, entry⟩ := e
    rw [List.filterMap_cons]
    split
    · exact ih.cons _
    · rename_i found hstep
      dsimp only at hstep
      split at hstep
      · cases hstep
      · rename_i hfront
        cases hstep
        rw [List.map_cons, List.isPrefixOf?_eq_some_iff_append_eq.1 hfront]
        exact ih.cons_cons _
      · cases hstep

theorem WellFormed.sorted_below (h : tree.WellFormed) (names : List String) :
    Keyed.Sorted compareEntries (tree.below names) := by
  have hpaths := h.sorted.sublist (below_sublist tree names)
  rw [List.pairwise_map] at hpaths
  refine hpaths.imp fun {a b} hab => ?_
  rwa [compareEntries, compareNames_append] at hab

theorem WellFormed.isPlainName (h : tree.WellFormed) (hmem : (rest, entry) ∈ tree.below names)
    {name : String} (hname : name ∈ rest) : Path.isPlainName name = true :=
  (h.plain _ (mem_below.1 hmem).2).2 name (List.mem_append_right _ hname)

end FileTree

end ConnectorCatalog
