import ConnectorCatalog.Proofs.Files.Access
import ConnectorCatalog.Proofs.PathTable
import ConnectorCatalog.RegistryTree

/-!
# Files of the registry tree

What a walk through the registry tree finds (`RegistryTree.mem_files`), and how the path of a file is
read by its names: a file is recognized by its path in the usual spelling, with backslashes as
slashes, and without backslashes in its names these are the segments (`RegistryFile.spells_iff`).
The directory above the path of a file is the one that holds it (`RegistryFile.parent_foundAt`).
-/

namespace ConnectorCatalog

open Text

/-- No name in the tree holds a backslash. -/
def FileTree.AvoidsBackslashes (tree : FileTree) : Prop :=
  ∀ e ∈ tree.entries, ∀ name ∈ e.1, '\\' ∉ name.toList

instance {tree : FileTree} : Decidable tree.AvoidsBackslashes :=
  inferInstanceAs (Decidable (∀ _ ∈ _, ∀ _ ∈ _, _))

namespace RegistryTree

variable {tree : FileTree} {repo : String} {files : List RegistryFile} {file : RegistryFile}

theorem dirNames?_root {names : List String} (h : find tree repo = .ok names) :
    tree.dirNames? (root repo) = some names := by
  unfold find at h
  split at h
  · rename_i hdir
    cases h
    exact hdir
  · cases h

theorem endsInName_root (repo : String) : Path.EndsInName (root repo) := by
  have hends : Path.EndsInName (Path.append repo folder) := Path.endsInName_append (by decide)
  exact hends

/-- A file of a tree that a walk from the registry directory comes to. -/
def Walked (tree : FileTree) (names : List String) (file : RegistryFile) : Prop :=
  (file.names, .file file.content) ∈ tree.below names ∧ aliasDir ∉ file.names

theorem mem_walk {names : List String} :
    file ∈ (tree.below names).filterMap file? ↔ Walked tree names file := by
  rw [List.mem_filterMap, Walked]
  constructor
  · rintro ⟨⟨path, entry⟩, hmem, hfile⟩
    simp only [file?] at hfile
    split at hfile
    · split at hfile
      · cases hfile
      · rename_i halias
        cases hfile
        exact ⟨hmem, by simpa using halias⟩
    · cases hfile
  · rintro ⟨hmem, halias⟩
    exact ⟨_, hmem, by simp [file?, halias]⟩

/-- A walk finds the files outside of the directories of aliases. -/
theorem mem_files (h : RegistryTree.files tree repo = .ok files) : file ∈ files ↔
    ∃ names, find tree repo = .ok names ∧ (file.names, .file file.content) ∈ tree.below names ∧
      aliasDir ∉ file.names := by
  unfold RegistryTree.files at h
  split at h
  · rename_i names hfind
    cases h
    rw [mem_walk, hfind]
    simp [Walked]
  · cases h

theorem isPlainName_of_mem_files (htree : tree.WellFormed)
    (h : RegistryTree.files tree repo = .ok files) (hfile : file ∈ files) {name : String}
    (hname : name ∈ file.names) : Path.isPlainName name = true := by
  obtain ⟨names, -, hmem, -⟩ := (mem_files h).1 hfile
  exact htree.isPlainName hmem hname

end RegistryTree

namespace RegistryFile

/-- The path of the directory that holds the file. -/
def holder (file : RegistryFile) (repo : String) : String :=
  file.names.dropLast.foldl Path.append (RegistryTree.root repo)

variable {file : RegistryFile} {connector : Identity} {item : RegistryItem}

theorem foundAt_eq (hplain : ∀ name ∈ file.names, Path.isPlainName name = true)
    (hne : file.names ≠ []) (repo : String) :
    file.foundAt repo = Path.within (RegistryTree.root repo) ++ joinTexts "/" file.names := by
  obtain ⟨first, rest, hnames⟩ := List.exists_cons_of_ne_nil hne
  have hfirst := hplain first (hnames ▸ List.mem_cons_self)
  have hrelative : Path.isAbsolute (joinTexts "/" file.names) = false := by
    have hself := Path.segments_of_isPlainName hne hplain
    rw [← Bool.not_eq_true]
    intro habsolute
    rw [Path.segments_of_isAbsolute habsolute, hnames] at hself
    exact Path.ne_empty_of_isPlainName hfirst (List.cons.inj hself).1.symm
  rw [foundAt, Path.append_of_relative hrelative]

theorem foundAt_eq_foldl (hplain : ∀ name ∈ file.names, Path.isPlainName name = true)
    (hne : file.names ≠ []) (repo : String) :
    file.foundAt repo = file.names.foldl Path.append (RegistryTree.root repo) := by
  rw [foundAt_eq hplain hne, Path.foldl_append_isPlainName hne hplain]

theorem parent_foundAt (hplain : ∀ name ∈ file.names, Path.isPlainName name = true)
    (hne : file.names ≠ []) (repo : String) : Path.parent (file.foundAt repo) = file.holder repo := by
  obtain ⟨front, name, hnames⟩ : ∃ front name, file.names = front ++ [name] :=
    ⟨_, _, (List.dropLast_append_getLast hne).symm⟩
  rw [foundAt_eq_foldl hplain hne, holder, hnames, List.dropLast_concat, List.foldl_append]
  rw [hnames] at hplain
  have hfront := (RegistryTree.endsInName_root repo).foldl_append fun s hs =>
    hplain s (List.mem_append_left _ hs)
  exact Path.parent_append hfront (hplain name (by simp))

/-- **A file that a walk comes to is found where the walk has found it.** -/
theorem locate_foundAt {tree : FileTree} (htree : tree.WellFormed) (hnames : tree.HasUsableNames)
    {repo : String} {names : List String} (hfind : RegistryTree.find tree repo = .ok names)
    (hwalked : RegistryTree.Walked tree names file) : tree.locate (file.foundAt repo) =
      .ok (.inside (names ++ file.names) (.file file.content)) := by
  have hroot := RegistryTree.endsInName_root repo
  have hplain : ∀ name ∈ file.names, Path.isPlainName name = true := fun name hname =>
    htree.isPlainName hwalked.1 hname
  rw [foundAt_eq hplain (FileTree.mem_below.1 hwalked.1).1, hroot.within_eq]
  exact FileTree.locate_of_mem_below htree hnames (RegistryTree.dirNames?_root hfind)
    hroot.getLast?_ne hwalked.1 rfl

theorem isFile_foundAt {tree : FileTree} (htree : tree.WellFormed) (hnames : tree.HasUsableNames)
    {repo : String} {names : List String} (hfind : RegistryTree.find tree repo = .ok names)
    (hwalked : RegistryTree.Walked tree names file) : tree.isFile (file.foundAt repo) = true := by
  rw [FileTree.isFile, locate_foundAt htree hnames hfind hwalked]

theorem readText_foundAt {tree : FileTree} (htree : tree.WellFormed) (hnames : tree.HasUsableNames)
    {repo : String} {names : List String} (hfind : RegistryTree.find tree repo = .ok names)
    (hwalked : RegistryTree.Walked tree names file) :
    tree.readText (file.foundAt repo) = file.text := by
  rw [FileTree.readText, FileTree.readBytes, locate_foundAt htree hnames hfind hwalked]
  rfl

/-- The path of a file is in its usual spelling when its backslashes are slashes. -/
theorem normalize_slashed_path (file : RegistryFile) :
    normalize (slashed file.path) = slashed file.path := by
  have hself : slashed (slashed file.path) = slashed file.path :=
    slashed_of_not_mem (not_mem_slashed _)
  rcases normalize_cases (slashed file.path) with hdot | ⟨-, hsame⟩
  · -- The path begins with the name of the registry directory.
    have hhead : (slashed file.path).toList.head? = some 'r' := by
      rw [path]
      cases file.names <;>
        simp [joinTexts, RegistryTree.folder, toList_slashed]
    rw [← hself, hdot, String.toList_append] at hhead
    cases hhead
  · rw [hsame, hself]

/-- A file whose names hold no backslash is recognized by its names. -/
theorem spells_iff (hplain : ∀ name ∈ file.names, Path.isPlainName name = true)
    (hslash : ∀ name ∈ file.names, '\\' ∉ name.toList) :
    Spells (slashed file.path) connector item ↔
      file.names = connector.ns :: connector.name :: item.segments ∧ aliasDir ∉ file.names := by
  have hsame : file.names.map slashed = file.names := by
    rw [List.map_congr_left fun name hname => slashed_of_not_mem (hslash name hname)]
    exact List.map_id' _
  have hsegments : segments (slashed file.path) = "registry" :: file.names := by
    have hregistry : slashed RegistryTree.folder = "registry" := by decide
    rw [path, slashed_joinTexts, List.map_cons, hsame, hregistry]
    refine segments_joinTexts (List.cons_ne_nil _ _) (List.forall_mem_cons.2 ⟨by decide, ?_⟩)
    exact fun name hname => Path.isSegment_of_isPlainName (hplain name hname)
  have hreserved : (∀ s ∈ "registry" :: file.names, isReserved s = false) ↔
      aliasDir ∉ file.names := by
    constructor
    · intro h halias
      exact absurd (h aliasDir (List.mem_cons_of_mem _ halias)) (by decide)
    · intro halias
      refine List.forall_mem_cons.2 ⟨by decide, fun name hname => ?_⟩
      obtain ⟨-, -, hdot, hclimb⟩ := Path.isPlainName_iff.1 (hplain name hname)
      have hne : name ≠ aliasDir := fun heq => halias (heq ▸ hname)
      simp [isReserved, hne, hdot, hclimb]
  have hnamed (hnames : file.names = connector.ns :: connector.name :: item.segments) :
      IsNamed connector item := by
    have hne : ∀ name ∈ file.names, name ≠ "" := fun name hname =>
      Path.ne_empty_of_isPlainName (hplain name hname)
    rw [hnames] at hne
    refine ⟨hne _ (by simp), hne _ (by simp), ?_⟩
    rintro version rfl
    exact hne version (by simp [RegistryItem.segments])
  constructor
  · rintro ⟨hnames, -, hres⟩
    rw [hsegments] at hnames hres
    exact ⟨(List.cons.inj hnames).2, hreserved.1 hres⟩
  · rintro ⟨hnames, halias⟩
    refine ⟨?_, hnamed hnames, ?_⟩
    · rw [hsegments, hnames]
    · rw [hsegments]
      exact hreserved.2 halias

end RegistryFile

end ConnectorCatalog
