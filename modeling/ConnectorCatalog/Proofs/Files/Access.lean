import ConnectorCatalog.Files.Access
import ConnectorCatalog.Proofs.Except
import ConnectorCatalog.Proofs.Files.Path
import ConnectorCatalog.Proofs.Files.Tree

/-!
# Following paths

A path is followed step by step (`follow_cons`).  So whoever follows it in two parts first comes to
where the first part leads (`follow_append`), and a greater bound on the steps does not change where
it leads (`follow_mono`).

In a tree without links plain names lead to what stands there (`follow_plain`).  So what is found at
a path below a directory is what a walk from there finds (`locate_below`).  In any tree the names on
the way to an entry lead there, so what a walk comes to is found (`locate_of_mem_below`).
-/

namespace ConnectorCatalog

open Text

namespace FileTree

variable {tree : FileTree} {n m : Nat} {place goal : Place} {s : String}
  {rest more names : List String}

/-! ### Steps -/

/-- Where one segment leads, and the segments of the link that stands there, if one does. -/
def step (tree : FileTree) : Place → String → Except OsFault (Place × List String)
  | .outside, s => if s == "." || s == ".." then .ok (.outside, []) else .error .notFound
  | .inside names .dir, s =>
    if s == "." then .ok (.inside names .dir, [])
    else if s == ".." then .ok (above names, [])
    else if maxNameLength < s.utf8ByteSize then .error .nameTooLong
    else match tree.entry? (names ++ [s]) with
      | none => .error .notFound
      | some (.link target) =>
        .ok (if Path.isAbsolute target then .outside else .inside names .dir, steps target)
      | some entry => .ok (.inside (names ++ [s]) entry, [])
  | .inside _ _, _ => .error .notADirectory

theorem follow_cons (tree : FileTree) (n : Nat) (place : Place) (s : String)
    (rest : List String) : follow tree (n + 1) place (s :: rest) =
      tree.step place s >>= fun next => follow tree n next.1 (next.2 ++ rest) := by
  fun_cases step tree place s <;> simp [follow, *]

theorem follow_nil (tree : FileTree) (n : Nat) (place : Place) :
    follow tree n place [] = .ok place := by
  rw [follow]

theorem follow_cons_eq_ok : follow tree n place (s :: rest) = .ok goal ↔ ∃ k next more,
    n = k + 1 ∧ tree.step place s = .ok (next, more) ∧
      follow tree k next (more ++ rest) = .ok goal := by
  cases n with
  | zero => simp [follow]
  | succ k =>
    rw [follow_cons, Except.bind_eq_ok]
    simp

/-- A greater bound does not change where a path leads. -/
theorem follow_mono (h : follow tree n place rest = .ok goal) (hnm : n ≤ m) :
    follow tree m place rest = .ok goal := by
  induction n generalizing m place rest with
  | zero =>
    cases rest with
    | nil => rwa [follow_nil] at h ⊢
    | cons s rest => cases h
  | succ n ih =>
    cases rest with
    | nil => rwa [follow_nil] at h ⊢
    | cons s rest =>
      obtain ⟨m, rfl⟩ := Nat.exists_eq_add_of_lt hnm
      obtain ⟨k, next, more, hk, hstep, hrest⟩ := follow_cons_eq_ok.1 h
      cases hk
      exact follow_cons_eq_ok.2 ⟨_, next, more, rfl, hstep, ih hrest (by omega)⟩

theorem follow_append (h : follow tree n place (rest ++ more) = .ok goal) :
    ∃ mid k, k ≤ n ∧ follow tree n place rest = .ok mid ∧ follow tree k mid more = .ok goal := by
  induction n generalizing place rest with
  | zero =>
    cases rest with
    | nil => exact ⟨place, 0, Nat.le_refl _, follow_nil .., h⟩
    | cons s rest => cases h
  | succ n ih =>
    cases rest with
    | nil => exact ⟨place, n + 1, Nat.le_refl _, follow_nil .., h⟩
    | cons s rest =>
      obtain ⟨k, next, linked, hk, hstep, hrest⟩ := follow_cons_eq_ok.1 h
      cases hk
      have hrest : follow tree n next ((linked ++ rest) ++ more) = .ok goal := by
        rwa [List.append_assoc]
      obtain ⟨mid, k, hkn, hmid, hgoal⟩ := ih hrest
      exact ⟨mid, k, by omega, follow_cons_eq_ok.2 ⟨n, next, linked, rfl, hstep, hmid⟩, hgoal⟩

/-! ### Trees without links -/

/-- Whether an entry refers to another path. -/
def isLink : FileEntry → Bool
  | .link _ => true
  | _ => false

/-- Nothing in the tree refers to another path. -/
def IsLinkless (tree : FileTree) : Prop := ∀ e ∈ tree.entries, isLink e.2 = false

instance : Decidable tree.IsLinkless := inferInstanceAs (Decidable (∀ _ ∈ _, _))

theorem step_plain (hlinks : tree.IsLinkless) (htree : tree.WellFormed)
    (hplain : Path.isPlainName s = true) {entry : FileEntry} {next : Place}
    (h : tree.step (.inside names entry) s = .ok (next, more)) :
    more = [] ∧ ∃ found, next = .inside (names ++ [s]) found ∧
      tree.entry? (names ++ [s]) = some found := by
  obtain ⟨-, -, hdot, hclimb⟩ := Path.isPlainName_iff.1 hplain
  cases entry with
  | file content => cases h
  | link target => cases h
  | dir =>
    rw [step, if_neg (by simpa using hdot), if_neg (by simpa using hclimb)] at h
    split at h
    · cases h
    · split at h
      · cases h
      · rename_i target hlink
        have hmem := (htree.entry?_eq_some (by simp)).1 hlink
        cases hlinks _ hmem
      · rename_i found _ hfound
        cases h
        exact ⟨rfl, found, rfl, hfound⟩

theorem follow_plain (hlinks : tree.IsLinkless) (htree : tree.WellFormed) (hne : rest ≠ [])
    (hplain : ∀ s ∈ rest, Path.isPlainName s = true) {entry : FileEntry}
    (h : follow tree n (.inside names entry) rest = .ok goal) :
    ∃ found, goal = .inside (names ++ rest) found ∧ tree.entry? (names ++ rest) = some found := by
  induction rest generalizing n names entry with
  | nil => exact absurd rfl hne
  | cons s rest ih =>
    obtain ⟨k, next, more, -, hstep, hrest⟩ := follow_cons_eq_ok.1 h
    obtain ⟨rfl, found, rfl, hfound⟩ :=
      step_plain hlinks htree (hplain s List.mem_cons_self) hstep
    cases rest with
    | nil =>
      rw [List.nil_append, follow_nil] at hrest
      cases hrest
      exact ⟨found, rfl, hfound⟩
    | cons t rest =>
      have hgoal := ih (List.cons_ne_nil t rest) (fun u hu => hplain u (List.mem_cons_of_mem _ hu))
        hrest
      rwa [List.append_assoc] at hgoal

/-! ### Paths below a directory -/

theorem steps_of_getLast? {path : String} (h : path.toList.getLast? ≠ some '/') :
    steps path = (segments path).filter (· != "") := by
  rw [steps, if_neg h]

/-- The names behind a slash are gone along last. -/
theorem steps_below {dir : String} (hdir : dir.toList.getLast? ≠ some '/') (hne : rest ≠ [])
    (hplain : ∀ s ∈ rest, Path.isPlainName s = true) :
    steps (dir ++ "/" ++ joinTexts "/" rest) = steps dir ++ rest := by
  have hsegments : segments (joinTexts "/" rest) = rest := Path.segments_of_isPlainName hne hplain
  have hlast : (dir ++ "/" ++ joinTexts "/" rest).toList.getLast? ≠ some '/' := by
    refine getLast?_ne_slash fun hempty => ?_
    rw [segments_slash, hsegments, List.getLast?_append_of_ne_nil _ hne] at hempty
    exact Path.ne_empty_of_isPlainName (hplain _ (List.mem_of_getLast? hempty)) rfl
  have hnames : rest.filter (· != "") = rest := List.filter_eq_self.2 fun s hs =>
    bne_iff_ne.2 (Path.ne_empty_of_isPlainName (hplain s hs))
  rw [steps_of_getLast? hlast, steps_of_getLast? hdir, segments_slash, List.filter_append, hsegments,
    hnames]

theorem stepBound_mono (tree : FileTree) {s t : List String} (h : s.length ≤ t.length) :
    tree.stepBound s ≤ tree.stepBound t := Nat.add_le_add_right h _

theorem locate_of_dirNames? {dir : String} (h : tree.dirNames? dir = some names) :
    tree.locate dir = .ok (.inside names .dir) := by
  rw [dirNames?] at h
  split at h
  · rename_i hlocate
    cases h
    exact hlocate
  · cases h

/-- **What is found below a directory is what a walk from there finds**, along plain names in a tree
without links. -/
theorem locate_below (hlinks : tree.IsLinkless) (htree : tree.WellFormed) {dir : String}
    (hdir : tree.dirNames? dir = some names) (hlast : dir.toList.getLast? ≠ some '/')
    (hne : rest ≠ []) (hplain : ∀ s ∈ rest, Path.isPlainName s = true)
    (h : tree.locate (dir ++ "/" ++ joinTexts "/" rest) = .ok goal) :
    ∃ entry, goal = .inside (names ++ rest) entry ∧ (rest, entry) ∈ tree.below names := by
  have hlocate := locate_of_dirNames? hdir
  unfold locate at h hlocate
  split at hlocate
  · cases hlocate
  split at hlocate
  · cases hlocate
  rename_i hdirne
  split at h
  · cases h
  split at h
  · cases h
  rw [String.append_assoc, Path.isAbsolute_append hdirne, ← String.append_assoc,
    steps_below hlast hne hplain] at h
  obtain ⟨mid, k, -, hmid, hgoal⟩ := follow_append h
  -- The first part leads to the directory, under either bound.
  have hstart := follow_mono hlocate
    (stepBound_mono tree (by simp : _ ≤ (steps dir ++ rest).length))
  cases hstart.symm.trans hmid
  obtain ⟨entry, hplace, hentry⟩ := follow_plain hlinks htree hne hplain hgoal
  have hmem := (htree.entry?_eq_some (by simp [hne])).1 hentry
  exact ⟨entry, hplace, mem_below.2 ⟨hne, hmem⟩⟩

/-! ### Finding what stands in a tree -/

theorem follow_trans {mid : Place} (h : follow tree n place rest = .ok mid)
    (h' : follow tree m mid more = .ok goal) :
    follow tree (n + m) place (rest ++ more) = .ok goal := by
  induction n generalizing place rest with
  | zero =>
    cases rest with
    | nil =>
      cases h
      rwa [Nat.zero_add]
    | cons s rest => cases h
  | succ n ih =>
    cases rest with
    | nil =>
      rw [follow_nil] at h
      cases h
      exact follow_mono h' (Nat.le_add_left _ _)
    | cons s rest =>
      obtain ⟨k, next, linked, hk, hstep, hrest⟩ := follow_cons_eq_ok.1 h
      cases hk
      have hboth := ih hrest
      rw [List.append_assoc] at hboth
      exact follow_cons_eq_ok.2 ⟨n + m, next, linked, by omega, hstep, hboth⟩

/-- Every name in the tree is one that files can have. -/
def HasUsableNames (tree : FileTree) : Prop :=
  ∀ e ∈ tree.entries, ∀ name ∈ e.1, name.utf8ByteSize ≤ maxNameLength ∧ '\x00' ∉ name.toList

instance : Decidable tree.HasUsableNames :=
  inferInstanceAs (Decidable (∀ _ ∈ _, ∀ _ ∈ _, _))

variable {entry : FileEntry}

theorem step_eq_ok (hplain : Path.isPlainName s = true) (hlength : s.utf8ByteSize ≤ maxNameLength)
    (hentry : tree.entry? (names ++ [s]) = some entry) (hlink : isLink entry = false) :
    tree.step (.inside names .dir) s = .ok (.inside (names ++ [s]) entry, []) := by
  obtain ⟨-, -, hdot, hclimb⟩ := Path.isPlainName_iff.1 hplain
  rw [step, if_neg (by simpa using hdot), if_neg (by simpa using hclimb),
    if_neg (Nat.not_lt.2 hlength), hentry]
  cases entry with
  | link target => cases hlink
  | _ => rfl

theorem follow_entry (htree : tree.WellFormed) (hnames : tree.HasUsableNames) (hne : rest ≠ [])
    (hmem : (names ++ rest, entry) ∈ tree.entries) (hlink : isLink entry = false) :
    follow tree rest.length (.inside names .dir) rest = .ok (.inside (names ++ rest) entry) := by
  induction rest generalizing names with
  | nil => exact absurd rfl hne
  | cons s rest ih =>
    have hs : s ∈ names ++ s :: rest := by simp
    have hplain := (htree.plain _ hmem).2 s hs
    have hlength := (hnames _ hmem s hs).1
    cases rest with
    | nil =>
      have hentry := (htree.entry?_eq_some (by simp)).2 hmem
      exact follow_cons_eq_ok.2 ⟨0, _, [], rfl, step_eq_ok hplain hlength hentry hlink, follow_nil ..⟩
    | cons t rest =>
      rw [List.append_cons] at hmem
      have hdir := htree.entry?_eq_dir hmem (List.cons_ne_nil t rest)
      have hrest := ih (List.cons_ne_nil t rest) hmem
      rw [← List.append_cons] at hrest
      exact follow_cons_eq_ok.2 ⟨_, _, [], rfl, step_eq_ok hplain hlength hdir rfl, hrest⟩

/-- **What a walk from a directory comes to is found at its path.** -/
theorem locate_of_mem_below (htree : tree.WellFormed) (hnames : tree.HasUsableNames) {dir : String}
    (hdir : tree.dirNames? dir = some names) (hlast : dir.toList.getLast? ≠ some '/')
    (hmem : (rest, entry) ∈ tree.below names) (hlink : isLink entry = false) :
    tree.locate (dir ++ "/" ++ joinTexts "/" rest) = .ok (.inside (names ++ rest) entry) := by
  have hlocate := locate_of_dirNames? hdir
  obtain ⟨hne, hentry⟩ := mem_below.1 hmem
  unfold locate at hlocate ⊢
  split at hlocate
  · cases hlocate
  rename_i hnul
  split at hlocate
  · cases hlocate
  rename_i hdirne
  have hnul' : (dir ++ "/" ++ joinTexts "/" rest).toList.contains '\x00' = false := by
    rw [List.contains_eq_mem, decide_eq_false_iff_not, String.toList_append, String.toList_append,
      List.mem_append, List.mem_append]
    rintro ((hmem | hmem) | hmem)
    · exact hnul (List.contains_iff_mem.2 hmem)
    · exact absurd hmem (by decide)
    · rcases mem_joinTexts hmem with hslash | ⟨name, hname, hmem⟩
      · exact absurd hslash (by decide)
      · exact (hnames _ hentry name (List.mem_append_right _ hname)).2 hmem
  have hplain : ∀ s ∈ rest, Path.isPlainName s = true := fun s hs =>
    (htree.plain _ hentry).2 s (List.mem_append_right _ hs)
  have hbound : tree.stepBound (steps dir ++ rest) = tree.stepBound (steps dir) + rest.length := by
    rw [stepBound, stepBound, List.length_append]
    omega
  rw [if_neg (Bool.eq_false_iff.1 hnul'), if_neg (by simp [hdirne]), String.append_assoc,
    Path.isAbsolute_append hdirne, ← String.append_assoc, steps_below hlast hne hplain, hbound]
  exact follow_trans hlocate (follow_entry htree hnames hne hentry hlink)

end FileTree

end ConnectorCatalog
