import Mathlib.Logic.Relation
import ConnectorCatalog.Proofs.Except
import ConnectorCatalog.Proofs.Files.Clean

/-!
# What cleaning makes of a path

The segments of a path that are neither empty nor `.` are its *moves*: names, which go down, and
`..`, which climbs.  Cleaning goes through the moves with the names that remain so far.  It comes to
an end if no beginning of the moves climbs more often than it goes down (`NeverClimbsOut`), and then
it has cancelled each `..` against a name next to it (`Cancels`), in whatever order that is done.

**This tells of every path whether it is cleaned, and to what; and a path in a directory may be
cleaned from the cleaned directory on** (`clean_resolves`).
-/

namespace ConnectorCatalog

open Text Relation

namespace Path

variable {path dir name : String} {names kept segs : List String}

/-- The segments of a path that lead somewhere. -/
def moves (path : String) : List String := (segments path).filter (!isIdle ·)

/-- A `..` and the name in front of it cancel each other. -/
inductive Cancels : List String → List String → Prop where
  | pair (front : List String) {name : String} (rest : List String) : name ≠ ".." →
      Cancels (front ++ name :: ".." :: rest) (front ++ rest)

/-- No beginning climbs more often than it goes down. -/
def NeverClimbsOut (moves : List String) : Prop :=
  ∀ front, front <+: moves → front.count ".." ≤ front.countP (· != "..")

/-! ### Going through the moves -/

theorem isIdle_of_mem_moves (h : name ∈ moves path) : isIdle name = false := by
  simpa using (List.mem_filter.1 h).2

theorem cancel_cons_idle (h : isIdle name = true) (kept segs : List String) :
    cancel kept (name :: segs) = cancel kept segs := by
  cases kept <;> rw [cancel, if_pos h]

theorem cancel_cons_name (hidle : isIdle name = false) (hname : name ≠ "..")
    (kept segs : List String) : cancel kept (name :: segs) = cancel (name :: kept) segs := by
  cases kept <;> rw [cancel, if_neg (Bool.eq_false_iff.1 hidle), if_neg (by simpa using hname)]

theorem cancel_cons_climb (name : String) (kept segs : List String) :
    cancel (name :: kept) (".." :: segs) = cancel kept segs := by
  rw [cancel, if_neg (by decide), if_pos (by decide)]

theorem cancel_nil_climb (segs : List String) : cancel [] (".." :: segs) = none := by
  rw [cancel, if_neg (by decide), if_pos (by decide)]

/-- What comes behind is gone through with what remains of what is in front. -/
theorem cancel_append (kept segs more : List String) :
    cancel kept (segs ++ more) = (cancel kept segs).bind (cancel · more) := by
  fun_induction cancel kept segs with
  | case1 kept => rfl
  | case2 kept s rest hidle ih => rw [List.cons_append, cancel_cons_idle hidle, ih]
  | case3 s rest hidle hclimb =>
    rw [List.cons_append, beq_iff_eq.1 hclimb, cancel_nil_climb]
    rfl
  | case4 s rest hidle hclimb top kept ih =>
    rw [List.cons_append, beq_iff_eq.1 hclimb, cancel_cons_climb, ih]
  | case5 kept s rest hidle hclimb ih =>
    rw [List.cons_append, cancel_cons_name (Bool.eq_false_iff.2 hidle) (by simpa using hclimb), ih]

/-- Segments that lead nowhere are passed over. -/
theorem cancel_filter (kept segs : List String) :
    cancel kept (segs.filter (!isIdle ·)) = cancel kept segs := by
  fun_induction cancel kept segs with
  | case1 kept => rw [List.filter_nil, cancel]
  | case2 kept s rest hidle ih => rw [List.filter_cons_of_neg (by simpa using hidle), ih]
  | case3 s rest hidle hclimb =>
    rw [List.filter_cons_of_pos (by simpa using hidle), beq_iff_eq.1 hclimb, cancel_nil_climb]
  | case4 s rest hidle hclimb top kept ih =>
    rw [List.filter_cons_of_pos (by simpa using hidle), beq_iff_eq.1 hclimb, cancel_cons_climb, ih]
  | case5 kept s rest hidle hclimb ih =>
    rw [List.filter_cons_of_pos (by simpa using hidle),
      cancel_cons_name (Bool.eq_false_iff.2 hidle) (by simpa using hclimb), ih]

theorem clean_eq_ok_iff : clean path = .ok names ↔
    isAbsolute path = false ∧ cancel [] (moves path) = some names.reverse := by
  rw [moves, cancel_filter, clean]
  split
  · rename_i habsolute
    simp [habsolute]
  · rename_i hrelative
    rw [and_iff_right (Bool.eq_false_iff.2 hrelative)]
    cases cancel [] (segments path) with
    | none => simp
    | some cancelled => simp [List.reverse_eq_iff]

/-! ### Coming to an end -/

/-- With some names at hand the moves may climb that much higher. -/
theorem exists_cancel_iff (hsegs : ∀ s ∈ segs, isIdle s = false) :
    (∃ names, cancel kept segs = some names) ↔
      ∀ front, front <+: segs → front.count ".." ≤ kept.length + front.countP (· != "..") := by
  induction segs generalizing kept with
  | nil => simp [cancel]
  | cons s rest ih =>
    obtain ⟨hidle, hrest⟩ := List.forall_mem_cons.1 hsegs
    -- The beginnings of the moves are the empty one and those that begin with the first move.
    have hfronts {P : List String → Prop} (hnil : P []) :
        (∀ front, front <+: s :: rest → P front) ↔ ∀ front, front <+: rest → P (s :: front) := by
      simp only [List.prefix_cons_iff]
      constructor
      · exact fun h front hfront => h _ (.inr ⟨front, rfl, hfront⟩)
      · rintro h _ (rfl | ⟨front, rfl, hfront⟩)
        · exact hnil
        · exact h front hfront
    rw [hfronts (by simp)]
    by_cases hclimb : s = ".."
    · subst hclimb
      simp only [List.count_cons_self, bne_self_eq_false, Bool.false_eq_true, not_false_eq_true,
        List.countP_cons_of_neg]
      cases kept with
      | nil =>
        rw [cancel_nil_climb]
        refine iff_of_false ?_ fun h => absurd (h [] List.nil_prefix) (by decide)
        rintro ⟨names, hnames⟩
        cases hnames
      | cons top kept =>
        rw [cancel_cons_climb, ih hrest, List.length_cons]
        refine forall_congr' fun front => forall_congr' fun _ => ?_
        omega
    · rw [cancel_cons_name hidle hclimb, ih hrest, List.length_cons]
      refine forall_congr' fun front => forall_congr' fun _ => ?_
      rw [List.count_cons_of_ne hclimb, List.countP_cons_of_pos (by simpa using hclimb)]
      omega

/-! ### Cancelling -/

/-- Going through the moves cancels each `..` against the last name that remains. -/
theorem cancels_of_cancel (hsegs : ∀ s ∈ segs, isIdle s = false) (hkept : ".." ∉ kept)
    (h : cancel kept segs = some names) :
    ReflTransGen Cancels (kept.reverse ++ segs) names.reverse ∧ ".." ∉ names := by
  fun_induction cancel kept segs with
  | case1 kept =>
    cases h
    rw [List.append_nil]
    exact ⟨.refl, hkept⟩
  | case2 kept s rest hidle ih =>
    rw [hsegs s List.mem_cons_self] at hidle
    cases hidle
  | case3 s rest hidle hclimb => cases h
  | case4 s rest hidle hclimb top kept ih =>
    obtain ⟨htop, hkept⟩ := not_or.1 (mt List.mem_cons.2 hkept)
    obtain ⟨hcancels, hnames⟩ := ih (fun s hs => hsegs s (List.mem_cons_of_mem _ hs)) hkept h
    refine ⟨.head ?_ hcancels, hnames⟩
    rw [beq_iff_eq.1 hclimb, List.reverse_cons, List.append_assoc, List.singleton_append]
    exact .pair _ _ (Ne.symm htop)
  | case5 kept s rest hidle hclimb ih =>
    have hname : s ≠ ".." := by simpa using hclimb
    have hkept : ".." ∉ s :: kept := fun hmem =>
      (List.mem_cons.1 hmem).elim (fun h => hname h.symm) hkept
    have ih := ih (fun s hs => hsegs s (List.mem_cons_of_mem _ hs)) hkept h
    rwa [List.reverse_cons, List.append_assoc, List.singleton_append] at ih

/-- Moves that cancel each other may as well not be made. -/
theorem Cancels.cancel_eq {segs segs' : List String} (h : Cancels segs segs')
    (hsegs : ∀ s ∈ segs, isIdle s = false) (kept : List String) :
    cancel kept segs = cancel kept segs' := by
  obtain ⟨front, rest, hname⟩ := h
  rw [cancel_append, cancel_append]
  congr 1
  funext kept
  rw [cancel_cons_name (hsegs _ (by simp)) hname, cancel_cons_climb]

theorem Cancels.subset {segs segs' : List String} (h : Cancels segs segs') : segs' ⊆ segs := by
  obtain ⟨front, rest, -⟩ := h
  intro s hs
  rcases List.mem_append.1 hs with hs | hs <;> simp [hs]

theorem cancel_of_names (hsegs : ∀ s ∈ segs, isIdle s = false) (hnames : ".." ∉ segs) :
    cancel kept segs = some (segs.reverse ++ kept) := by
  induction segs generalizing kept with
  | nil => rw [cancel]; rfl
  | cons s rest ih =>
    obtain ⟨hidle, hrest⟩ := List.forall_mem_cons.1 hsegs
    obtain ⟨hs, hnames⟩ := not_or.1 (mt List.mem_cons.2 hnames)
    rw [cancel_cons_name hidle (Ne.symm hs), ih hrest hnames, List.reverse_cons,
      List.append_assoc, List.singleton_append]

/-- **What remains of moves is what is left when each `..` has been cancelled**, in any order. -/
theorem cancel_eq_some_iff (hsegs : ∀ s ∈ segs, isIdle s = false) :
    cancel [] segs = some names.reverse ↔ ReflTransGen Cancels segs names ∧ ".." ∉ names := by
  constructor
  · intro h
    simpa using cancels_of_cancel hsegs List.not_mem_nil h
  · rintro ⟨hcancels, hnames⟩
    induction hcancels using ReflTransGen.head_induction_on with
    | refl => rw [cancel_of_names hsegs hnames, List.append_nil]
    | head hstep _ ih =>
      rw [hstep.cancel_eq hsegs]
      exact ih fun s hs => hsegs s (hstep.subset hs)

/-! ### Paths in a directory -/

theorem moves_slash (front rest : String) :
    moves (front ++ "/" ++ rest) = moves front ++ moves rest := by
  rw [moves, segments_slash, List.filter_append]
  rfl

theorem moves_empty : moves "" = [] := by decide

theorem moves_append (hrelative : isAbsolute path = false) :
    moves (append dir path) = moves dir ++ moves path := by
  rw [append_of_relative hrelative]
  rcases within_cases dir with ⟨rfl, hwithin⟩ | ⟨front, hwithin, rfl | ⟨rfl, -⟩⟩
  · rw [hwithin, String.empty_append, moves_empty, List.nil_append]
  · have hdir : moves (front ++ "/") = moves front := by
      simpa [moves_empty] using moves_slash front ""
    rw [hwithin, moves_slash, hdir]
  · rw [hwithin, moves_slash]

theorem isAbsolute_append_eq_false (hdir : isAbsolute dir = false)
    (hrelative : isAbsolute path = false) : isAbsolute (append dir path) = false := by
  rw [append_of_relative hrelative]
  rcases within_cases dir with ⟨rfl, hwithin⟩ | ⟨front, hwithin, rfl | ⟨rfl, hne⟩⟩
  · rwa [hwithin, String.empty_append]
  · have hne : front ++ "/" ≠ "" := fun hempty => by simpa using congrArg String.toList hempty
    rwa [hwithin, isAbsolute_append hne]
  · rwa [hwithin, String.append_assoc, isAbsolute_append hne]

/-- A cleaned directory is gone through before the path. -/
theorem clean_append_eq_ok_iff {result : List String} (hdir : clean dir = .ok names)
    (hrelative : isAbsolute path = false) : clean (append dir path) = .ok result ↔
      cancel names.reverse (moves path) = some result.reverse := by
  obtain ⟨hstart, hnames⟩ := clean_eq_ok_iff.1 hdir
  rw [clean_eq_ok_iff, isAbsolute_append_eq_false hstart hrelative, and_iff_right rfl,
    moves_append hrelative, cancel_append, hnames, Option.bind_some]

/-! ### Cleaned paths -/

theorem moves_joinTexts (h : ∀ name ∈ names, isPlainName name = true) :
    isAbsolute (joinTexts "/" names) = false ∧ moves (joinTexts "/" names) = names := by
  cases names with
  | nil => decide
  | cons name rest =>
    have hsegments := segments_of_isPlainName (List.cons_ne_nil name rest) h
    constructor
    · rw [← Bool.not_eq_true]
      intro habsolute
      rw [segments_of_isAbsolute habsolute] at hsegments
      exact ne_empty_of_isPlainName (h name List.mem_cons_self) (List.cons.inj hsegments).1.symm
    · rw [moves, hsegments, List.filter_eq_self]
      exact fun s hs => by simpa using isIdle_of_isPlainName (h s hs)

/-- Plain names are what cleaning makes of the path that they make up. -/
theorem clean_joinTexts (h : ∀ name ∈ names, isPlainName name = true) :
    clean (joinTexts "/" names) = .ok names := by
  obtain ⟨hrelative, hmoves⟩ := moves_joinTexts h
  have hclimb : ".." ∉ names := fun hmem => absurd (h _ hmem) (by decide)
  refine clean_eq_ok_iff.2 ⟨hrelative, ?_⟩
  rw [hmoves, cancel_of_names (fun s hs => isIdle_of_isPlainName (h s hs)) hclimb, List.append_nil]

theorem neverClimbsOut_iff :
    NeverClimbsOut (moves path) ↔ ∃ names, cancel [] (segments path) = some names := by
  rw [← cancel_filter, ← moves, exists_cancel_iff fun _ => isIdle_of_mem_moves, NeverClimbsOut]
  simp only [List.length_nil, Nat.zero_add]

theorem exists_clean_iff :
    (∃ names, clean path = .ok names) ↔ isAbsolute path = false ∧ NeverClimbsOut (moves path) := by
  rw [neverClimbsOut_iff, clean]
  split
  · rename_i habsolute
    simp [habsolute]
  · rename_i hrelative
    cases cancel [] (segments path) <;> simp [hrelative]

theorem clean_eq_error_iff {fault : CleanFault} : clean path = .error fault ↔
    isAbsolute path = true ∧ fault = .absolute path ∨
      isAbsolute path = false ∧ ¬NeverClimbsOut (moves path) ∧ fault = .climbs path := by
  rw [neverClimbsOut_iff, clean]
  split
  · rename_i habsolute
    simp [habsolute, eq_comm]
  · rename_i hrelative
    cases cancel [] (segments path) <;> simp [hrelative, eq_comm]

/-- **What cleaning makes of a path.**  A path is cleaned exactly if it is relative and no beginning
of its moves climbs more often than it goes down; else the fault says which of these fails.  What
remains are its moves when each `..` has been cancelled against the name in front of it.  These are
plain names, and cleaning the path that they make up leaves it as it is.  A relative path in a
directory that can be cleaned comes to the same, or fails likewise, in the cleaned directory. -/
theorem clean_resolves (path : String) :
    ((∃ names, clean path = .ok names) ↔
      isAbsolute path = false ∧ NeverClimbsOut (moves path)) ∧
    (∀ fault, clean path = .error fault ↔
      isAbsolute path = true ∧ fault = .absolute path ∨
        isAbsolute path = false ∧ ¬NeverClimbsOut (moves path) ∧ fault = .climbs path) ∧
    (∀ names, clean path = .ok names ↔ isAbsolute path = false ∧
      ReflTransGen Cancels (moves path) names ∧ ".." ∉ names) ∧
    (∀ names, clean path = .ok names →
      (∀ name ∈ names, isPlainName name = true) ∧ clean (joinTexts "/" names) = .ok names) ∧
    ∀ names rest, clean path = .ok names → isAbsolute rest = false →
      (clean (append path rest)).toOption =
        (clean (append (joinTexts "/" names) rest)).toOption := by
  have hidle : ∀ s ∈ moves path, isIdle s = false := fun _ => isIdle_of_mem_moves
  refine ⟨exists_clean_iff, fun fault => clean_eq_error_iff, fun names => ?_, fun names h => ?_,
    fun names rest h hrest => ?_⟩
  · rw [clean_eq_ok_iff, cancel_eq_some_iff hidle]
  · have hplain : ∀ name ∈ names, isPlainName name = true := fun _ => isPlainName_of_clean h
    exact ⟨hplain, clean_joinTexts hplain⟩
  · have hplain : ∀ name ∈ names, isPlainName name = true := fun _ => isPlainName_of_clean h
    ext result
    rw [Except.toOption_eq_some, Except.toOption_eq_some, clean_append_eq_ok_iff h hrest,
      clean_append_eq_ok_iff (clean_joinTexts hplain) hrest]

-- A path that has climbed out is refused, even if it comes back.
example : clean "a/./b//../t" = .ok ["a", "t"] ∧
    clean "a/../../b" = .error (.climbs "a/../../b") := by
  constructor <;> rfl

end Path

end ConnectorCatalog
