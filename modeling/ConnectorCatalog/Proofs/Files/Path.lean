import ConnectorCatalog.Files.Path
import ConnectorCatalog.Proofs.Text.Segment

/-!
# Path texts, lemmas

A relative path that is joined to a directory comes behind a text that depends on the directory
alone (`Path.within`).

Whoever follows a path reads it as `Path.components`: the root, a leading `.`, and the names between
slashes.  Joining paths joins their components (`components_append`), and the plain names are those
that stand for themselves as one component (`components_of_isPlainName`).
-/

namespace ConnectorCatalog

namespace Path

open Text

/-- What stands in front of the paths in a directory. -/
def within (dir : String) : String :=
  if dir = "" then "" else if dir.toList.getLast? = some '/' then dir else dir ++ "/"

/-- What a path begins at, unless it is the directory where it is looked up. -/
def lead (path : String) : List String :=
  if isAbsolute path then ["/"] else if (segments path).head? = some "." then ["."] else []

/-- What a path is read as: where it begins, and the names behind. -/
def components (path : String) : List String :=
  lead path ++ (segments path).filter (!isIdle ·)

variable {dir path part : String}

/-! ### Joining -/

theorem append_of_relative (h : isAbsolute path = false) : append dir path = within dir ++ path := by
  unfold append within
  rw [if_neg (Bool.eq_false_iff.1 h)]
  split
  · rw [String.empty_append]
  · split <;> rfl

/-- Joined to no directory a path stays as it is; else it comes behind a slash. -/
theorem within_cases (dir : String) : dir = "" ∧ within dir = "" ∨
    ∃ front, within dir = front ++ "/" ∧ (dir = front ++ "/" ∨ dir = front ∧ front ≠ "") := by
  by_cases hempty : dir = ""
  · exact .inl ⟨hempty, if_pos hempty⟩
  · right
    by_cases hslash : dir.toList.getLast? = some '/'
    · obtain ⟨front, hfront⟩ := List.getLast?_eq_some_iff.1 hslash
      have hdir : dir = String.ofList front ++ "/" := by
        apply String.toList_injective
        simp [hfront]
      refine ⟨String.ofList front, ?_, .inl hdir⟩
      rw [within, if_neg hempty, if_pos hslash, hdir]
    · exact ⟨dir, by rw [within, if_neg hempty, if_neg hslash], .inr ⟨rfl, hempty⟩⟩

theorem isAbsolute_append {front : String} (h : front ≠ "") (rest : String) :
    isAbsolute (front ++ rest) = isAbsolute front := by
  have hne : front.toList ≠ [] := fun hnil => h (String.toList_injective hnil)
  obtain ⟨c, cs, hcs⟩ := List.exists_cons_of_ne_nil hne
  rw [isAbsolute, isAbsolute, startsWith, startsWith, String.toList_append, hcs]
  simp [List.isPrefixOf]

theorem isAbsolute_of_isSegment (h : IsSegment part) : isAbsolute part = false := by
  rw [isAbsolute, startsWith, Bool.eq_false_iff]
  intro habsolute
  obtain ⟨rest, hrest⟩ := List.isPrefixOf_iff_prefix.1 habsolute
  refine h ?_
  rw [← hrest]
  exact List.mem_append_left _ (List.mem_singleton.2 rfl)

/-! ### Components -/

theorem lead_slash (front rest : String) :
    lead (front ++ "/" ++ rest) = if front = "" then ["/"] else lead front := by
  by_cases hempty : front = ""
  · subst hempty
    rw [if_pos rfl, lead, String.empty_append, isAbsolute_append (by decide)]
    exact if_pos (by decide)
  · obtain ⟨s, more, hsegments⟩ := List.exists_cons_of_ne_nil (segments_ne_nil front)
    rw [if_neg hempty, lead, lead, String.append_assoc, isAbsolute_append hempty,
      ← String.append_assoc, segments_slash, hsegments]
    rfl

theorem components_slash (front rest : String) : components (front ++ "/" ++ rest) =
    (if front = "" then ["/"] else components front) ++ (segments rest).filter (!isIdle ·) := by
  have hnothing : (segments "").filter (!isIdle ·) = [] := by decide
  rw [components, lead_slash, segments_slash, List.filter_append, ← List.append_assoc]
  by_cases hempty : front = ""
  · rw [if_pos hempty, if_pos hempty, hempty, hnothing, List.append_nil]
  · rw [if_neg hempty, if_neg hempty, components]

theorem components_append (hrelative : isAbsolute path = false)
    (hdot : (segments path).head? ≠ some ".") :
    components (append dir path) = components dir ++ components path := by
  have hpath : components path = (segments path).filter (!isIdle ·) := by
    rw [components, lead, hrelative, if_neg Bool.false_ne_true, if_neg hdot, List.nil_append]
  rw [append_of_relative hrelative]
  rcases within_cases dir with ⟨rfl, hwithin⟩ | ⟨front, hwithin, rfl | ⟨rfl, hne⟩⟩
  · rw [hwithin, String.empty_append]
    rfl
  · -- A trailing slash is not read.
    have hdir : components (front ++ "/") = if front = "" then ["/"] else components front := by
      simpa [show (segments "").filter (!isIdle ·) = [] by decide] using components_slash front ""
    rw [hwithin, components_slash, hpath, hdir]
  · rw [hwithin, components_slash, hpath, if_neg hne]

-- Empty segments and inner dots are not read, a leading dot is.
example : components "./a//b/./c/" = [".", "a", "b", "c"] ∧ components "/a/../" = ["/", "a", ".."] := by
  decide

/-! ### Plain names -/

/-- A text is a plain name if it is a segment that stands for itself. -/
theorem isPlainName_iff : isPlainName part = true ↔
    part ≠ "" ∧ IsSegment part ∧ part ≠ "." ∧ part ≠ ".." := by
  simp only [isPlainName, IsSegment, Bool.and_eq_true, bne_iff_ne, ne_eq, Bool.not_eq_true',
    List.contains_eq_mem, decide_eq_false_iff_not]
  constructor
  · rintro ⟨⟨⟨hempty, hdot⟩, hclimb⟩, hsegment⟩
    exact ⟨hempty, hsegment, hdot, hclimb⟩
  · rintro ⟨hempty, hsegment, hdot, hclimb⟩
    exact ⟨⟨⟨hempty, hdot⟩, hclimb⟩, hsegment⟩

theorem ne_empty_of_isPlainName (h : isPlainName part = true) : part ≠ "" := (isPlainName_iff.1 h).1

theorem isSegment_of_isPlainName (h : isPlainName part = true) : IsSegment part :=
  (isPlainName_iff.1 h).2.1

theorem segments_of_isPlainName {parts : List String} (hne : parts ≠ [])
    (h : ∀ part ∈ parts, isPlainName part = true) : segments (joinTexts "/" parts) = parts :=
  segments_joinTexts hne fun part hpart => isSegment_of_isPlainName (h part hpart)

theorem components_of_isPlainName (h : isPlainName part = true) : components part = [part] := by
  obtain ⟨hempty, hsegment, hdot, -⟩ := isPlainName_iff.1 h
  rw [components, lead, segments_of_isSegment hsegment, isAbsolute_of_isSegment hsegment]
  simp [isIdle, hempty, hdot]

theorem append_isPlainName (h : isPlainName part = true) : append dir part = within dir ++ part :=
  append_of_relative (isAbsolute_of_isSegment (isSegment_of_isPlainName h))

theorem components_append_isPlainName (h : isPlainName part = true) :
    components (append dir part) = components dir ++ [part] := by
  obtain ⟨-, hsegment, hdot, -⟩ := isPlainName_iff.1 h
  have hhead : (segments part).head? ≠ some "." := by simpa [segments_of_isSegment hsegment] using hdot
  rw [components_append (isAbsolute_of_isSegment hsegment) hhead, components_of_isPlainName h]

theorem isIdle_of_isPlainName (h : isPlainName part = true) : isIdle part = false := by
  obtain ⟨hempty, -, hdot, -⟩ := isPlainName_iff.1 h
  simp [isIdle, hempty, hdot]

theorem within_append_isPlainName (h : isPlainName part = true) (front : String) :
    within (front ++ part) = front ++ part ++ "/" := by
  obtain ⟨hempty, hsegment, -⟩ := isPlainName_iff.1 h
  have hne : part.toList ≠ [] := fun hnil => hempty (String.toList_injective hnil)
  -- A segment holds no slash, so it does not end in one.
  have hslash : (front ++ part).toList.getLast? ≠ some '/' := by
    rw [String.toList_append, List.getLast?_append, List.getLast?_eq_some_getLast hne, Option.some_or,
      ne_eq, Option.some.injEq]
    exact fun hlast => hsegment (hlast ▸ List.getLast_mem hne)
  rw [within, if_neg (by simp [hempty]), if_neg hslash]

/-- Plain names are joined to a directory with slashes between them. -/
theorem foldl_append_isPlainName {parts : List String} (hne : parts ≠ [])
    (h : ∀ part ∈ parts, isPlainName part = true) :
    parts.foldl append dir = within dir ++ joinTexts "/" parts := by
  induction parts generalizing dir with
  | nil => exact absurd rfl hne
  | cons part rest ih =>
    have hpart := h part List.mem_cons_self
    cases rest with
    | nil => exact append_isPlainName hpart
    | cons next rest =>
      rw [List.foldl_cons, ih (List.cons_ne_nil next rest) fun p hp => h p (List.mem_cons_of_mem _ hp),
        append_isPlainName hpart, within_append_isPlainName hpart, joinTexts]
      simp only [String.append_assoc]

theorem components_foldl_append {parts : List String}
    (h : ∀ part ∈ parts, isPlainName part = true) :
    components (parts.foldl append dir) = components dir ++ parts := by
  induction parts generalizing dir with
  | nil => exact (List.append_nil _).symm
  | cons part rest ih =>
    rw [List.foldl_cons, ih fun p hp => h p (List.mem_cons_of_mem _ hp),
      components_append_isPlainName (h part List.mem_cons_self), List.append_assoc,
      List.singleton_append]

/-! ### The directory above -/

/-- Whether a path ends in a name. -/
def EndsInName (path : String) : Prop :=
  ∃ front name, segments path = front ++ [name] ∧ isIdle name = false

theorem endsInName_append (h : isPlainName part = true) : EndsInName (append dir part) := by
  have hsegments := segments_of_isSegment (isSegment_of_isPlainName h)
  rw [append_isPlainName h]
  rcases within_cases dir with ⟨-, hwithin⟩ | ⟨front, hwithin, -⟩
  · exact ⟨[], part, by rw [hwithin, String.empty_append, hsegments, List.nil_append],
      isIdle_of_isPlainName h⟩
  · exact ⟨segments front, part, by rw [hwithin, segments_slash, hsegments],
      isIdle_of_isPlainName h⟩

theorem EndsInName.foldl_append {parts : List String} (hdir : EndsInName dir)
    (h : ∀ part ∈ parts, isPlainName part = true) : EndsInName (parts.foldl append dir) := by
  induction parts generalizing dir with
  | nil => exact hdir
  | cons part rest ih =>
    rw [List.foldl_cons]
    exact ih (endsInName_append (h part List.mem_cons_self)) fun s hs =>
      h s (List.mem_cons_of_mem _ hs)

theorem EndsInName.ne_empty (h : EndsInName path) : path ≠ "" := by
  rintro rfl
  obtain ⟨front, name, hsegments, hidle⟩ := h
  have hlast := congrArg List.getLast? hsegments
  rw [List.getLast?_concat] at hlast
  obtain rfl : "" = name := Option.some_inj.1 hlast
  cases hidle

theorem EndsInName.getLast?_ne (h : EndsInName path) : path.toList.getLast? ≠ some '/' := by
  obtain ⟨front, name, hsegments, hidle⟩ := h
  refine getLast?_ne_slash fun hlast => ?_
  rw [hsegments, List.getLast?_concat] at hlast
  cases hlast
  cases hidle

theorem EndsInName.within_eq (h : EndsInName path) : within path = path ++ "/" := by
  rw [within, if_neg h.ne_empty, if_neg h.getLast?_ne]

theorem dropIdle_cons {s : String} {rest : List String} (h : isIdle s = false) :
    dropIdle (s :: rest) = s :: rest := by
  cases rest with
  | nil =>
    rw [isIdle, Bool.or_eq_false_iff] at h
    rw [dropIdle, h.1, if_neg Bool.false_ne_true]
  | cons t rest =>
    rw [dropIdle, h, if_neg Bool.false_ne_true]
    exact List.cons_ne_nil t rest

theorem segments_of_isAbsolute (h : isAbsolute path = true) :
    segments path = "" :: (segments path).drop 1 := by
  obtain ⟨rest, hrest⟩ := List.isPrefixOf_iff_prefix.1 h
  have hpath : path = "" ++ "/" ++ String.ofList rest := by
    apply String.toList_injective
    simp [← hrest]
  have hempty : segments "" = [""] := by decide
  rw [hpath, segments_slash, hempty]
  rfl

theorem parent_append (hdir : EndsInName dir) (hpart : isPlainName part = true) :
    parent (append dir part) = dir := by
  have hidle := isIdle_of_isPlainName hpart
  have hjoined := joinTexts_segments dir
  have habsolute : isAbsolute (dir ++ "/" ++ part) = isAbsolute dir := by
    rw [String.append_assoc, isAbsolute_append hdir.ne_empty]
  rw [append_isPlainName hpart, hdir.within_eq, parent, body, habsolute, segments_slash,
    segments_of_isSegment (isSegment_of_isPlainName hpart)]
  obtain ⟨front, name, hsegments, hname⟩ := hdir
  -- The name is taken away, and what is left ends in a name again.
  have hreverse (front : List String) :
      (front ++ [name] ++ [part]).reverse = part :: name :: front.reverse := by simp
  have hback (front : List String) : (name :: front.reverse).reverse = front ++ [name] := by simp
  cases hroot : isAbsolute dir with
  | false =>
    rw [hsegments] at hjoined ⊢
    simp only [Bool.false_eq_true, if_false, hreverse, dropIdle_cons hidle, dropIdle_cons hname, hback]
    exact hjoined
  | true =>
    have hfront := segments_of_isAbsolute hroot
    rw [hsegments] at hjoined hfront ⊢
    cases front with
    | nil =>
      obtain ⟨rfl, -⟩ := List.cons.inj hfront
      cases hname
    | cons s front =>
      obtain ⟨rfl, -⟩ := List.cons.inj hfront
      simp only [if_true, List.cons_append, List.drop_succ_cons, List.drop_zero, hreverse,
        List.dropWhile_cons, hidle, hname, Bool.false_eq_true, if_false, hback]
      rw [← hjoined]
      cases front <;> rfl

end Path

end ConnectorCatalog
