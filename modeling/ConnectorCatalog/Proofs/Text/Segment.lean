import Mathlib.Data.List.Basic
import ConnectorCatalog.Text.Segment

/-!
# Texts cut at a separator, lemmas

The pieces of a text hold no separator, and a text put together from such pieces is cut into them
again (`pieces_join`, `segments_slash`, `segments_joinTexts`).  A text is known by its segments
(`segments_injective`, `joinTexts_segments`).
-/

namespace ConnectorCatalog

namespace Text

variable {sep : Char} {p cs : List Char}

/-! ### Lists of characters -/

theorem not_mem_of_mem_pieces (h : p ∈ pieces sep cs) : sep ∉ p := by
  induction cs generalizing p with
  | nil => simp_all [pieces]
  | cons c cs ih =>
    simp only [pieces] at h
    split at h
    · rcases List.mem_cons.1 h with rfl | h
      · simp
      · exact ih h
    · rename_i hc
      cases hp : pieces sep cs with
      | nil => exact absurd hp (pieces_ne_nil sep cs)
      | cons q qs =>
        rw [hp] at h ih
        rcases List.mem_cons.1 h with rfl | h
        · have := ih List.mem_cons_self
          simp [this, Ne.symm hc]
        · exact ih (List.mem_cons_of_mem _ h)

theorem mem_of_mem_pieces (h : p ∈ pieces sep cs) {c : Char} (hc : c ∈ p) : c ∈ cs := by
  induction cs generalizing p with
  | nil =>
    obtain rfl := List.mem_singleton.1 h
    exact hc
  | cons d cs ih =>
    obtain ⟨q, qs, hq⟩ := List.exists_cons_of_ne_nil (pieces_ne_nil sep cs)
    rw [pieces, hq] at h
    rw [hq] at ih
    split at h
    · rcases List.mem_cons.1 h with rfl | h
      · cases hc
      · exact List.mem_cons_of_mem _ (ih h hc)
    · rcases List.mem_cons.1 h with rfl | h
      · rcases List.mem_cons.1 hc with rfl | hc
        · exact List.mem_cons_self
        · exact List.mem_cons_of_mem _ (ih List.mem_cons_self hc)
      · exact List.mem_cons_of_mem _ (ih (List.mem_cons_of_mem _ h) hc)

theorem pieces_of_not_mem (h : sep ∉ cs) : pieces sep cs = [cs] := by
  induction cs with
  | nil => rfl
  | cons c cs ih =>
    rw [List.mem_cons, not_or] at h
    obtain ⟨hc, hcs⟩ := h
    simp [pieces, Ne.symm hc, ih hcs]

theorem length_pieces (sep : Char) (cs : List Char) :
    (pieces sep cs).length = cs.count sep + 1 := by
  induction cs with
  | nil => rfl
  | cons c cs ih =>
    obtain ⟨p, ps, hpieces⟩ := List.exists_cons_of_ne_nil (pieces_ne_nil sep cs)
    rw [hpieces, List.length_cons] at ih
    rw [pieces, List.count_cons]
    split
    · rename_i hsep
      rw [hsep, hpieces, List.length_cons, List.length_cons, ih, beq_self_eq_true, if_pos rfl]
    · rename_i hne
      rw [hpieces, List.length_cons, ih, beq_eq_false_iff_ne.2 hne, if_neg Bool.false_ne_true]

/-- A text cut at a separator is cut on either side of it. -/
theorem pieces_append (p cs : List Char) :
    pieces sep (p ++ sep :: cs) = pieces sep p ++ pieces sep cs := by
  induction p with
  | nil => simp [pieces]
  | cons c p ih =>
    rw [List.cons_append, pieces, pieces, ih]
    by_cases hc : c = sep
    · rw [if_pos hc, if_pos hc, List.cons_append]
    · obtain ⟨q, qs, hq⟩ := List.exists_cons_of_ne_nil (pieces_ne_nil sep p)
      rw [if_neg hc, if_neg hc, hq]
      rfl

/-- Pieces that are joined are cut apart again. -/
theorem pieces_join {parts : List (List Char)} (hne : parts ≠ []) (h : ∀ p ∈ parts, sep ∉ p) :
    pieces sep (join sep parts) = parts := by
  induction parts with
  | nil => exact absurd rfl hne
  | cons p rest ih =>
    obtain ⟨hp, hrest⟩ := List.forall_mem_cons.1 h
    cases rest with
    | nil => exact pieces_of_not_mem hp
    | cons q rest =>
      rw [join, pieces_append, pieces_of_not_mem hp, ih (List.cons_ne_nil q rest) hrest,
        List.singleton_append]

theorem join_concat {parts : List (List Char)} (hne : parts ≠ []) (p : List Char) :
    join sep (parts ++ [p]) = join sep parts ++ sep :: p := by
  induction parts with
  | nil => exact absurd rfl hne
  | cons q rest ih =>
    cases rest with
    | nil => rfl
    | cons r rest =>
      have hrest := ih (List.cons_ne_nil r rest)
      simp only [List.cons_append, join] at hrest ⊢
      rw [hrest, List.append_assoc, List.cons_append]

theorem filter_join {parts : List (List Char)} (h : ∀ p ∈ parts, sep ∉ p) :
    (join sep parts).filter (· ≠ sep) = parts.flatten := by
  have hself {p : List Char} (hp : sep ∉ p) : p.filter (· ≠ sep) = p :=
    List.filter_eq_self.2 fun c hc => decide_eq_true fun heq => hp (heq ▸ hc)
  induction parts with
  | nil => rfl
  | cons p rest ih =>
    obtain ⟨hp, hrest⟩ := List.forall_mem_cons.1 h
    cases rest with
    | nil => rw [join, hself hp, List.flatten_singleton]
    | cons q rest =>
      rw [join, List.filter_append, hself hp, List.filter_cons_of_neg (by simp), ih hrest]
      rfl

/-! ### Texts -/

/-- A text without a slash. -/
def IsSegment (s : String) : Prop := '/' ∉ s.toList

instance (s : String) : Decidable (IsSegment s) := inferInstanceAs (Decidable (¬ _))

theorem IsSegment.getLast?_ne {s : String} (h : IsSegment s) : s.toList.getLast? ≠ some '/' :=
  fun hlast => h (List.mem_of_getLast? hlast)

theorem getLast?_append_ne {s t : String} {c : Char} (hne : t ≠ "")
    (h : t.toList.getLast? ≠ some c) : (s ++ t).toList.getLast? ≠ some c := by
  have hchars : t.toList ≠ [] := fun hnil => hne (String.toList_injective hnil)
  rwa [String.toList_append, List.getLast?_append_of_ne_nil _ hchars]

theorem isSegment_of_mem_segments {s text : String} (h : s ∈ segments text) : IsSegment s := by
  obtain ⟨p, hp, rfl⟩ := List.mem_map.1 h
  simpa [IsSegment] using not_mem_of_mem_pieces hp

theorem mem_of_mem_segments {s text : String} (h : s ∈ segments text) {c : Char}
    (hc : c ∈ s.toList) : c ∈ text.toList := by
  obtain ⟨p, hp, rfl⟩ := List.mem_map.1 h
  exact mem_of_mem_pieces hp (by simpa using hc)

theorem segments_of_isSegment {s : String} (h : IsSegment s) : segments s = [s] := by
  simp [segments, cut, pieces_of_not_mem h]

theorem segments_ne_nil (s : String) : segments s ≠ [] := by
  simpa [segments, cut] using pieces_ne_nil '/' s.toList

theorem length_segments (s : String) : (segments s).length = s.toList.count '/' + 1 := by
  rw [segments, cut, List.length_map, length_pieces]

theorem segments_slash (front rest : String) :
    segments (front ++ "/" ++ rest) = segments front ++ segments rest := by
  have hcut : (front ++ "/" ++ rest).toList = front.toList ++ '/' :: rest.toList := by simp
  simp [segments, cut, hcut, pieces_append]

theorem getLast?_ne_slash {s : String} (h : (segments s).getLast? ≠ some "") :
    s.toList.getLast? ≠ some '/' := by
  intro hslash
  obtain ⟨front, hfront⟩ := List.getLast?_eq_some_iff.1 hslash
  have hs : s = String.ofList front ++ "/" ++ "" := by
    apply String.toList_injective
    simp [hfront]
  refine h ?_
  have hempty : segments "" = [""] := by decide
  rw [hs, segments_slash, hempty, List.getLast?_append, List.getLast?_singleton, Option.some_or]

theorem segments_append {s : String} (h : IsSegment s) (rest : String) :
    segments (s ++ "/" ++ rest) = s :: segments rest := by
  rw [segments_slash, segments_of_isSegment h, List.singleton_append]

theorem segments_injective {s t : String} (h : segments s = segments t) : s = t := by
  have hp : pieces '/' s.toList = pieces '/' t.toList :=
    (List.map_inj_right fun _ _ h => by simpa using congrArg String.toList h).1 h
  apply String.toList_injective
  rw [← join_pieces '/' s.toList, hp, join_pieces]

theorem joinTexts_cons {sep s : String} {rest : List String} (hne : rest ≠ []) :
    joinTexts sep (s :: rest) = s ++ sep ++ joinTexts sep rest := by
  obtain ⟨t, rest, rfl⟩ := List.exists_cons_of_ne_nil hne
  rfl

/-- Texts that are joined are cut one by one. -/
theorem segments_joinTexts_eq {parts : List String} (hne : parts ≠ []) :
    segments (joinTexts "/" parts) = parts.flatMap segments := by
  induction parts with
  | nil => exact absurd rfl hne
  | cons s rest ih =>
    cases rest with
    | nil => exact (List.flatMap_singleton segments s).symm
    | cons t rest => rw [joinTexts, segments_slash, ih (List.cons_ne_nil t rest), List.flatMap_cons,
      List.flatMap_cons, List.flatMap_cons]

/-- Segments that are joined are cut apart again. -/
theorem segments_joinTexts {parts : List String} (hne : parts ≠ [])
    (h : ∀ s ∈ parts, IsSegment s) : segments (joinTexts "/" parts) = parts := by
  have hself : ∀ s ∈ parts, segments s = [s] := fun s hs => segments_of_isSegment (h s hs)
  rw [segments_joinTexts_eq hne, List.flatMap_def, List.map_congr_left hself, ← List.flatMap_def,
    List.flatMap_singleton']

theorem joinTexts_segments (s : String) : joinTexts "/" (segments s) = s := by
  exact segments_injective (segments_joinTexts (segments_ne_nil s) fun _ => isSegment_of_mem_segments)

/-- What is left of a text is what stands behind its beginning. -/
theorem stripStart?_eq_some {start s rest : String} :
    stripStart? start s = some rest ↔ s = start ++ rest := by
  simp only [stripStart?, Option.map_eq_some_iff, List.isPrefixOf?_eq_some_iff_append_eq]
  constructor
  · rintro ⟨cs, hcs, rfl⟩
    apply String.toList_injective
    rw [← hcs, String.toList_append, String.toList_ofList]
  · rintro rfl
    exact ⟨rest.toList, String.toList_append.symm, String.ofList_toList⟩

theorem mem_joinTexts {parts : List String} {c : Char} (h : c ∈ (joinTexts "/" parts).toList) :
    c = '/' ∨ ∃ s ∈ parts, c ∈ s.toList := by
  induction parts with
  | nil => cases h
  | cons s rest ih =>
    cases rest with
    | nil => exact .inr ⟨s, List.mem_cons_self, h⟩
    | cons t rest =>
      rw [joinTexts, String.toList_append, String.toList_append, List.mem_append,
        List.mem_append] at h
      rcases h with (hs | hslash) | hrest
      · exact .inr ⟨s, List.mem_cons_self, hs⟩
      · exact .inl (List.mem_singleton.1 hslash)
      · exact (ih hrest).imp_right fun ⟨u, hu, hc⟩ => ⟨u, List.mem_cons_of_mem _ hu, hc⟩

end Text

end ConnectorCatalog
