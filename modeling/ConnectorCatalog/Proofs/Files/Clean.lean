import ConnectorCatalog.Proofs.Files.Path

/-!
# Cleaned paths

Cleaning a path keeps some of its segments, which are plain names (`isPlainName_of_clean`).  Joined,
they make up a path that stays where it is looked up (`Path.IsConfined`), as do all plain names.
-/

namespace ConnectorCatalog

open Text

namespace Path

variable {path dir name : String} {names kept segs : List String}

/-! ### Cleaning -/

theorem mem_of_cancel (h : cancel kept segs = some names) (hname : name ∈ names) :
    name ∈ kept ∨ name ∈ segs ∧ isIdle name = false ∧ name ≠ ".." := by
  fun_induction cancel kept segs with
  | case1 kept =>
    cases h
    exact .inl hname
  | case2 kept s rest hidle ih =>
    exact (ih h).imp_right (And.imp_left (List.mem_cons_of_mem s))
  | case3 s rest hidle hclimb => cases h
  | case4 s rest hidle hclimb top kept ih =>
    exact (ih h).imp (List.mem_cons_of_mem top) (And.imp_left (List.mem_cons_of_mem s))
  | case5 kept s rest hidle hclimb ih =>
    rcases ih h with hkept | hrest
    · rcases List.mem_cons.1 hkept with rfl | hkept
      · exact .inr ⟨List.mem_cons_self, Bool.not_eq_true _ ▸ hidle, by simpa using hclimb⟩
      · exact .inl hkept
    · exact .inr (hrest.imp_left (List.mem_cons_of_mem s))

theorem mem_of_clean (h : clean path = .ok names) (hname : name ∈ names) :
    name ∈ segments path ∧ isIdle name = false ∧ name ≠ ".." := by
  unfold clean at h
  split at h
  · cases h
  · split at h
    · rename_i cancelled hcancel
      cases h
      exact (mem_of_cancel hcancel (List.mem_reverse.1 hname)).resolve_left List.not_mem_nil
    · cases h

/-- **A cleaned path consists of plain names.** -/
theorem isPlainName_of_clean (h : clean path = .ok names) (hname : name ∈ names) :
    isPlainName name = true := by
  obtain ⟨hseg, hidle, hclimb⟩ := mem_of_clean h hname
  rw [isIdle, Bool.or_eq_false_iff, beq_eq_false_iff_ne, beq_eq_false_iff_ne] at hidle
  exact isPlainName_iff.2 ⟨hidle.1, isSegment_of_mem_segments hseg, hidle.2, hclimb⟩

/-! ### Directories -/

theorem mem_append {c : Char} (h : c ∈ (append dir path).toList) :
    c = '/' ∨ c ∈ dir.toList ∨ c ∈ path.toList := by
  unfold append at h
  split at h
  · exact .inr (.inr h)
  · split at h
    · exact .inr (.inr h)
    · split at h
      · rw [String.toList_append, List.mem_append] at h
        exact .inr h
      · rw [String.toList_append, String.toList_append, List.mem_append, List.mem_append] at h
        rcases h with (hdir | hslash) | hpath
        · exact .inr (.inl hdir)
        · exact .inl (List.mem_singleton.1 hslash)
        · exact .inr (.inr hpath)

theorem sublist_dropIdle (segs : List String) : (dropIdle segs).Sublist segs := by
  fun_induction dropIdle segs with
  | case1 => exact .slnil
  | case2 s hempty => exact List.nil_sublist _
  | case3 s hne => exact .refl _
  | case4 s rest hrest hidle ih => exact ih.cons s
  | case5 s rest hrest hidle => exact .refl _

theorem mem_parent {c : Char} (h : c ∈ (parent path).toList) : c = '/' ∨ c ∈ path.toList := by
  have hjoined {parts : List String} (hparts : ∀ s ∈ parts, s ∈ segments path)
      (hc : c ∈ (joinTexts "/" parts).toList) : c = '/' ∨ c ∈ path.toList := by
    refine (mem_joinTexts hc).imp_right ?_
    rintro ⟨s, hs, hc⟩
    exact mem_of_mem_segments (hparts s hs) hc
  have hbody : ∀ s ∈ (body path).reverse, s ∈ segments path := by
    intro s hs
    rw [List.mem_reverse, body] at hs
    split at hs
    · exact List.mem_of_mem_drop hs
    · exact hs
  -- Idle segments are dropped at the end, then the last name, then idle segments again.
  have hkept {drop : List String → List String} (hdrop : ∀ segs, (drop segs).Sublist segs)
      {last : String} {rest : List String} (hrest : drop (body path).reverse = last :: rest) :
      ∀ s ∈ (drop rest).reverse, s ∈ segments path := by
    intro s hs
    have hs : s ∈ rest := (hdrop rest).subset (List.mem_reverse.1 hs)
    exact hbody s ((hdrop _).subset (hrest ▸ List.mem_cons_of_mem last hs))
  unfold parent at h
  split at h
  · dsimp only at h
    split at h
    · cases h
    · rename_i last rest hrest
      rw [String.toList_append, List.mem_append] at h
      rcases h with hslash | hc
      · exact .inl (List.mem_singleton.1 hslash)
      · exact hjoined (hkept (fun _ => List.dropWhile_sublist _) hrest) hc
  · dsimp only at h
    split at h
    · cases h
    · rename_i last rest hrest
      exact hjoined (hkept sublist_dropIdle hrest) h

/-! ### Confinement -/

/-- A segment that names nothing, or what is above. -/
def IsDetour (segment : String) : Prop := segment = "" ∨ segment = "." ∨ segment = ".."

instance {segment : String} : Decidable (IsDetour segment) :=
  inferInstanceAs (Decidable (_ ∨ _ ∨ _))

/-- A path that stays in the directory where it is looked up, without detours. -/
def IsConfined (path : String) : Prop :=
  isAbsolute path = false ∧ (path = "" ∨ ∀ s ∈ segments path, ¬IsDetour s)

instance : Decidable (IsConfined path) :=
  inferInstanceAs (Decidable (_ ∧ (_ ∨ ∀ _ ∈ _, _)))

theorem not_isDetour_of_isPlainName (h : isPlainName name = true) : ¬IsDetour name := by
  obtain ⟨hempty, -, hdot, hclimb⟩ := isPlainName_iff.1 h
  exact not_or.2 ⟨hempty, not_or.2 ⟨hdot, hclimb⟩⟩

theorem empty_mem_segments (h : isAbsolute path = true) : "" ∈ segments path := by
  rw [segments_of_isAbsolute h]
  exact List.mem_cons_self

theorem isConfined_iff (hne : path ≠ "") :
    IsConfined path ↔ ∀ s ∈ segments path, ¬IsDetour s := by
  constructor
  · rintro ⟨-, h⟩
    exact h.resolve_left hne
  · intro h
    refine ⟨?_, .inr h⟩
    rw [← Bool.not_eq_true]
    exact fun habsolute => h "" (empty_mem_segments habsolute) (.inl rfl)

end Path

end ConnectorCatalog
