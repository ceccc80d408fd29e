import Mathlib.Data.List.TakeWhile
import ConnectorCatalog.Text.Blank

/-!
# Trimmed texts

A text that is trimmed ends in a character that is not blank, unless nothing is left of it
(`isAllBlank_trim`).  Nothing is left exactly of texts that are blank (`trim_eq_empty_iff`).
-/

namespace ConnectorCatalog.Text

theorem exists_not_blank_of_trimChars {cs : List Char} (h : trimChars cs ≠ []) :
    ∃ c ∈ trimChars cs, isBlank c = false := by
  have hdrop : (cs.dropWhile isBlank).reverse.dropWhile isBlank ≠ [] := by
    intro hnil
    exact h (by rw [trimChars, hnil, List.reverse_nil])
  exact ⟨_, List.mem_reverse.2 (List.head_mem hdrop), List.head_dropWhile_not isBlank hdrop⟩

theorem isAllBlank_trim {s : String} (h : trim s ≠ "") : isAllBlank (trim s) = false := by
  have hne : trimChars s.toList ≠ [] := by
    intro hnil
    exact h (by rw [trim, hnil])
  obtain ⟨c, hc, hblank⟩ := exists_not_blank_of_trimChars hne
  rw [isAllBlank, trim, String.toList_ofList, List.all_eq_false]
  exact ⟨c, hc, by simp [hblank]⟩

theorem trim_eq_empty_iff {s : String} : trim s = "" ↔ isAllBlank s = true := by
  constructor
  · intro h
    have hnil : trimChars s.toList = [] := String.ofList_inj.1 h
    rw [trimChars, List.reverse_eq_nil_iff, List.dropWhile_eq_nil_iff] at hnil
    simp only [List.mem_reverse] at hnil
    rw [isAllBlank, ← List.takeWhile_append_dropWhile (p := isBlank) (l := s.toList),
      List.all_append, List.all_takeWhile, Bool.true_and, List.all_eq_true]
    exact hnil
  · intro h
    have hnil : s.toList.dropWhile isBlank = [] :=
      List.dropWhile_eq_nil_iff.2 (List.all_eq_true.1 h)
    rw [trim, trimChars, hnil]
    rfl

end ConnectorCatalog.Text
