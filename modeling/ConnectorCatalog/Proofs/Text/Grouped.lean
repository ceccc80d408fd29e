import Mathlib.Data.List.Basic
import Mathlib.Data.List.Induction
import ConnectorCatalog.Proofs.Text.Segment
import ConnectorCatalog.Text.Grouped

/-!
# Numbers in groups of three digits, lemmas

`groupDigits` walks through the digits from the last to the first and counts.  Read from the left
its result is a sequence of groups (`IsGrouping`): three digits each, and up to three in the first.

* `withCommas_append` : three digits more at the end are one group more.
* `join_eq_withCommas` : digits can be grouped in one way only.
* `groupDigits_grouped` : **what is written for a number is the one text that is its numeral without
  the commas, and whose commas stand between such groups.**
-/

namespace ConnectorCatalog.Text

variable {ds front last cs : List Char} {groups : List (List Char)} {a b c : Char}

/-- Groups of three characters behind a first group of one to three. -/
def IsGrouping (groups : List (List Char)) : Prop :=
  ∃ first rest, groups = first :: rest ∧ (1 ≤ first.length ∧ first.length ≤ 3) ∧
    ∀ group ∈ rest, group.length = 3

/-- A text without its commas. -/
def withoutCommas (s : String) : String := String.ofList (s.toList.filter (· ≠ ','))

/-! ### Counting from the right -/

/-- Behind the last digit only the position within a group counts. -/
theorem groupFromRight_add_three (cs : List Char) {i : Nat} (hi : 0 < i) :
    groupFromRight (i + 3) cs = groupFromRight i cs := by
  induction cs generalizing i with
  | nil => rfl
  | cons c cs ih =>
    have hcomma : (0 < i + 3 ∧ (i + 3) % 3 = 0) ↔ (0 < i ∧ i % 3 = 0) := by omega
    have hnext : i + 3 + 1 = i + 1 + 3 := by omega
    simp only [groupFromRight, hcomma, hnext, ih (Nat.succ_pos i)]

theorem groupFromRight_three (hne : cs ≠ []) :
    groupFromRight 0 (a :: b :: c :: cs) = a :: b :: c :: ',' :: groupFromRight 0 cs := by
  cases cs with
  | nil => exact absurd rfl hne
  | cons d cs => simp [groupFromRight, groupFromRight_add_three cs Nat.one_pos]

/-! ### Groups from the left -/

/-- Digits with a comma in front of every third from the right. -/
def withCommas (ds : List Char) : List Char := (groupFromRight 0 ds.reverse).reverse

theorem groupDigits_eq (n : Nat) :
    groupDigits n = String.ofList (withCommas (Nat.toDigits 10 n)) := rfl

theorem withCommas_of_length_le (h : ds.length ≤ 3) : withCommas ds = ds := by
  match ds with
  | [] | [_] | [_, _] | [_, _, _] => rfl
  | _ :: _ :: _ :: _ :: _ =>
    simp only [List.length_cons] at h
    omega

/-- **Three digits more are one group more.** -/
theorem withCommas_append (hfront : front ≠ []) (hlast : last.length = 3) :
    withCommas (front ++ last) = withCommas front ++ ',' :: last := by
  obtain ⟨a, b, c, rfl⟩ := List.length_eq_three.1 hlast
  have hne : front.reverse ≠ [] := by simpa using hfront
  simp [withCommas, groupFromRight_three hne]

theorem exists_grouping (h : ds ≠ []) : ∃ groups, IsGrouping groups ∧ groups.flatten = ds := by
  induction hlength : ds.length using Nat.strongRecOn generalizing ds with
  | ind n ih =>
    have hpos : 0 < ds.length := List.length_pos_iff.2 h
    by_cases hshort : ds.length ≤ 3
    · exact ⟨[ds], ⟨ds, [], rfl, ⟨hpos, hshort⟩, by simp⟩, by simp⟩
    · -- The last three digits are a group, those in front of them are grouped before.
      have hfront : (ds.take (ds.length - 3)).length = ds.length - 3 := by simp
      have hne : ds.take (ds.length - 3) ≠ [] := List.length_pos_iff.1 (by omega)
      obtain ⟨groups, ⟨first, rest, rfl, hfirst, hrest⟩, hflatten⟩ := ih _ (by omega) hne hfront
      have hlast : (ds.drop (ds.length - 3)).length = 3 := by
        rw [List.length_drop]
        omega
      refine ⟨first :: (rest ++ [ds.drop (ds.length - 3)]), ⟨_, _, rfl, hfirst, ?_⟩, ?_⟩
      · rw [List.forall_mem_append]
        exact ⟨hrest, by simpa using hlast⟩
      · rw [← List.cons_append, List.flatten_append, hflatten, List.flatten_singleton,
          List.take_append_drop]

/-- **Groups are written with commas as their digits are.** -/
theorem join_eq_withCommas (h : IsGrouping groups) :
    join ',' groups = withCommas groups.flatten := by
  obtain ⟨first, rest, rfl, ⟨hpos, hfirst⟩, hrest⟩ := h
  -- From the right: the last group is taken off the end.
  induction rest using List.reverseRecOn with
  | nil => rw [join, List.flatten_singleton, withCommas_of_length_le hfirst]
  | append_singleton rest group ih =>
    rw [List.forall_mem_append] at hrest
    have hgroup : group.length = 3 := hrest.2 group (List.mem_singleton.2 rfl)
    have hne : (first :: rest).flatten ≠ [] := by
      rw [List.flatten_cons]
      exact List.append_ne_nil_of_left_ne_nil (List.length_pos_iff.1 hpos) _
    rw [← List.cons_append, join_concat (List.cons_ne_nil _ _), ih hrest.1, List.flatten_append,
      List.flatten_singleton, withCommas_append hne hgroup]

theorem isGrouping_pieces_withCommas (h : ds ≠ []) (hcomma : ',' ∉ ds) :
    IsGrouping (pieces ',' (withCommas ds)) ∧ (withCommas ds).filter (· ≠ ',') = ds := by
  obtain ⟨groups, hgroups, rfl⟩ := exists_grouping h
  have hparts : ∀ group ∈ groups, ',' ∉ group := fun group hgroup hmem =>
    hcomma (List.mem_flatten.2 ⟨group, hgroup, hmem⟩)
  have hne : groups ≠ [] := by
    rintro rfl
    exact h rfl
  rw [← join_eq_withCommas hgroups, pieces_join hne hparts, filter_join hparts]
  exact ⟨hgroups, rfl⟩

theorem IsGrouping.ends_ne_comma (h : IsGrouping (pieces ',' cs)) :
    cs.head? ≠ some ',' ∧ cs.getLast? ≠ some ',' := by
  obtain ⟨first, rest, hpieces, ⟨hpos, -⟩, hrest⟩ := h
  constructor
  · intro hhead
    obtain ⟨more, rfl⟩ := List.head?_eq_some_iff.1 hhead
    rw [pieces, if_pos rfl] at hpieces
    rw [← (List.cons.inj hpieces).1] at hpos
    exact absurd hpos (by simp)
  · intro hlast
    obtain ⟨front, rfl⟩ := List.getLast?_eq_some_iff.1 hlast
    obtain ⟨p, ps, hfront⟩ := List.exists_cons_of_ne_nil (pieces_ne_nil ',' front)
    rw [pieces_append, hfront, List.cons_append, List.cons.injEq] at hpieces
    have hmem : [] ∈ rest := hpieces.2 ▸ List.mem_append_right _ (by simp [pieces])
    exact absurd (hrest [] hmem) (by simp)

/-! ### Numbers -/

theorem eq_groupDigits_iff {s : String} {n : Nat} :
    s = groupDigits n ↔ withoutCommas s = toString n ∧ IsGrouping (pieces ',' s.toList) := by
  have hnumeral : toString n = String.ofList (Nat.toDigits 10 n) := rfl
  have hcomma : ',' ∉ Nat.toDigits 10 n := fun hmem =>
    absurd (Nat.isDigit_of_mem_toDigits (by decide) (by decide) hmem) (by decide)
  rw [groupDigits_eq, hnumeral, withoutCommas, String.ofList_inj]
  constructor
  · rintro rfl
    rw [String.toList_ofList]
    exact (isGrouping_pieces_withCommas Nat.toDigits_ne_nil hcomma).symm
  · rintro ⟨hdigits, hgrouping⟩
    have hparts : ∀ group ∈ pieces ',' s.toList, ',' ∉ group := fun _ => not_mem_of_mem_pieces
    apply String.toList_injective
    rw [String.toList_ofList, ← hdigits, ← join_pieces ',' s.toList, filter_join hparts,
      join_eq_withCommas hgrouping]

theorem groupDigits_injective {m n : Nat} (h : groupDigits m = groupDigits n) : m = n := by
  have hm : withoutCommas (groupDigits m) = toString m := (eq_groupDigits_iff.1 rfl).1
  have hn : withoutCommas (groupDigits m) = toString n := (eq_groupDigits_iff.1 h).1
  have hdigits : Nat.toDigits 10 m = Nat.toDigits 10 n := String.ofList_inj.1 (hm.symm.trans hn)
  rw [← Nat.ofDigitChars_toDigits (b := 10) (n := m) (by decide) (by decide), hdigits,
    Nat.ofDigitChars_toDigits (by decide) (by decide)]

/-- **Numbers are written in groups of three digits.**  Without the commas the numeral is left.  No
comma stands at an end; between commas stand groups of three digits, behind a first group of one to
three.  No other text for the number is like that, and no other number has the same text. -/
theorem groupDigits_grouped (n : Nat) :
    withoutCommas (groupDigits n) = toString n ∧
    ((groupDigits n).toList.head? ≠ some ',' ∧ (groupDigits n).toList.getLast? ≠ some ',') ∧
    IsGrouping (pieces ',' (groupDigits n).toList) ∧
    (∀ s, s = groupDigits n ↔ withoutCommas s = toString n ∧ IsGrouping (pieces ',' s.toList)) ∧
    ∀ m, groupDigits m = groupDigits n ↔ m = n := by
  obtain ⟨hnumeral, hgrouping⟩ := (eq_groupDigits_iff (s := groupDigits n)).1 rfl
  exact ⟨hnumeral, hgrouping.ends_ne_comma, hgrouping, fun s => eq_groupDigits_iff,
    fun m => ⟨groupDigits_injective, congrArg groupDigits⟩⟩

example : groupDigits 1234567 = "1,234,567" ∧ groupDigits 123456 = "123,456" := by decide +kernel

end ConnectorCatalog.Text
