import ConnectorCatalog.Proofs.Except
import ConnectorCatalog.Proofs.Text.Segment
import ConnectorCatalog.Proofs.Version.Chars
import ConnectorCatalog.Proofs.Version.Numbers

/-!
# The spelling of versions

A version has one spelling: what is read as a version is what is written for it
(`toText_of_parse`).  So no two texts are read as one version (`ReleaseVersion.parse_injective`).

The identifiers that are read are not empty, and a pre-release identifier of digits is a numeral
(`IsIdentifier`).
-/

namespace ConnectorCatalog

open Text

namespace Version

/-- An identifier as it is read.  Only in build metadata zeros may stand in front. -/
structure IsIdentifier (part : Part) (identifier : String) : Prop where
  nonempty : identifier.toList ≠ []
  numeral : part = .pre → AreDigits identifier.toList → IsNumeral identifier.toList

variable {cs rest : List Char} {part before last : Part} {v : Version}

/-! ### What each reader takes -/

theorem eq_of_readNumber {n : Nat} (h : readNumber part cs = .ok (n, rest)) :
    cs = Nat.toDigits 10 n ++ rest := by
  have hsplit := List.takeWhile_append_dropWhile (p := isDigit) (l := cs)
  have hdigits : AreDigits (cs.takeWhile isDigit) := List.all_takeWhile
  simp only [readNumber] at h
  split at h
  · cases h
  · cases h
  · cases h
  · rename_i hzero hend hother
    split at h <;> cases h
    have hnumeral : IsNumeral (cs.takeWhile isDigit) := by
      refine ⟨hdigits, fun hnil => ?_, fun hhead => ?_⟩
      · cases hrest : cs.dropWhile isDigit with
        | nil => exact hend hnil hrest
        | cons c rest => exact hother c rest hnil hrest
      · obtain ⟨more, hmore⟩ := List.head?_eq_some_iff.1 hhead
        cases more with
        | nil => exact hmore
        | cons c more => exact (hzero c more hmore).elim
    rw [hnumeral.toDigits_decimal, hsplit]

theorem eq_of_readDot (h : readDot part cs = .ok rest) : cs = '.' :: rest := by
  unfold readDot at h
  split at h <;> cases h
  rfl

theorem toList_joinTexts_dot (ps : List (List Char)) :
    (joinTexts "." (ps.map String.ofList)).toList = join '.' ps := by
  fun_induction join '.' ps with
  | case1 => rfl
  | case2 p => exact String.toList_ofList
  | case3 p q ps ih =>
    rw [List.map_cons] at ih
    simp [joinTexts, ih]

theorem isIdentifier_of_identifierFault? {identifiers : List (List Char)}
    (h : identifierFault? part identifiers = none) :
    ∀ s ∈ identifiers.map String.ofList, IsIdentifier part s := by
  fun_induction identifierFault? part identifiers with
  | case1 => simp
  | case2 => cases h
  | case3 => cases h
  | case4 c cs more hzero ih =>
    refine List.forall_mem_cons.2 ⟨⟨by simp, ?_⟩, ih h⟩
    rw [String.toList_ofList]
    refine fun hpart hdigits => ⟨hdigits, List.cons_ne_nil c cs, fun hhead => ?_⟩
    obtain rfl := Option.some_inj.1 hhead
    have hcs : cs = [] := by_contra fun hcs => hzero ⟨hpart, hdigits, hcs, rfl⟩
    rw [hcs]

theorem eq_of_readIdentifiers {identifiers : List String}
    (h : readIdentifiers part cs = .ok (identifiers, rest)) : identifiers ≠ [] ∧
      cs = (joinTexts "." identifiers).toList ++ rest ∧ ∀ s ∈ identifiers, IsIdentifier part s := by
  simp only [readIdentifiers] at h
  split at h
  · cases h
  · rename_i hfault
    cases h
    refine ⟨fun hnil => pieces_ne_nil _ _ (List.map_eq_nil_iff.1 hnil), ?_,
      isIdentifier_of_identifierFault? hfault⟩
    rw [toList_joinTexts_dot, join_pieces, List.takeWhile_append_dropWhile]

theorem eq_of_readMarked {mark : Char} {identifiers : List String}
    (h : readMarked mark part before cs = .ok (identifiers, rest, last)) :
    cs = (markedText (String.singleton mark) identifiers).toList ++ rest ∧
      ∀ s ∈ identifiers, IsIdentifier part s := by
  unfold readMarked at h
  split at h
  · split at h
    · rename_i hmark
      obtain ⟨⟨read, left⟩, hread, hleft⟩ := Except.bind_eq_ok.1 h
      cases hleft
      obtain ⟨hne, hcs, hidentifiers⟩ := eq_of_readIdentifiers hread
      obtain ⟨first, more, rfl⟩ := List.exists_cons_of_ne_nil hne
      refine ⟨?_, hidentifiers⟩
      rw [markedText, String.toList_append, String.toList_singleton, hmark, hcs]
      · rfl
      · exact List.cons_ne_nil first more
    · cases h
      exact ⟨rfl, by simp⟩
  · cases h
    exact ⟨rfl, by simp⟩

/-! ### One spelling -/

/-- What is read to its end is the text of the version, which is made of identifiers. -/
theorem spelling_of_parseChars (h : parseChars cs = .ok v) : cs = v.toText.toList ∧
    (∀ s ∈ v.pre, IsIdentifier .pre s) ∧ ∀ s ∈ v.build, IsIdentifier .build s := by
  unfold parseChars at h
  split at h
  · cases h
  · obtain ⟨⟨major, cs₁⟩, hmajor, h⟩ := Except.bind_eq_ok.1 h
    obtain ⟨cs₂, hdot, h⟩ := Except.bind_eq_ok.1 h
    obtain ⟨⟨minor, cs₃⟩, hminor, h⟩ := Except.bind_eq_ok.1 h
    obtain ⟨cs₄, hdot', h⟩ := Except.bind_eq_ok.1 h
    obtain ⟨⟨patch, cs₅⟩, hpatch, h⟩ := Except.bind_eq_ok.1 h
    obtain ⟨⟨pre, cs₆, part⟩, hpre, h⟩ := Except.bind_eq_ok.1 h
    obtain ⟨⟨build, cs₇, part'⟩, hbuild, h⟩ := Except.bind_eq_ok.1 h
    cases cs₇ with
    | cons c rest => cases h
    | nil =>
      cases h
      obtain ⟨hpretext, hpreids⟩ := eq_of_readMarked hpre
      obtain ⟨hbuildtext, hbuildids⟩ := eq_of_readMarked hbuild
      refine ⟨?_, hpreids, hbuildids⟩
      have hpremark : markedText (String.singleton '-') pre = markedText "-" pre := rfl
      have hbuildmark : markedText (String.singleton '+') build = markedText "+" build := rfl
      rw [hpremark] at hpretext
      rw [hbuildmark] at hbuildtext
      simp only [toText, String.toList_append, Nat.toString_eq_ofList_toDigits, String.toList_ofList,
        List.append_assoc]
      rw [eq_of_readNumber hmajor, eq_of_readDot hdot, eq_of_readNumber hminor, eq_of_readDot hdot',
        eq_of_readNumber hpatch, hpretext, hbuildtext, List.append_nil]
      rfl

/-- **A version is written as it was read.** -/
theorem toText_of_parse {s : String} (h : parse s = .ok v) : v.toText = s :=
  String.toList_injective (spelling_of_parseChars h).1.symm

end Version

namespace ReleaseVersion

variable {a b : String} {v : Version}

theorem eq_of_parse (h : parse a = .ok v) : a = "v" ++ v.toText := by
  obtain ⟨rest, htext, hrest⟩ := parse_eq_ok h
  have hspelling : v.toText = String.ofList rest :=
    Version.toText_of_parse ((congrArg Version.parseChars String.toList_ofList).trans hrest)
  apply String.toList_injective
  simp [htext, hspelling]

/-- **No two texts name one release.** -/
theorem parse_injective (ha : parse a = .ok v) (hb : parse b = .ok v) : a = b := by
  rw [eq_of_parse ha, eq_of_parse hb]

end ReleaseVersion

end ConnectorCatalog
