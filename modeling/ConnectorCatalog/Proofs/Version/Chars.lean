import ConnectorCatalog.Proofs.Except
import ConnectorCatalog.Version.Release

/-!
# The characters of versions

A reader of versions takes letters, digits and the marks between them off the front of a text.  So a
text that is read to its end consists of those (`isVersionChar_of_parseChars`).
-/

namespace ConnectorCatalog

namespace Version

/-- The characters that versions are written with: those of identifiers, and the marks between
them. -/
def isVersionChar (c : Char) : Bool := isIdentifierChar c || c == '.' || c == '+'

/-- A text from which characters of versions have been taken off the front. -/
def LeavesOf (cs rest : List Char) : Prop :=
  ∃ taken, cs = taken ++ rest ∧ ∀ c ∈ taken, isVersionChar c = true

variable {cs more rest : List Char} {part before last : Part}

theorem LeavesOf.refl : LeavesOf cs cs := ⟨[], rfl, by simp⟩

theorem LeavesOf.trans (h : LeavesOf cs more) (h' : LeavesOf more rest) : LeavesOf cs rest := by
  obtain ⟨taken, rfl, htaken⟩ := h
  obtain ⟨taken', rfl, htaken'⟩ := h'
  exact ⟨taken ++ taken', (List.append_assoc ..).symm, List.forall_mem_append.2 ⟨htaken, htaken'⟩⟩

theorem LeavesOf.cons {c : Char} (hc : isVersionChar c = true) (h : LeavesOf cs rest) :
    LeavesOf (c :: cs) rest :=
  LeavesOf.trans ⟨[c], rfl, by simpa using hc⟩ h

theorem leavesOf_dropWhile {p : Char → Bool} (hp : ∀ c, p c = true → isVersionChar c = true) :
    LeavesOf cs (cs.dropWhile p) :=
  ⟨cs.takeWhile p, List.takeWhile_append_dropWhile.symm,
    fun c hc => hp c (List.all_eq_true.1 List.all_takeWhile c hc)⟩

theorem isVersionChar_of_isDigit {c : Char} (h : isDigit c = true) : isVersionChar c = true := by
  simp [isVersionChar, isIdentifierChar, h]

/-! ### What each reader takes -/

theorem leavesOf_readNumber {n : Nat} (h : readNumber part cs = .ok (n, rest)) :
    LeavesOf cs rest := by
  have hrest : cs.dropWhile isDigit = rest := by
    simp only [readNumber] at h
    split at h
    · cases h
    · cases h
    · cases h
    · split at h <;> cases h
      rfl
  exact hrest ▸ leavesOf_dropWhile fun _ => isVersionChar_of_isDigit

theorem leavesOf_readDot (h : readDot part cs = .ok rest) : LeavesOf cs rest := by
  unfold readDot at h
  split at h
  · cases h
    exact LeavesOf.refl.cons (by decide)
  · cases h
  · cases h

theorem leavesOf_readIdentifiers {identifiers : List String}
    (h : readIdentifiers part cs = .ok (identifiers, rest)) : LeavesOf cs rest := by
  have hrest : cs.dropWhile (fun c => isIdentifierChar c || c == '.') = rest := by
    simp only [readIdentifiers] at h
    split at h <;> cases h
    rfl
  refine hrest ▸ leavesOf_dropWhile fun c hc => ?_
  rw [isVersionChar, hc]
  rfl

theorem leavesOf_readMarked {mark : Char} (hmark : isVersionChar mark = true)
    {identifiers : List String} (h : readMarked mark part before cs = .ok (identifiers, rest, last)) :
    LeavesOf cs rest := by
  unfold readMarked at h
  split at h
  · split at h
    · rename_i heq
      obtain ⟨⟨read, left⟩, hread, hleft⟩ := Except.bind_eq_ok.1 h
      cases hleft
      exact (leavesOf_readIdentifiers hread).cons (heq ▸ hmark)
    · cases h
      exact LeavesOf.refl
  · cases h
    exact LeavesOf.refl

/-- **A text that is a version consists of characters of versions.** -/
theorem isVersionChar_of_parseChars {version : Version} (h : parseChars cs = .ok version) :
    ∀ c ∈ cs, isVersionChar c = true := by
  unfold parseChars at h
  split at h
  · cases h
  · obtain ⟨⟨_, cs₁⟩, hmajor, h⟩ := Except.bind_eq_ok.1 h
    obtain ⟨cs₂, hdot, h⟩ := Except.bind_eq_ok.1 h
    obtain ⟨⟨_, cs₃⟩, hminor, h⟩ := Except.bind_eq_ok.1 h
    obtain ⟨cs₄, hdot', h⟩ := Except.bind_eq_ok.1 h
    obtain ⟨⟨_, cs₅⟩, hpatch, h⟩ := Except.bind_eq_ok.1 h
    obtain ⟨⟨_, cs₆, _⟩, hpre, h⟩ := Except.bind_eq_ok.1 h
    obtain ⟨⟨_, cs₇, _⟩, hbuild, h⟩ := Except.bind_eq_ok.1 h
    have hleaves : LeavesOf cs cs₇ :=
      (leavesOf_readNumber hmajor).trans <| (leavesOf_readDot hdot).trans <|
        (leavesOf_readNumber hminor).trans <| (leavesOf_readDot hdot').trans <|
        (leavesOf_readNumber hpatch).trans <| (leavesOf_readMarked (by decide) hpre).trans <|
        leavesOf_readMarked (by decide) hbuild
    cases cs₇ with
    | nil =>
      obtain ⟨taken, rfl, htaken⟩ := hleaves
      simpa using htaken
    | cons c rest => cases h

end Version

namespace ReleaseVersion

variable {text : String} {version : Version}

/-- The name of a release is a semantic version behind the letter `v`. -/
theorem parse_eq_ok (h : parse text = .ok version) :
    ∃ rest, text.toList = 'v' :: rest ∧ Version.parseChars rest = .ok version := by
  unfold parse at h
  split at h
  · rename_i rest htext
    split at h
    · rename_i v hparse
      cases h
      exact ⟨rest, htext, hparse⟩
    · cases h
  · cases h

/-- **The name of a release consists of characters of versions.** -/
theorem isVersionChar_of_parse (h : parse text = .ok version) :
    ∀ c ∈ text.toList, Version.isVersionChar c = true := by
  obtain ⟨rest, htext, hparse⟩ := parse_eq_ok h
  rw [htext]
  exact List.forall_mem_cons.2 ⟨by decide, Version.isVersionChar_of_parseChars hparse⟩

end ReleaseVersion

end ConnectorCatalog
