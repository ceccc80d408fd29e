import ConnectorCatalog.Proofs.Preflight.Latest

/-!
# The verdict on a declared latest version

The highest stable release of a list is picked by the versions alone, with their build metadata; a
declaration is held against it by major, minor and patch number.  Since no two texts name one
release, the one that is picked is the last of the stable ones in the order of release identifiers
(`ReleaseVersion.latestStable?_eq_some_iff`).  So **the verdict is known by the declaration and by
which texts of the list name stable releases**: their order, repetitions and all other texts do not
count (`latestFinding?_verdict`).
-/

namespace ConnectorCatalog

open Std Text

namespace ReleaseVersion

/-- A text that names a release without pre-release. -/
def IsStable (text : String) : Prop := ∃ version, parse text = .ok version ∧ version.pre = []

/-- The last of the stable releases in a list, in the order of release identifiers. -/
structure IsLatest (texts : List String) (text : String) (version : Version) : Prop where
  mem : text ∈ texts
  parse_eq : parse text = .ok version
  pre_eq : version.pre = []
  isLE : ∀ other ∈ texts, IsStable other → (compare other text).isLE = true

variable {texts others : List String} {text : String} {version : Version}

theorem isStable_of_mem_stable {release : String × Version} (h : release ∈ stable texts) :
    release.1 ∈ texts ∧ IsStable release.1 := by
  obtain ⟨hmem, hparse, hpre⟩ := mem_stable.1 h
  exact ⟨hmem, release.2, hparse, hpre⟩

theorem stable_eq_nil_iff : stable texts = [] ↔ ∀ text ∈ texts, ¬IsStable text := by
  rw [List.eq_nil_iff_forall_not_mem]
  constructor
  · rintro h text htext ⟨version, hparse, hpre⟩
    exact h (text, version) (mem_stable.2 ⟨htext, hparse, hpre⟩)
  · intro h release hrelease
    obtain ⟨hmem, hstable⟩ := isStable_of_mem_stable hrelease
    exact h release.1 hmem hstable

theorem IsLatest.unique {text' : String} {version' : Version} (h : IsLatest texts text version)
    (h' : IsLatest texts text' version') : text = text' ∧ version = version' := by
  have hle : (compare text text').isLE = true := h'.isLE text h.mem ⟨version, h.parse_eq, h.pre_eq⟩
  have hge : (compare text' text).isLE = true :=
    h.isLE text' h'.mem ⟨version', h'.parse_eq, h'.pre_eq⟩
  obtain rfl : text = text' := LawfulEqCmp.eq_of_compare (OrientedCmp.isLE_antisymm hle hge)
  exact ⟨rfl, Except.ok.inj (h.parse_eq.symm.trans h'.parse_eq)⟩

/-- What is the last release of a list is so of every list with the same stable releases. -/
theorem IsLatest.of_stable (h : IsLatest texts text version)
    (hsame : ∀ text, IsStable text → (text ∈ others ↔ text ∈ texts)) :
    IsLatest others text version where
  mem := (hsame text ⟨version, h.parse_eq, h.pre_eq⟩).2 h.mem
  parse_eq := h.parse_eq
  pre_eq := h.pre_eq
  isLE other hother hstable := h.isLE other ((hsame other hstable).1 hother) hstable

theorem IsLatest.of_latestStable? (h : latestStable? texts = some (text, version)) :
    IsLatest texts text version := by
  obtain ⟨hlatest, hle⟩ := latestStable?_spec h
  obtain ⟨hmem, hparse, hpre⟩ := mem_stable.1 hlatest
  refine ⟨hmem, hparse, hpre, ?_⟩
  rintro other hother ⟨v, hv, hstable⟩
  rw [compare_of_parse hv hparse]
  exact hle (other, v) (mem_stable.2 ⟨hother, hv, hstable⟩)

/-- **The highest stable release is the last one in the order of release identifiers.** -/
theorem latestStable?_eq_some_iff :
    latestStable? texts = some (text, version) ↔ IsLatest texts text version := by
  refine ⟨.of_latestStable?, fun h => ?_⟩
  cases hlatest : latestStable? texts with
  | none =>
    have hnone := stable_eq_nil_iff.1 (latestStable?_eq_none.1 hlatest)
    exact absurd ⟨version, h.parse_eq, h.pre_eq⟩ (hnone text h.mem)
  | some release =>
    obtain ⟨htext, hversion⟩ := (IsLatest.of_latestStable? hlatest).unique h
    rw [← htext, ← hversion]

theorem latestStable?_congr (hsame : ∀ text, IsStable text → (text ∈ others ↔ text ∈ texts)) :
    latestStable? others = latestStable? texts := by
  refine Option.ext fun ⟨text, version⟩ => ?_
  rw [latestStable?_eq_some_iff, latestStable?_eq_some_iff]
  exact ⟨fun h => h.of_stable fun text htext => (hsame text htext).symm, fun h => h.of_stable hsame⟩

end ReleaseVersion

open ReleaseVersion

/-- **The verdict on a declared latest version.**  Nothing is found exactly if no text of the list
names a stable release, or if the declaration is one without pre-release that agrees in major, minor
and patch number with the last of them.  What is found is that the declaration is no release, if it
is none, and otherwise which release is the last.  The verdict is the same for all lists that hold
the same stable releases, in whatever order, however often, and beside whatever other texts. -/
theorem latestFinding?_verdict (declared : String) (texts : List String) :
    (latestFinding? declared texts = none ↔ (∀ text ∈ texts, ¬IsStable text) ∨
      ∃ v text version, ReleaseVersion.parse declared = .ok v ∧ v.pre = [] ∧
        IsLatest texts text version ∧ Version.SameCore v version) ∧
    (∀ finding, latestFinding? declared texts = some finding →
      match ReleaseVersion.parse declared with
      | .error fault => finding = .invalidLatest fault
      | .ok _ => ∃ text version,
        IsLatest texts text version ∧ finding = .otherLatest declared text) ∧
    ∀ others, (∀ text, IsStable text → (text ∈ others ↔ text ∈ texts)) →
      latestFinding? declared others = latestFinding? declared texts := by
  refine ⟨?_, fun finding hfinding => ?_, fun others hsame => ?_⟩
  · rw [latestFinding?_eq_none_iff, latestStable?_eq_none, stable_eq_nil_iff]
    refine or_congr_right ?_
    constructor
    · rintro ⟨⟨text, version⟩, v, hlatest, hparse, hsame⟩
      have hlatest := latestStable?_eq_some_iff.1 hlatest
      obtain ⟨hcore, hpre⟩ := Version.samePrecedence_iff.1 hsame
      exact ⟨v, text, version, hparse, hpre.trans hlatest.pre_eq, hlatest,
        Version.sameCore_iff.2 hcore⟩
    · rintro ⟨v, text, version, hparse, hpre, hlatest, hcore⟩
      exact ⟨(text, version), v, latestStable?_eq_some_iff.2 hlatest, hparse,
        Version.samePrecedence_iff.2 ⟨Version.sameCore_iff.1 hcore, hpre.trans hlatest.pre_eq.symm⟩⟩
  · unfold latestFinding? at hfinding
    cases hlatest : latestStable? texts with
    | none =>
      rw [hlatest] at hfinding
      cases hfinding
    | some release =>
      rw [hlatest] at hfinding
      cases hparse : ReleaseVersion.parse declared with
      | error fault =>
        rw [hparse] at hfinding
        exact (Option.some.inj hfinding).symm
      | ok v =>
        simp only [hparse, Option.ite_none_left_eq_some, Option.some.injEq] at hfinding
        exact ⟨release.1, release.2, .of_latestStable? hlatest, hfinding.2.symm⟩
  · unfold latestFinding?
    rw [latestStable?_congr hsame]

-- Of releases that differ in build metadata the last one is named; what is no stable release is
-- passed over.
example : latestFinding? "v0.9.0" ["v2.0.0-rc.1", "v1.0.0+b", "v1.0.0", "junk", "v1.0.0+a"] =
    some (.otherLatest "v0.9.0" "v1.0.0+b") := by
  decide +kernel

end ConnectorCatalog
