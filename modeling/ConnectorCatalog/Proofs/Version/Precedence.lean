import ConnectorCatalog.Proofs.Text.ByteOrder
import ConnectorCatalog.Proofs.Version.Spelling

/-!
# The precedence of releases

What the comparison of release identifiers is, told without comparing anything by its spelling.

* `Version.Below` is the order of versions: by major, minor and patch number, a pre-release below its
  release, then identifier by identifier, with build metadata last.  Among versions that have been
  read it is what `Version.compare` tells (`Version.compare_eq_lt_iff`).
* **All texts are ordered totally: releases by version, in front of everything else, which is ordered
  by bytes** (`ReleaseVersion.compare_ordersReleases`).  Texts that compare equal are the same, so a
  list is sorted in one way, wherever its members stood before.
-/

namespace ConnectorCatalog

open Std Text

/-! ### Lists in the order of their members -/

/-- A lesser list is less where it first differs, or it ends first. -/
theorem Text.compareLists_eq_lt_iff {α : Type} {cmp : α → α → Ordering} [LawfulEqCmp cmp]
    {below : α → α → Prop} {as bs : List α}
    (h : ∀ a ∈ as, ∀ b ∈ bs, (cmp a b = .lt ↔ below a b)) :
    compareLists cmp as bs = .lt ↔ List.Lex below as bs := by
  induction as generalizing bs with
  | nil =>
    cases bs with
    | nil => exact ⟨fun h => (by cases h), fun h => (by cases h)⟩
    | cons b bs => exact ⟨fun _ => .nil, fun _ => rfl⟩
  | cons a as ih =>
    cases bs with
    | nil => exact ⟨fun h => (by cases h), fun h => (by cases h)⟩
    | cons b bs =>
      have hfirst := h a List.mem_cons_self b List.mem_cons_self
      have ih := ih fun x hx y hy => h x (List.mem_cons_of_mem _ hx) y (List.mem_cons_of_mem _ hy)
      rw [compareLists, Ordering.then_eq_lt, LawfulEqCmp.compare_eq_iff_eq, hfirst, ih]
      constructor
      · rintro (hbelow | ⟨rfl, hrest⟩)
        · exact .rel hbelow
        · exact .cons hrest
      · rintro (_ | hbelow | hrest)
        · exact .inl hbelow
        · exact .inr ⟨rfl, hrest⟩

namespace Version

/-! ### Identifiers -/

/-- A lesser identifier.  Numbers are below everything else; numbers of one value, which differ by
zeros in front, are ordered by length. -/
inductive IdentifierBelow (a b : String) : Prop where
  | kind (ha : isNumeric a.toList = true) (hb : isNumeric b.toList = false)
  | value (ha : isNumeric a.toList = true) (hb : isNumeric b.toList = true)
      (h : decimal a.toList < decimal b.toList)
  | zeros (ha : isNumeric a.toList = true) (hb : isNumeric b.toList = true)
      (h : decimal a.toList = decimal b.toList) (hlength : a.length < b.length)
  | bytes (ha : isNumeric a.toList = false) (hb : isNumeric b.toList = false)
      (h : compareBytes (utf8 a) (utf8 b) = .lt)

variable {numbers : List Char → List Char → Ordering} {a b : String} {v w : Version}

theorem compareIdentifiers_eq_lt_iff
    (h : AreDigits a.toList → AreDigits b.toList → (numbers a.toList b.toList = .lt ↔
      decimal a.toList < decimal b.toList ∨
        decimal a.toList = decimal b.toList ∧ a.length < b.length)) :
    compareIdentifiers numbers a b = .lt ↔ IdentifierBelow a b := by
  cases ha : isNumeric a.toList <;> cases hb : isNumeric b.toList <;>
    simp only [compareIdentifiers, ha, hb]
  · have hbytes := compareBytes_utf8 a b
    rw [compareTexts] at hbytes
    rw [← hbytes]
    constructor
    · exact .bytes ha hb
    · rintro (⟨ha', -⟩ | ⟨ha', -⟩ | ⟨ha', -⟩ | ⟨-, -, hbelow⟩)
      · cases ha.symm.trans ha'
      · cases ha.symm.trans ha'
      · cases ha.symm.trans ha'
      · exact hbelow
  · refine ⟨fun h => (by cases h), ?_⟩
    rintro (⟨ha', -⟩ | ⟨ha', -⟩ | ⟨ha', -⟩ | ⟨-, hb', -⟩)
    · cases ha.symm.trans ha'
    · cases ha.symm.trans ha'
    · cases ha.symm.trans ha'
    · cases hb.symm.trans hb'
  · exact ⟨fun _ => .kind ha hb, fun _ => trivial⟩
  · rw [h ha hb]
    constructor
    · rintro (hlt | ⟨heq, hlength⟩)
      · exact .value ha hb hlt
      · exact .zeros ha hb heq hlength
    · rintro (⟨-, hb'⟩ | ⟨-, -, hlt⟩ | ⟨-, -, heq, hlength⟩ | ⟨ha', -⟩)
      · cases hb.symm.trans hb'
      · exact .inl hlt
      · exact .inr ⟨heq, hlength⟩
      · cases ha.symm.trans ha'

/-- Pre-release identifiers have no zeros in front, so none of them differ by these. -/
theorem compareIdentifiers_pre_eq_lt_iff (ha : IsIdentifier .pre a) (hb : IsIdentifier .pre b) :
    compareIdentifiers compareNumbers a b = .lt ↔ IdentifierBelow a b := by
  refine compareIdentifiers_eq_lt_iff fun hdigits hdigits' => ?_
  have hna := ha.numeral rfl hdigits
  have hnb := hb.numeral rfl hdigits'
  rw [hna.compareNumbers_eq hnb, Nat.compare_eq_lt]
  refine ⟨.inl, fun h => h.resolve_right ?_⟩
  rintro ⟨heq, hlength⟩
  have hsame : a.toList = b.toList := by
    rw [← hna.toDigits_decimal, heq, hnb.toDigits_decimal]
  rw [String.toList_injective hsame] at hlength
  exact Nat.lt_irrefl _ hlength

theorem compareIdentifiers_build_eq_lt_iff :
    compareIdentifiers comparePaddedNumbers a b = .lt ↔ IdentifierBelow a b := by
  refine compareIdentifiers_eq_lt_iff fun hdigits hdigits' => ?_
  rw [comparePaddedNumbers_eq hdigits hdigits', Ordering.then_eq_lt, Nat.compare_eq_lt,
    Nat.compare_eq_eq, Nat.compare_eq_lt]
  rfl

instance [LawfulEqCmp numbers] : LawfulEqCmp (compareIdentifiers numbers) where
  compare_self {a} := by
    cases ha : isNumeric a.toList <;> simp only [compareIdentifiers, ha]
    · exact ReflCmp.compare_self
    · exact ReflCmp.compare_self
  eq_of_compare {a b} h := by
    cases ha : isNumeric a.toList <;> cases hb : isNumeric b.toList <;>
      simp only [compareIdentifiers, ha, hb] at h
    · exact String.toList_injective (LawfulEqCmp.eq_of_compare h)
    · cases h
    · cases h
    · exact String.toList_injective (LawfulEqCmp.eq_of_compare h)

/-! ### Versions -/

/-- Whether two versions agree on everything but pre-release and build metadata. -/
def SameCore (v w : Version) : Prop := v.major = w.major ∧ v.minor = w.minor ∧ v.patch = w.patch

/-- A lesser version. -/
inductive Below (v w : Version) : Prop where
  | major (h : v.major < w.major)
  | minor (hmajor : v.major = w.major) (h : v.minor < w.minor)
  | patch (hmajor : v.major = w.major) (hminor : v.minor = w.minor) (h : v.patch < w.patch)
  /-- A pre-release of the release. -/
  | release (hcore : SameCore v w) (hpre : v.pre ≠ []) (hrelease : w.pre = [])
  | pre (hcore : SameCore v w) (hpre : v.pre ≠ []) (hpre' : w.pre ≠ [])
      (h : List.Lex IdentifierBelow v.pre w.pre)
  | build (hcore : SameCore v w) (hpre : v.pre = w.pre)
      (h : List.Lex IdentifierBelow v.build w.build)

/-- A version that is made of identifiers. -/
def IsWritten (v : Version) : Prop := ∀ s ∈ v.pre, IsIdentifier .pre s

instance : LawfulEqCmp comparePre where
  compare_self := ReflCmp.compare_self
  eq_of_compare {a b} h := by
    rw [comparePre_eq, Ordering.then_eq_eq] at h
    exact LawfulEqCmp.eq_of_compare h.2

instance : LawfulEqCmp compareBuild := inferInstanceAs (LawfulEqCmp (compareLists _))

theorem comparePre_eq_lt_iff (hv : v.IsWritten) (hw : w.IsWritten) :
    comparePre v.pre w.pre = .lt ↔ v.pre ≠ [] ∧
      (w.pre = [] ∨ w.pre ≠ [] ∧ List.Lex IdentifierBelow v.pre w.pre) := by
  have hlist := compareLists_eq_lt_iff fun a ha b hb =>
    compareIdentifiers_pre_eq_lt_iff (hv a ha) (hw b hb)
  rw [comparePre_eq, Ordering.then_eq_lt, hlist]
  cases v.pre <;> cases w.pre <;> simp [Ord.compare]

theorem SameCore.eq (h : SameCore v w) (hpre : v.pre = w.pre) (hbuild : v.build = w.build) :
    v = w := by
  obtain ⟨hmajor, hminor, hpatch⟩ := h
  cases v
  cases w
  cases hmajor
  cases hminor
  cases hpatch
  cases hpre
  cases hbuild
  rfl

theorem eq_of_compare (h : compare v w = .eq) : v = w := by
  simp only [compare, Ordering.then_eq_eq, LawfulEqCmp.compare_eq_iff_eq] at h
  obtain ⟨hmajor, hminor, hpatch, hpre, hbuild⟩ := h
  exact SameCore.eq ⟨hmajor, hminor, hpatch⟩ hpre hbuild

/-- **Versions that have been read are compared by precedence, then by build metadata.** -/
theorem compare_eq_lt_iff (hv : v.IsWritten) (hw : w.IsWritten) :
    compare v w = .lt ↔ Below v w := by
  have hbuild : compareBuild v.build w.build = .lt ↔ List.Lex IdentifierBelow v.build w.build :=
    compareLists_eq_lt_iff fun a _ b _ => compareIdentifiers_build_eq_lt_iff
  simp only [compare, Ordering.then_eq_lt, LawfulEqCmp.compare_eq_iff_eq, Nat.compare_eq_lt,
    comparePre_eq_lt_iff hv hw, hbuild]
  constructor
  · rintro (h | ⟨hmajor, h | ⟨hminor, h | ⟨hpatch, ⟨hpre, hrelease | ⟨hpre', h⟩⟩ | ⟨hpre, h⟩⟩⟩⟩)
    · exact .major h
    · exact .minor hmajor h
    · exact .patch hmajor hminor h
    · exact .release ⟨hmajor, hminor, hpatch⟩ hpre hrelease
    · exact .pre ⟨hmajor, hminor, hpatch⟩ hpre hpre' h
    · exact .build ⟨hmajor, hminor, hpatch⟩ hpre h
  · rintro (h | ⟨hmajor, h⟩ | ⟨hmajor, hminor, h⟩ | ⟨⟨hmajor, hminor, hpatch⟩, hpre, hrelease⟩ |
      ⟨⟨hmajor, hminor, hpatch⟩, hpre, hpre', h⟩ | ⟨⟨hmajor, hminor, hpatch⟩, hpre, h⟩)
    · exact .inl h
    · exact .inr ⟨hmajor, .inl h⟩
    · exact .inr ⟨hmajor, .inr ⟨hminor, .inl h⟩⟩
    · exact .inr ⟨hmajor, .inr ⟨hminor, .inr ⟨hpatch, .inl ⟨hpre, .inl hrelease⟩⟩⟩⟩
    · exact .inr ⟨hmajor, .inr ⟨hminor, .inr ⟨hpatch, .inl ⟨hpre, .inr ⟨hpre', h⟩⟩⟩⟩⟩
    · exact .inr ⟨hmajor, .inr ⟨hminor, .inr ⟨hpatch, .inr ⟨hpre, h⟩⟩⟩⟩

end Version

namespace ReleaseVersion

variable {a b : String} {v w : Version}

/-! ### Release identifiers -/

theorem parse?_eq_some : parse? a = some v ↔ parse a = .ok v := Except.toOption_eq_some

theorem parse?_eq_none (h : ∀ v, parse a ≠ .ok v) : parse? a = none :=
  Option.eq_none_iff_forall_ne_some.2 fun v hv => h v (parse?_eq_some.1 hv)

theorem isWritten_of_parse (h : parse a = .ok v) : v.IsWritten := by
  obtain ⟨rest, -, hrest⟩ := parse_eq_ok h
  exact (Version.spelling_of_parseChars hrest).2.1

/-- Releases are compared by version: their texts break no tie. -/
theorem compare_of_parse (ha : parse a = .ok v) (hb : parse b = .ok w) :
    compare a b = Version.compare v w := by
  rw [compare_eq, parse?_eq_some.2 ha, parse?_eq_some.2 hb, compareParsed]
  cases h : Version.compare v w with
  | lt => rfl
  | gt => rfl
  | eq =>
    obtain rfl := Version.eq_of_compare h
    obtain rfl := parse_injective ha hb
    exact ReflCmp.compare_self

/-- A comparison that orders all texts totally, releases by version and in front of all others. -/
structure OrdersReleases (cmp : String → String → Ordering) : Prop where
  refl : ∀ a, cmp a a = .eq
  total : ∀ a b, (cmp a b).isLE = true ∨ (cmp b a).isLE = true
  /-- Comparing the other way round gives the opposite. -/
  swap : ∀ a b, cmp a b = (cmp b a).swap
  trans : ∀ a b c, (cmp a b).isLE = true → (cmp b c).isLE = true → (cmp a c).isLE = true
  eq_iff : ∀ a b, cmp a b = .eq ↔ a = b
  /-- A release is in front of every text that names none. -/
  release_lt : ∀ a b v, parse a = .ok v → (∀ w, parse b ≠ .ok w) → cmp a b = .lt
  /-- Releases are ordered by version. -/
  below : ∀ a b v w, parse a = .ok v → parse b = .ok w → (cmp a b = .lt ↔ v.Below w)
  /-- Other texts are ordered by bytes. -/
  bytes : ∀ a b, (∀ v, parse a ≠ .ok v) → (∀ w, parse b ≠ .ok w) →
    cmp a b = compareBytes (utf8 a) (utf8 b)
  /-- Sorting puts the members of a list in order. -/
  sorts : ∀ l, (sortBy cmp l).Perm l ∧ (sortBy cmp l).Pairwise fun a b => (cmp a b).isLE = true
  /-- There is one way to sort a list, wherever its members stood. -/
  sorts_alike : ∀ l l', l.Perm l' → sortBy cmp l = sortBy cmp l'

/-- **All texts are ordered totally, releases by version and in front of all others.** -/
theorem compare_ordersReleases : OrdersReleases compare where
  refl _ := ReflCmp.compare_self
  total a b := by
    have hswap : compare a b = (compare b a).swap := OrientedCmp.eq_swap
    rw [hswap]
    cases compare b a <;> decide
  swap _ _ := OrientedCmp.eq_swap
  trans _ _ _ := TransCmp.isLE_trans
  eq_iff _ _ := LawfulEqCmp.compare_eq_iff_eq
  release_lt a b v ha hb := by
    rw [compare_eq, parse?_eq_some.2 ha, parse?_eq_none hb]
    rfl
  below a b v w ha hb := by
    rw [compare_of_parse ha hb,
      Version.compare_eq_lt_iff (isWritten_of_parse ha) (isWritten_of_parse hb)]
  bytes a b ha hb := by
    rw [compare_eq, parse?_eq_none ha, parse?_eq_none hb, compareBytes_utf8]
    rfl
  sorts l := ⟨List.mergeSort_perm _ _, pairwise_sortBy⟩
  sorts_alike l l' h := eq_sortBy ((List.mergeSort_perm _ _).trans h) pairwise_sortBy

-- Releases as they follow each other, and a text that names none.
example : ["v1.0.0-2.11", "v1.0.0-alpha", "v1.0.0-alpha.1", "v1.0.0-alpha.beta", "v1.0.0", "v1.0.0+0",
    "v1.0.0+00", "v1.10.0", "1.0.0"].Pairwise fun a b => compare a b = .lt := by
  decide +kernel

end ReleaseVersion

end ConnectorCatalog
