import ConnectorCatalog.Preflight.Rules
import ConnectorCatalog.Proofs.Except
import ConnectorCatalog.Proofs.Version.Precedence

/-!
# The highest stable release

Of the stable releases in a list the highest one is not below any other
(`ReleaseVersion.isLE_of_latestStable?`).  A declared latest version is accepted if it has the
precedence of that one, or if there is none (`latestFinding?_eq_none_iff`).  So **two lists accept the
same declarations exactly if each release of either is covered by one of the other**
(`accepts_same_iff`).
-/

namespace ConnectorCatalog

open Std Text

namespace Version

/-- The order of versions by their numbers alone. -/
def compareCore (a b : Version) : Ordering :=
  (Ord.compare a.major b.major).then <|
  (Ord.compare a.minor b.minor).then <| Ord.compare a.patch b.patch

instance : TransCmp compareCore :=
  have := transCmp_on Version.major Ord.compare
  have := transCmp_on Version.minor Ord.compare
  have := transCmp_on Version.patch Ord.compare
  inferInstanceAs (TransCmp (compareLex (fun a b : Version => Ord.compare a.major b.major) <|
    compareLex (fun a b => Ord.compare a.minor b.minor) fun a b => Ord.compare a.patch b.patch))

variable {v w : Version}

/-- What is not above another version is not above it by its numbers. -/
theorem isLE_compareCore (h : (compare v w).isLE = true) : (compareCore v w).isLE = true := by
  have hsplit : compare v w =
      (compareCore v w).then ((comparePre v.pre w.pre).then (compareBuild v.build w.build)) := by
    simp only [compare, compareCore, Ordering.then_assoc]
  rw [hsplit] at h
  cases hcore : compareCore v w with
  | gt =>
    rw [hcore] at h
    cases h
  | _ => rfl

theorem samePrecedence_iff :
    samePrecedence v w = true ↔ compareCore v w = .eq ∧ v.pre = w.pre := by
  simp only [samePrecedence, compareCore, Bool.and_eq_true, beq_iff_eq, Ordering.then_eq_eq,
    LawfulEqCmp.compare_eq_iff_eq, and_assoc]

theorem sameCore_iff : SameCore v w ↔ compareCore v w = .eq := by
  simp only [SameCore, compareCore, Ordering.then_eq_eq, LawfulEqCmp.compare_eq_iff_eq]

end Version

namespace ReleaseVersion

variable {texts : List String} {latest other : String × Version}

theorem mem_stable : other ∈ stable texts ↔
    other.1 ∈ texts ∧ parse other.1 = .ok other.2 ∧ other.2.pre = [] := by
  obtain ⟨text, version⟩ := other
  simp only [stable, List.mem_filterMap]
  constructor
  · rintro ⟨t, ht, hstep⟩
    split at hstep
    · rename_i v hparse
      split at hstep
      · rename_i hpre
        cases hstep
        exact ⟨ht, Except.toOption_eq_some.1 hparse, hpre⟩
      · cases hstep
    · cases hstep
  · rintro ⟨ht, hparse, hpre⟩
    exact ⟨text, ht, by simp [parse?, hparse, Except.toOption, hpre]⟩

theorem isLE_higher (a b : String × Version) :
    (Version.compare a.2 (higher a b).2).isLE = true ∧
      (Version.compare b.2 (higher a b).2).isLE = true := by
  unfold higher
  split
  · rename_i hgt
    exact ⟨ReflCmp.isLE_rfl, by rw [OrientedCmp.lt_of_gt hgt]; rfl⟩
  · rename_i hne
    refine ⟨?_, ReflCmp.isLE_rfl⟩
    cases hcmp : Version.compare a.2 b.2 with
    | gt => exact absurd hcmp hne
    | _ => rfl

theorem higher_eq (a b : String × Version) : higher a b = a ∨ higher a b = b := by
  unfold higher
  split
  · exact .inl rfl
  · exact .inr rfl

/-- The higher of candidates one after the other is one of them, and not below any. -/
theorem foldl_higher (first : String × Version) (rest : List (String × Version)) :
    rest.foldl higher first ∈ first :: rest ∧
      ∀ a ∈ first :: rest, (Version.compare a.2 (rest.foldl higher first).2).isLE = true := by
  induction rest generalizing first with
  | nil => exact ⟨List.mem_cons_self, by simpa using ReflCmp.isLE_rfl⟩
  | cons next rest ih =>
    obtain ⟨hmem, hle⟩ := ih (higher first next)
    obtain ⟨hfirst, hnext⟩ := isLE_higher first next
    have htop := hle (higher first next) List.mem_cons_self
    rw [List.foldl_cons]
    constructor
    · rcases List.mem_cons.1 hmem with heq | hrest
      · rw [heq]
        rcases higher_eq first next with h | h <;> simp [h]
      · simp [hrest]
    · intro a ha
      rcases List.mem_cons.1 ha with rfl | ha
      · exact TransCmp.isLE_trans hfirst htop
      · rcases List.mem_cons.1 ha with rfl | ha
        · exact TransCmp.isLE_trans hnext htop
        · exact hle a (List.mem_cons_of_mem _ ha)

theorem latestStable?_eq_none : latestStable? texts = none ↔ stable texts = [] := by
  unfold latestStable?
  split <;> simp_all

theorem latestStable?_spec (h : latestStable? texts = some latest) : latest ∈ stable texts ∧
    ∀ other ∈ stable texts, (Version.compare other.2 latest.2).isLE = true := by
  unfold latestStable? at h
  split at h
  · cases h
  · rename_i first rest hstable
    cases h
    rw [hstable]
    exact foldl_higher first rest

/-- **The highest stable release is one that is not below any other.** -/
theorem isLE_of_latestStable? (h : latestStable? texts = some latest) :
    latest ∈ stable texts ∧
      ∀ other ∈ stable texts, (Version.compareCore other.2 latest.2).isLE = true := by
  obtain ⟨hmem, hle⟩ := latestStable?_spec h
  exact ⟨hmem, fun other hother => Version.isLE_compareCore (hle other hother)⟩

/-- Every stable release of a list is matched by one of the other that is not below it. -/
def CoveredBy (texts others : List String) : Prop :=
  ∀ s ∈ stable texts, ∃ r ∈ stable others, (Version.compareCore s.2 r.2).isLE = true

instance (texts others : List String) : Decidable (CoveredBy texts others) :=
  inferInstanceAs (Decidable (∀ _ ∈ _, ∃ _ ∈ _, _))

end ReleaseVersion

open ReleaseVersion

variable {declared : String} {directories others : List String}

/-- Which latest versions are accepted: any where no release is stable, else those of the precedence
of the highest one. -/
theorem latestFinding?_eq_none_iff : latestFinding? declared directories = none ↔
    latestStable? directories = none ∨ ∃ latest v, latestStable? directories = some latest ∧
      ReleaseVersion.parse declared = .ok v ∧ v.samePrecedence latest.2 = true := by
  unfold latestFinding?
  cases latestStable? directories with
  | none => simp
  | some latest =>
    cases ReleaseVersion.parse declared with
    | error fault => simp
    | ok v => cases h : v.samePrecedence latest.2 <;> simp [h]

theorem ReleaseVersion.CoveredBy.isLE {latest latest' : String × Version}
    (h : CoveredBy directories others) (hlatest : latestStable? directories = some latest)
    (hlatest' : latestStable? others = some latest') :
    (Version.compareCore latest.2 latest'.2).isLE = true := by
  obtain ⟨r, hr, hle⟩ := h latest (isLE_of_latestStable? hlatest).1
  exact TransCmp.isLE_trans hle ((isLE_of_latestStable? hlatest').2 r hr)

/-- What accepts no more declarations is covered. -/
theorem ReleaseVersion.coveredBy_of_accepts
    (h : ∀ declared, latestFinding? declared others = none →
      latestFinding? declared directories = none) : CoveredBy directories others := by
  intro s hs
  cases hlatest : latestStable? directories with
  | none =>
    rw [latestStable?_eq_none.1 hlatest] at hs
    cases hs
  | some latest =>
    cases hlatest' : latestStable? others with
    | none =>
      -- The empty text is no version, so it is accepted only where no release is stable.
      rcases latestFinding?_eq_none_iff.1 (h "" (latestFinding?_eq_none_iff.2 (.inl hlatest')))
        with hnone | ⟨_, v, -, hparse, -⟩
      · cases hnone.symm.trans hlatest
      · cases hparse
    | some latest' =>
      -- The highest release of the others is a declaration that they accept.
      obtain ⟨-, hparse, -⟩ := mem_stable.1 (isLE_of_latestStable? hlatest').1
      have hself : latest'.2.samePrecedence latest'.2 = true :=
        Version.samePrecedence_iff.2 ⟨ReflCmp.compare_self, rfl⟩
      have haccepted := h latest'.1
        (latestFinding?_eq_none_iff.2 (.inr ⟨latest', latest'.2, hlatest', hparse, hself⟩))
      rcases latestFinding?_eq_none_iff.1 haccepted with hnone | ⟨top, v, htop, hparse', hsame⟩
      · cases hnone.symm.trans hlatest
      · cases htop.symm.trans hlatest
        cases hparse'.symm.trans hparse
        have hle := (isLE_of_latestStable? hlatest).2 s hs
        rw [TransCmp.congr_right (OrientedCmp.eq_symm (Version.samePrecedence_iff.1 hsame).1)] at hle
        exact ⟨latest', (isLE_of_latestStable? hlatest').1, hle⟩

/-- Lists that cover each other accept no different declarations. -/
theorem ReleaseVersion.CoveredBy.accepts (h : CoveredBy directories others)
    (h' : CoveredBy others directories) (haccepted : latestFinding? declared others = none) :
    latestFinding? declared directories = none := by
  rw [latestFinding?_eq_none_iff] at haccepted ⊢
  cases hlatest : latestStable? directories with
  | none => exact .inl rfl
  | some latest =>
    rcases haccepted with hnone | ⟨latest', v, hlatest', hparse, hsame⟩
    · obtain ⟨r, hr, -⟩ := h latest (isLE_of_latestStable? hlatest).1
      rw [latestStable?_eq_none.1 hnone] at hr
      cases hr
    · have heq := OrientedCmp.isLE_antisymm (h.isLE hlatest hlatest') (h'.isLE hlatest' hlatest)
      obtain ⟨-, -, hpre⟩ := mem_stable.1 (isLE_of_latestStable? hlatest).1
      obtain ⟨-, -, hpre'⟩ := mem_stable.1 (isLE_of_latestStable? hlatest').1
      obtain ⟨hcore, hsamepre⟩ := Version.samePrecedence_iff.1 hsame
      exact .inr ⟨latest, v, rfl, hparse, Version.samePrecedence_iff.2
        ⟨TransCmp.eq_trans hcore (OrientedCmp.eq_symm heq), by rw [hsamepre, hpre', hpre]⟩⟩

/-- **Lists accept the same declarations exactly if they cover each other.** -/
theorem accepts_same_iff :
    (∀ declared, latestFinding? declared directories = none ↔
      latestFinding? declared others = none) ↔
    CoveredBy directories others ∧ CoveredBy others directories :=
  ⟨fun h => ⟨coveredBy_of_accepts fun _ => (h _).2,
      coveredBy_of_accepts fun _ => (h _).1⟩,
    fun ⟨h, h'⟩ _ => ⟨h'.accepts h, h.accepts h'⟩⟩

end ConnectorCatalog
