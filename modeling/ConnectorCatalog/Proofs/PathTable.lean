import Mathlib.Data.List.Basic
import ConnectorCatalog.Proofs.Classify

/-!
# The table of paths

A path is classified by a row of the table, which is a text with gaps for names (`PathRule`), or by
the segments that the row comes to (`Spells`).

* `PathRule.matches_iff` : the two readings of the table agree, so **no two rows match one text**,
  and a row matches in one way only (`PathRule.Matches.unique`).
* `Spells.pathOf_eq` : a path is rebuilt from the connector and the item that it spells out.
* `classify_grammar` : **the paths that are classified are just those of the table**, and they are
  told apart by what they are classified as.
-/

namespace ConnectorCatalog

open Text

/-! ### Rows -/

/-- A text that can stand in a gap. -/
structure IsName (s : String) : Prop where
  ne_empty : s ≠ ""
  isSegment : IsSegment s

/-- The rows of the table. -/
inductive PathRule where
  | release | metadata | logo | readme
deriving DecidableEq

/-- A row matches a text, whose gaps are filled with the names of a connector and an item of it. -/
inductive PathRule.Matches : PathRule → String → Identity → RegistryItem → Prop where
  | release {ns name version : String} : IsName ns → IsName name → IsName version →
    Matches .release
      ("registry/" ++ ns ++ "/" ++ name ++ "/releases/" ++ version ++ "/connector-packaging.json")
      ⟨ns, name⟩ (.packaging version)
  | metadata {ns name : String} : IsName ns → IsName name →
    Matches .metadata ("registry/" ++ ns ++ "/" ++ name ++ "/metadata.json") ⟨ns, name⟩ .metadata
  | logo (format : LogoFormat) {ns name : String} : IsName ns → IsName name →
    Matches .logo ("registry/" ++ ns ++ "/" ++ name ++ "/logo." ++ format.extension) ⟨ns, name⟩
      (.logo format)
  | readme {ns name : String} : IsName ns → IsName name →
    Matches .readme ("registry/" ++ ns ++ "/" ++ name ++ "/README.md") ⟨ns, name⟩ .readme

namespace RegistryItem

/-- The row for an item. -/
def rule : RegistryItem → PathRule
  | metadata => .metadata
  | logo _ => .logo
  | readme => .readme
  | packaging _ => .release

/-- The path of an item. -/
def pathOf (connector : Identity) (item : RegistryItem) : String :=
  joinTexts "/" ("registry" :: connector.ns :: connector.name :: item.segments)

theorem segments_ne_nil (item : RegistryItem) : item.segments ≠ [] := by
  cases item <;> simp [segments]

theorem pathOf_eq (connector : Identity) (item : RegistryItem) : item.pathOf connector =
    "registry/" ++ connector.ns ++ "/" ++ connector.name ++ "/" ++ joinTexts "/" item.segments := by
  have hstart : "registry/" = "registry" ++ "/" := by decide
  obtain ⟨s, rest, hsegments⟩ := List.exists_cons_of_ne_nil item.segments_ne_nil
  simp only [pathOf, hsegments, joinTexts, hstart, String.append_assoc]

end RegistryItem

namespace PathRule

variable {rule rule' : PathRule} {text : String} {connector connector' : Identity}
  {item item' : RegistryItem}

/-- A row that matches a text is the row for the item, whose path the text is. -/
theorem Matches.eq_pathOf (h : rule.Matches text connector item) :
    rule = item.rule ∧ text = item.pathOf connector := by
  rw [RegistryItem.pathOf_eq]
  cases h with
  | release =>
    have hmiddle : "/releases/" = "/" ++ ("releases" ++ "/") := by decide
    have hend : "/connector-packaging.json" = "/" ++ "connector-packaging.json" := by decide
    exact ⟨rfl, by
      simp only [RegistryItem.segments, joinTexts, packagingFile, hmiddle, hend,
        String.append_assoc]⟩
  | metadata =>
    have hend : "/metadata.json" = "/" ++ "metadata.json" := by decide
    exact ⟨rfl, by simp only [RegistryItem.segments, joinTexts, hend, String.append_assoc]⟩
  | logo format =>
    have hend : "/logo." = "/" ++ "logo." := by decide
    exact ⟨rfl, by simp only [RegistryItem.segments, joinTexts, hend, String.append_assoc]⟩
  | readme =>
    have hend : "/README.md" = "/" ++ "README.md" := by decide
    exact ⟨rfl, by simp only [RegistryItem.segments, joinTexts, hend, String.append_assoc]⟩

theorem Matches.isNamed (h : rule.Matches text connector item) : IsNamed connector item ∧
    ∀ s ∈ "registry" :: connector.ns :: connector.name :: item.segments, IsSegment s := by
  have hregistry : IsSegment "registry" := by decide
  cases h with
  | release hns hname hversion =>
    refine ⟨⟨hns.ne_empty, hname.ne_empty, fun version hv => ?_⟩, ?_⟩
    · cases hv
      exact hversion.ne_empty
    · have hreleases : IsSegment "releases" := by decide
      have hfile : IsSegment packagingFile := by decide
      simpa [RegistryItem.segments, hregistry, hreleases, hfile] using
        ⟨hns.isSegment, hname.isSegment, hversion.isSegment⟩
  | metadata hns hname =>
    have hfile : IsSegment "metadata.json" := by decide
    exact ⟨⟨hns.ne_empty, hname.ne_empty, by simp⟩, by
      simpa [RegistryItem.segments, hregistry, hfile] using ⟨hns.isSegment, hname.isSegment⟩⟩
  | logo format hns hname =>
    have hfile : IsSegment ("logo." ++ format.extension) := by cases format <;> decide
    exact ⟨⟨hns.ne_empty, hname.ne_empty, by simp⟩, by
      simpa [RegistryItem.segments, hregistry, hfile] using ⟨hns.isSegment, hname.isSegment⟩⟩
  | readme hns hname =>
    have hfile : IsSegment "README.md" := by decide
    exact ⟨⟨hns.ne_empty, hname.ne_empty, by simp⟩, by
      simpa [RegistryItem.segments, hregistry, hfile] using ⟨hns.isSegment, hname.isSegment⟩⟩

theorem matches_pathOf (hnamed : IsNamed connector item)
    (hseg : ∀ s ∈ "registry" :: connector.ns :: connector.name :: item.segments, IsSegment s) :
    item.rule.Matches (item.pathOf connector) connector item := by
  have hns : IsName connector.ns := ⟨hnamed.1, hseg _ (by simp)⟩
  have hname : IsName connector.name := ⟨hnamed.2.1, hseg _ (by simp)⟩
  -- The text of each row is the path of its item.
  have hpath : ∀ {text}, item.rule.Matches text connector item →
      item.rule.Matches (item.pathOf connector) connector item := fun h => h.eq_pathOf.2 ▸ h
  cases item with
  | metadata => exact hpath (.metadata hns hname)
  | logo format => exact hpath (.logo format hns hname)
  | readme => exact hpath (.readme hns hname)
  | packaging version =>
    exact hpath (.release hns hname
      ⟨hnamed.2.2 version rfl, hseg _ (by simp [RegistryItem.segments])⟩)

/-- **A row matches by segments**: the gaps of a row hold whole segments. -/
theorem matches_iff : rule.Matches text connector item ↔ rule = item.rule ∧
    segments text = "registry" :: connector.ns :: connector.name :: item.segments ∧
    IsNamed connector item := by
  constructor
  · intro h
    obtain ⟨hrule, htext⟩ := h.eq_pathOf
    obtain ⟨hnamed, hseg⟩ := h.isNamed
    refine ⟨hrule, ?_, hnamed⟩
    rw [htext, RegistryItem.pathOf, segments_joinTexts (by simp) hseg]
  · rintro ⟨rfl, hseg, hnamed⟩
    have htext : item.pathOf connector = text := by
      rw [RegistryItem.pathOf, ← hseg, joinTexts_segments]
    rw [← htext]
    exact matches_pathOf hnamed fun s hs => isSegment_of_mem_segments (hseg ▸ hs)

/-- **One row at most matches a text**, and in one way only. -/
theorem Matches.unique (h : rule.Matches text connector item)
    (h' : rule'.Matches text connector' item') :
    rule = rule' ∧ connector = connector' ∧ item = item' := by
  obtain ⟨rfl, hseg⟩ := matches_iff.1 h
  obtain ⟨rfl, hseg'⟩ := matches_iff.1 h'
  have hpair := (recognize?_eq_some_iff.2 hseg).symm.trans (recognize?_eq_some_iff.2 hseg')
  cases hpair
  exact ⟨rfl, rfl, rfl⟩

end PathRule

/-! ### Paths -/

/-- The segments of a path spell out a connector and an item of it, and none is reserved. -/
structure Spells (path : String) (connector : Identity) (item : RegistryItem) : Prop where
  segments_eq : segments path = "registry" :: connector.ns :: connector.name :: item.segments
  named : IsNamed connector item
  not_reserved : ∀ s ∈ segments path, isReserved s = false

namespace Spells

variable {path path' : String} {connector connector' : Identity} {item item' : RegistryItem}

theorem iff_matches : Spells path connector item ↔
    (∃ rule : PathRule, rule.Matches path connector item) ∧
      ∀ s ∈ segments path, isReserved s = false := by
  constructor
  · intro h
    exact ⟨⟨item.rule, PathRule.matches_iff.2 ⟨rfl, h.segments_eq, h.named⟩⟩, h.not_reserved⟩
  · rintro ⟨⟨rule, hrule⟩, hres⟩
    obtain ⟨-, hseg, hnamed⟩ := PathRule.matches_iff.1 hrule
    exact ⟨hseg, hnamed, hres⟩

theorem iff_recognize? : Spells path connector item ↔
    recognize? (segments path) = some (connector, item) ∧
      (segments path).any isReserved = false := by
  rw [recognize?_eq_some_iff, List.any_eq_false]
  simp only [Bool.not_eq_true]
  exact ⟨fun h => ⟨⟨h.segments_eq, h.named⟩, h.not_reserved⟩, fun ⟨⟨hs, hn⟩, hr⟩ => ⟨hs, hn, hr⟩⟩

instance : Decidable (Spells path connector item) := decidable_of_iff' _ iff_recognize?

theorem unique (h : Spells path connector item) (h' : Spells path connector' item') :
    connector = connector' ∧ item = item' := by
  rw [iff_recognize?] at h h'
  have hpair := h.1.symm.trans h'.1
  cases hpair
  exact ⟨rfl, rfl⟩

theorem pathOf_eq (h : Spells path connector item) : item.pathOf connector = path := by
  rw [RegistryItem.pathOf, ← h.segments_eq, joinTexts_segments]

theorem path_eq (h : Spells path connector item) (h' : Spells path' connector item) :
    path = path' := by
  rw [← h.pathOf_eq, h'.pathOf_eq]

end Spells

theorem Change.Placed.spells {c : Change} (h : c.Placed) : Spells c.path c.connector c.kind.item :=
  ⟨h.segments_path, h.named, h.not_reserved⟩

/-! ### Classification -/

/-- The connector and the item that a classification is about. -/
def target? : Except ClassifyFault (Option Change) → Option (Identity × RegistryItem)
  | .ok (some change) => some (change.connector, change.kind.item)
  | .ok none => none
  | .error (.immutableRelease _ release) => some (release.connector, .packaging release.version)
  | .error (.duplicateConnector _ _) => none

variable {path : String} {connector : Identity} {item : RegistryItem}

theorem target?_changeOf (path : String) (origin : Origin) (connector : Identity)
    (item : RegistryItem) :
    target? ((changeOf path origin connector item).map some) = some (connector, item) := by
  cases item with
  | packaging version => cases origin <;> rfl
  | metadata => rfl
  | logo format => rfl
  | readme => rfl

theorem classify_of_spells (h : Spells (normalize path) connector item) (origin : Origin) :
    classify path origin = (changeOf (normalize path) origin connector item).map some := by
  obtain ⟨hrec, hres⟩ := Spells.iff_recognize?.1 h
  simp only [classify, hres, hrec, Bool.false_eq_true, if_false]

theorem classify_eq_none (h : ∀ connector item, ¬Spells (normalize path) connector item)
    (origin : Origin) : classify path origin = .ok none := by
  unfold classify
  cases hres : (segments (normalize path)).any isReserved with
  | true => simp only [hres, if_true]
  | false =>
    cases hrec : recognize? (segments (normalize path)) with
    | none => simp only [hres, hrec, Bool.false_eq_true, if_false]
    | some found => exact absurd (Spells.iff_recognize?.2 ⟨hrec, hres⟩) (h found.1 found.2)

theorem target?_classify_eq_some_iff {origin : Origin} :
    target? (classify path origin) = some (connector, item) ↔
      Spells (normalize path) connector item := by
  by_cases h : ∃ connector item, Spells (normalize path) connector item
  · obtain ⟨c, i, hspells⟩ := h
    rw [classify_of_spells hspells, target?_changeOf]
    constructor
    · rintro ⟨⟩
      exact hspells
    · intro h'
      obtain ⟨rfl, rfl⟩ := hspells.unique h'
      rfl
  · simp only [not_exists] at h
    rw [classify_eq_none h]
    exact iff_of_false nofun (h connector item)

theorem classify_eq_none_iff {origin : Origin} : classify path origin = .ok none ↔
    ∀ connector item, ¬Spells (normalize path) connector item := by
  refine ⟨fun h connector item hspells => ?_, fun h => classify_eq_none h origin⟩
  have htarget : target? (classify path origin) = some (connector, item) :=
    target?_classify_eq_some_iff.2 hspells
  rw [h] at htarget
  cases htarget

/-- An item that is added or modified asks for the change of its kind, except that a release must
not be modified. -/
theorem changeOf_cases (path : String) (origin : Origin) (connector : Identity)
    (item : RegistryItem) :
    (∃ kind : ChangeKind, kind.item = item ∧ kind.IsFrom origin ∧
      changeOf path origin connector item = .ok ⟨connector, kind, path⟩) ∨
    ∃ version, item = .packaging version ∧ origin = .modified ∧ changeOf path origin connector item =
      .error (.immutableRelease path ⟨connector, version⟩) := by
  cases item with
  | metadata => exact .inl ⟨.metadata origin, rfl, rfl, rfl⟩
  | logo format => exact .inl ⟨.logo origin format, rfl, rfl, rfl⟩
  | readme => exact .inl ⟨.readme origin, rfl, rfl, rfl⟩
  | packaging version =>
    cases origin with
    | added => exact .inl ⟨.release version, rfl, rfl, rfl⟩
    | modified => exact .inr ⟨version, rfl, rfl, rfl⟩

/-- The usual spelling of a path is without one `./` in front, if there is one. -/
theorem normalize_cases (path : String) : slashed path = "./" ++ normalize path ∨
    (¬∃ rest, slashed path = "./" ++ rest) ∧ normalize path = slashed path := by
  unfold normalize
  cases h : stripStart? "./" (slashed path) with
  | some rest => exact .inl (stripStart?_eq_some.1 h)
  | none =>
    right
    refine ⟨fun ⟨rest, hrest⟩ => ?_, rfl⟩
    rw [stripStart?_eq_some.2 hrest] at h
    cases h

/-- **The classified paths are those of the table.**  Let `text` be a path in its usual spelling.
The path is passed over exactly if its segments do not spell out a connector and an item, or one of
them is reserved.  Otherwise the change is the one that the item asks for, about this connector and
this text, or the refusal to modify a release.  One row of the table at most matches the text, its
gaps are filled in one way only, and what a path is classified as gives its text back; so paths of
different texts are classified as different things. -/
theorem classify_grammar (path : String) (origin : Origin) :
    let text := normalize path
    (slashed path = "./" ++ text ∨ (¬∃ rest, slashed path = "./" ++ rest) ∧ text = slashed path) ∧
    (classify path origin ≠ .ok none ↔ ∃ connector item, Spells text connector item) ∧
    (∀ connector item, Spells text connector item →
      (∃ kind : ChangeKind, kind.item = item ∧ kind.IsFrom origin ∧
        classify path origin = .ok (some ⟨connector, kind, text⟩)) ∨
      ∃ version, item = .packaging version ∧ origin = .modified ∧
        classify path origin = .error (.immutableRelease text ⟨connector, version⟩)) ∧
    (∀ connector item, Spells text connector item ↔
      (∃ rule : PathRule, rule.Matches text connector item) ∧
        ∀ s ∈ segments text, isReserved s = false) ∧
    (∀ (rule rule' : PathRule) connector connector' item item',
      rule.Matches text connector item → rule'.Matches text connector' item' →
      rule = rule' ∧ connector = connector' ∧ item = item') ∧
    (∀ connector item, target? (classify path origin) = some (connector, item) →
      item.pathOf connector = text) ∧
    ∀ path' origin', target? (classify path origin) = target? (classify path' origin') →
      target? (classify path origin) ≠ none → normalize path' = text := by
  refine ⟨normalize_cases path, ?_, ?_, fun _ _ => Spells.iff_matches,
    fun _ _ _ _ _ _ h h' => h.unique h', ?_, ?_⟩
  · rw [ne_eq, classify_eq_none_iff]
    simp only [Classical.not_forall, Classical.not_not]
  · intro connector item hspells
    rw [classify_of_spells hspells]
    rcases changeOf_cases (normalize path) origin connector item with
      ⟨kind, hkind, hfrom, hchange⟩ | ⟨version, hitem, horigin, hchange⟩
    · exact .inl ⟨kind, hkind, hfrom, by rw [hchange]; rfl⟩
    · exact .inr ⟨version, hitem, horigin, by rw [hchange]; rfl⟩
  · intro connector item htarget
    exact (target?_classify_eq_some_iff.1 htarget).pathOf_eq
  · intro path' origin' hsame hsome
    obtain ⟨⟨connector, item⟩, htarget⟩ := Option.ne_none_iff_exists'.1 hsome
    have hspells := target?_classify_eq_some_iff.1 htarget
    exact (target?_classify_eq_some_iff.1 (hsame ▸ htarget)).path_eq hspells

end ConnectorCatalog
