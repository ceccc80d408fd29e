import Mathlib.Data.List.Induction
import ConnectorCatalog.Proofs.AddedReleases

/-!
# Releases filed by connector and version

The releases of a diff can be found without its change set and without sorting them together: every
release is filed under its connector, and there under the text of its version.  Going through the
connectors, and for each of them through its releases in the order of versions, comes to the same
list.

* `ReleaseIndex` is such a file; `ReleaseIndex.mem_listed` says what it holds.
* `addedReleases_filed` : **the releases that a diff adds are listed once each, in their order, and
  they are those of the file.**  Only what the added paths spell out counts.
-/

namespace ConnectorCatalog

open Keyed Std Text

/-! ### The file -/

/-- Releases by their connectors, and those of each connector by the texts of their versions, with
their packaging files. -/
structure ReleaseIndex where
  shelves : List (Identity × List (String × String))
  sorted : Sorted (byKey Identity.compare) shelves
  /-- The releases of a connector are in the order of the texts, not of the versions. -/
  sorted_of_mem : ∀ shelf ∈ shelves, Sorted (byKey compareTexts) shelf.2
  /-- A connector has its place with its first release. -/
  ne_nil_of_mem : ∀ shelf ∈ shelves, shelf.2 ≠ []

namespace ReleaseIndex

/-- Nothing is filed. -/
def empty : ReleaseIndex where
  shelves := []
  sorted := .nil
  sorted_of_mem := by simp
  ne_nil_of_mem := by simp

/-- What is filed under a connector. -/
def shelf (index : ReleaseIndex) (connector : Identity) : List (String × String) :=
  (index.shelves.lookup connector).getD []

theorem mem_of_lookup {index : ReleaseIndex} {connector : Identity} {items : List (String × String)}
    (h : index.shelves.lookup connector = some items) : (connector, items) ∈ index.shelves := by
  obtain ⟨before, after, hsplit, -⟩ := List.lookup_eq_some_iff.1 h
  simp [hsplit]

theorem sorted_shelf (index : ReleaseIndex) (connector : Identity) :
    Sorted (byKey compareTexts) (index.shelf connector) := by
  rw [shelf]
  cases h : index.shelves.lookup connector with
  | none => exact .nil
  | some items => exact index.sorted_of_mem _ (mem_of_lookup h)

theorem ne_nil_insert {α : Type} {cmp : α → α → Ordering} {item : α} {items : List α} :
    Keyed.insert cmp item items ≠ [] := by
  cases items with
  | nil => simp [Keyed.insert]
  | cons other rest =>
    rw [Keyed.insert]
    split <;> simp

/-- The file with one more release; it takes the place of one of the same connector and version. -/
def file (index : ReleaseIndex) (added : AddedRelease) : ReleaseIndex :=
  let items := Keyed.insert (byKey compareTexts) (added.id.version, added.packagingPath)
    (index.shelf added.id.connector)
  { shelves := Keyed.insert (byKey Identity.compare) (added.id.connector, items) index.shelves
    sorted := sorted_insert index.sorted
    sorted_of_mem := fun shelf hshelf => by
      rcases (mem_insert index.sorted).1 hshelf with rfl | ⟨hshelf, -⟩
      · exact sorted_insert (index.sorted_shelf _)
      · exact index.sorted_of_mem shelf hshelf
    ne_nil_of_mem := fun shelf hshelf => by
      rcases (mem_insert index.sorted).1 hshelf with rfl | ⟨hshelf, -⟩
      · exact ne_nil_insert
      · exact index.ne_nil_of_mem shelf hshelf }

/-- The file of releases that come one after the other. -/
def ofReleases (releases : List AddedRelease) : ReleaseIndex := releases.foldl file empty

/-- The file of the releases that changes make. -/
def ofChanges (changes : List Change) : ReleaseIndex := ofReleases (changes.filterMap Change.added?)

/-- The connectors that have releases, in their order. -/
def connectors (index : ReleaseIndex) : List Identity := index.shelves.map Prod.fst

/-- The releases of a connector, in the order of versions. -/
def releasesOf (index : ReleaseIndex) (connector : Identity) : List (String × String) :=
  sortBy (byKey ReleaseVersion.compare) (index.shelf connector)

/-- All releases, connector by connector. -/
def listed (index : ReleaseIndex) : List AddedRelease :=
  index.connectors.flatMap fun connector =>
    (index.releasesOf connector).map fun (version, path) => ⟨⟨connector, version⟩, path⟩

variable {index : ReleaseIndex} {added : AddedRelease} {connector : Identity}

/-! ### What is filed -/

/-- A release is filed under its connector and its version. -/
def Holds (index : ReleaseIndex) (added : AddedRelease) : Prop :=
  (added.id.version, added.packagingPath) ∈ index.shelf added.id.connector

theorem shelf_file (index : ReleaseIndex) (added : AddedRelease) (connector : Identity) :
    (index.file added).shelf connector = if connector = added.id.connector then
      Keyed.insert (byKey compareTexts) (added.id.version, added.packagingPath)
        (index.shelf added.id.connector)
    else index.shelf connector := by
  rw [shelf, file, lookup_insert]
  split
  · rfl
  · rfl

theorem holds_file {other : AddedRelease} :
    (index.file other).Holds added ↔ added = other ∨ index.Holds added ∧ added.id ≠ other.id := by
  obtain ⟨⟨connector, version⟩, path⟩ := added
  obtain ⟨⟨connector', version'⟩, path'⟩ := other
  simp only [Holds, shelf_file]
  by_cases hconnector : connector = connector'
  · subst hconnector
    rw [if_pos rfl, mem_insert (index.sorted_shelf _), byKey, ne_eq,
      LawfulEqCmp.compare_eq_iff_eq]
    simp [eq_comm (a := version')]
  · simp [hconnector]

/-- Where every release has one packaging file, all that come are filed. -/
theorem holds_ofReleases {releases : List AddedRelease}
    (h : ∀ a ∈ releases, ∀ b ∈ releases, a.id = b.id → a = b) :
    (ofReleases releases).Holds added ↔ added ∈ releases := by
  induction releases using List.reverseRecOn with
  | nil => simp [ofReleases, Holds, shelf, empty]
  | append_singleton releases last ih =>
    have ih := ih fun a ha b hb => h a (by simp [ha]) b (by simp [hb])
    have hlast : added ∈ releases → added.id = last.id → added = last := fun ha =>
      h added (by simp [ha]) last (by simp)
    rw [ofReleases, List.foldl_concat, holds_file, ← ofReleases, ih]
    simp only [List.mem_append, List.mem_singleton]
    grind

-- Filed by text, the later version comes first.
example : (ofReleases [⟨⟨⟨"acme", "db"⟩, "v1.9.0"⟩, "old.json"⟩,
    ⟨⟨⟨"acme", "db"⟩, "v1.10.0"⟩, "new.json"⟩]).shelf ⟨"acme", "db"⟩ =
      [("v1.10.0", "new.json"), ("v1.9.0", "old.json")] := by
  decide

theorem mem_connectors : connector ∈ index.connectors ↔ index.shelf connector ≠ [] := by
  rw [connectors, shelf]
  cases h : index.shelves.lookup connector with
  | none =>
    rw [List.lookup_eq_none_iff] at h
    have hnot : connector ∉ index.shelves.map Prod.fst := by
      rintro hmem
      obtain ⟨entry, hentry, rfl⟩ := List.mem_map.1 hmem
      simpa using h entry hentry
    simp [hnot]
  | some items =>
    have hmem := mem_of_lookup h
    simp only [Option.getD_some, ne_eq, index.ne_nil_of_mem _ hmem, not_false_eq_true, iff_true]
    exact List.mem_map_of_mem hmem

/-! ### What is listed -/

theorem mem_releasesOf {version path : String} :
    (version, path) ∈ index.releasesOf connector ↔ index.Holds ⟨⟨connector, version⟩, path⟩ :=
  mem_sortBy

theorem sorted_releasesOf (index : ReleaseIndex) (connector : Identity) :
    Sorted (byKey ReleaseVersion.compare) (index.releasesOf connector) :=
  sorted_sortBy_byKey ((index.sorted_shelf connector).nodup_map fun _ _ =>
    LawfulEqCmp.compare_eq_iff_eq.2)

theorem mem_listed : added ∈ index.listed ↔ index.Holds added := by
  obtain ⟨⟨connector, version⟩, path⟩ := added
  simp only [listed, List.mem_flatMap, List.mem_map, Prod.exists, mem_releasesOf, mem_connectors]
  constructor
  · rintro ⟨_, -, _, _, hholds, heq⟩
    cases heq
    exact hholds
  · intro hholds
    exact ⟨connector, List.ne_nil_of_mem hholds, version, path, hholds, rfl⟩

theorem sorted_listed (index : ReleaseIndex) : Sorted AddedRelease.compare index.listed := by
  refine List.pairwise_flatMap.2 ⟨fun connector _ => ?_, ?_⟩
  · refine (index.sorted_releasesOf connector).map _ ?_
    rintro ⟨version, path⟩ ⟨version', path'⟩ hlt
    exact (AddedRelease.compare_of_connector_eq (by rfl)).trans hlt
  · refine List.pairwise_map.2 (index.sorted.imp fun {a b} hlt => ?_)
    simp only [List.mem_map]
    rintro _ ⟨_, -, rfl⟩ _ ⟨_, -, rfl⟩
    rw [byKey] at hlt
    rw [AddedRelease.compare, hlt]
    rfl

end ReleaseIndex

/-! ### The releases of a diff -/

section

variable {files : ChangedFiles} {set : ChangeSet} {changes : List Change} {added : AddedRelease}

/-- A diff adds the packaging file of a release. -/
def ChangedFiles.Adds (files : ChangedFiles) (added : AddedRelease) : Prop :=
  ∃ path ∈ files.added, classify path .added =
    .ok (some ⟨added.id.connector, .release added.id.version, added.packagingPath⟩)

theorem addedRelease?_eq_some_iff_classify {path : String} : addedRelease? path = some added ↔
    classify path .added =
      .ok (some ⟨added.id.connector, .release added.id.version, added.packagingPath⟩) := by
  rw [addedRelease?_eq, Option.bind_eq_some_iff]
  simp only [requested?_eq_some, Change.added?_eq_some]
  constructor
  · rintro ⟨⟨connector, kind, path'⟩, hclassify, rfl, rfl, rfl⟩
    exact hclassify
  · intro hclassify
    exact ⟨_, hclassify, rfl, rfl, rfl⟩

theorem classify_congr {path path' : String} (h : normalize path = normalize path')
    (origin : Origin) : classify path origin = classify path' origin := by
  rw [classify, classify, h]

theorem ChangedFiles.Adds.of_spellings {files' : ChangedFiles} (hadds : files.Adds added)
    (h : ∀ path ∈ files.added.map normalize, path ∈ files'.added.map normalize) :
    files'.Adds added := by
  obtain ⟨path, hpath, hclassify⟩ := hadds
  obtain ⟨path', hpath', hspelling⟩ := List.mem_map.1 (h _ (List.mem_map_of_mem hpath))
  exact ⟨path', hpath', (classify_congr hspelling .added).trans hclassify⟩

theorem adds_iff : files.Adds added ↔ added ∈ addedReleases files := by
  simp only [mem_addedReleases, ChangedFiles.Adds, addedRelease?_eq_some_iff_classify]

theorem releases_classifyAll (h : classifyAll files = .ok changes) :
    changes.filterMap Change.added? = files.added.filterMap addedRelease? := by
  obtain ⟨fromAdded, fromModified, hadded, hmodified, rfl⟩ := classifyAll_eq_ok.1 h
  have hnone : fromModified.filterMap Change.added? = [] := by
    refine List.filterMap_eq_nil_iff.2 fun c hc => Option.eq_none_iff_forall_ne_some.2 fun r hr => ?_
    obtain ⟨path, -, hpath⟩ := mem_classifyList hmodified hc
    have horigin := (classify_eq_some_iff.1 hpath).2.1
    rw [(Change.added?_eq_some.1 hr).1] at horigin
    cases horigin
  rw [List.filterMap_append, hnone, List.append_nil, classifyList_eq_filterMap hadded,
    List.filterMap_filterMap]
  exact List.filterMap_congr fun path _ => (addedRelease?_eq path).symm

/-- The file of the changes of a diff holds the releases that the diff adds. -/
theorem holds_ofChanges (h : classifyAll files = .ok changes) :
    (ReleaseIndex.ofChanges changes).Holds added ↔ added ∈ addedReleases files := by
  rw [ReleaseIndex.ofChanges, releases_classifyAll h, ReleaseIndex.holds_ofReleases,
    mem_addedReleases, List.mem_filterMap]
  intro a ha b hb hid
  obtain ⟨path, -, hpath⟩ := List.mem_filterMap.1 ha
  obtain ⟨path', -, hpath'⟩ := List.mem_filterMap.1 hb
  exact eq_of_addedRelease? hpath hpath' hid

/-- A release of a connector, by its version. -/
def AddedRelease.under? (connector : Identity) (added : AddedRelease) : Option (String × String) :=
  if added.id.connector = connector then some (added.id.version, added.packagingPath) else none

theorem ChangeSet.releasesOf_eq (set : ChangeSet) (connector : Identity) :
    set.releasesOf connector = set.added.filterMap (AddedRelease.under? connector) := by
  rw [releasesOf, ChangeSet.added, List.filterMap_filterMap]
  refine List.filterMap_congr fun c _ => ?_
  rw [Change.added?, Change.release?]
  cases c.version? <;> simp [AddedRelease.under?]

/-- A change set has the releases of a connector as they are filed. -/
theorem ChangeSet.releasesOf_filed (hchanges : classifyAll files = .ok changes)
    (hset : ChangeSet.aggregate changes = .ok set) (connector : Identity) :
    set.releasesOf connector = (ReleaseIndex.ofChanges changes).releasesOf connector := by
  have hfiles : ofFiles files = .ok set := by rw [ofFiles, hchanges, Except.ok_bind, hset]
  have hsorted : Sorted (byKey ReleaseVersion.compare) (set.releasesOf connector) := by
    rw [releasesOf_eq, Sorted, List.pairwise_filterMap]
    refine (added_sorted hfiles).imp fun {a b} hlt r hr s hs => ?_
    simp only [AddedRelease.under?, Option.ite_none_right_eq_some, Option.some.injEq] at hr hs
    obtain ⟨rfl, rfl⟩ := hr
    obtain ⟨hconnector, rfl⟩ := hs
    rwa [AddedRelease.compare_of_connector_eq hconnector.symm] at hlt
  refine hsorted.eq_of_mem_iff (ReleaseIndex.sorted_releasesOf _ _) fun r => ?_
  obtain ⟨version, path⟩ := r
  rw [ReleaseIndex.mem_releasesOf, holds_ofChanges hchanges, addedReleases_eq hfiles, releasesOf_eq,
    List.mem_filterMap]
  simp only [AddedRelease.under?, Option.ite_none_right_eq_some, Option.some.injEq, Prod.mk.injEq]
  constructor
  · rintro ⟨⟨⟨_, _⟩, _⟩, hadded, rfl, rfl, rfl⟩
    exact hadded
  · intro hadded
    exact ⟨_, hadded, rfl, rfl, rfl⟩

end

/-- **The releases that a diff adds are listed once each, by connector and version, as they are
filed.**  No added path is at fault.  The list strictly increases and holds what the added paths
make, whatever else the diff names, in whatever order and however often they are named, and
whichever way they are spelled.  Where the diff has a change set, its releases of each connector are
those filed under the connector, in the order of versions; one connector after the other, they are
the list. -/
theorem addedReleases_filed (files : ChangedFiles) :
    (∃ changes, classifyList .added files.added = .ok changes ∧
      addedReleases files =
        dropRepeats (sortBy AddedRelease.compare (changes.filterMap Change.added?))) ∧
    Sorted AddedRelease.compare (addedReleases files) ∧
    ((addedReleases files).map (·.id)).Nodup ∧
    (∀ added, added ∈ addedReleases files ↔ files.Adds added) ∧
    (∀ files' : ChangedFiles,
      (∀ path, path ∈ files.added.map normalize ↔ path ∈ files'.added.map normalize) →
      addedReleases files = addedReleases files') ∧
    ∀ changes set, classifyAll files = .ok changes → ChangeSet.aggregate changes = .ok set →
      (∀ connector, set.releasesOf connector =
        (ReleaseIndex.ofChanges changes).releasesOf connector) ∧
      addedReleases files = (ReleaseIndex.ofChanges changes).connectors.flatMap fun connector =>
        (set.releasesOf connector).map fun (version, path) => ⟨⟨connector, version⟩, path⟩ := by
  refine ⟨?_, sorted_addedReleases files, ?_, fun added => adds_iff.symm, ?_, ?_⟩
  · obtain ⟨changes, hchanges⟩ := exists_classifyList_added files.added
    refine ⟨changes, hchanges, ?_⟩
    rw [addedReleases, classifyList_eq_filterMap hchanges, List.filterMap_filterMap]
    simp only [addedRelease?_eq]
  · refine (sorted_addedReleases files).nodup_map fun a b hid => ?_
    rw [AddedRelease.compare_of_connector_eq (congrArg _ hid), hid]
    exact ReflCmp.compare_self
  · intro files' hspellings
    refine (sorted_addedReleases files).eq_of_mem_iff (sorted_addedReleases files') fun added => ?_
    rw [← adds_iff, ← adds_iff]
    exact ⟨fun h => h.of_spellings fun path => (hspellings path).1,
      fun h => h.of_spellings fun path => (hspellings path).2⟩
  · intro changes set hchanges hset
    have hreleases := ChangeSet.releasesOf_filed hchanges hset
    refine ⟨hreleases, ?_⟩
    simp only [hreleases]
    change addedReleases files = (ReleaseIndex.ofChanges changes).listed
    refine (sorted_addedReleases files).eq_of_mem_iff (ReleaseIndex.sorted_listed _) fun added => ?_
    rw [ReleaseIndex.mem_listed, holds_ofChanges hchanges]

end ConnectorCatalog
