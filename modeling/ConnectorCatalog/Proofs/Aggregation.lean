import Mathlib.Data.List.Nodup
import ConnectorCatalog.Proofs.ChangeSet
import ConnectorCatalog.Proofs.Immutability

/-!
# Change sets lose nothing and make nothing up

A change set is collected from the paths of a diff one after the other, and a change takes the place
of an earlier one of its key.  The key of a change determines its path, except that a connector has
a logo in one of two formats; so that is all that can be lost.

* `classify_eq_some_iff` : which paths ask for a change.
* `ChangeSet.mem_changes_iff` : the changes of the set of a diff are those that are left of its two
  lists (`IsLeft`).
* `exists_ofFiles_eq_error_iff` : a diff has no change set exactly if it modifies a packaging file
  or adds the metadata of a connector twice.
* `ofFiles_faithful` : **the report of a diff holds one entry for each path of a list that is
  understood, in the order of reports**, and does not depend on the order of the paths.
-/

namespace ConnectorCatalog

open Keyed Std Text

/-! ### What a path asks for -/

/-- The list of a diff that a kind of change stands in. -/
def ChangeKind.origin : ChangeKind → Origin
  | metadata origin => origin
  | logo origin _ => origin
  | readme origin => origin
  | release _ => .added

namespace ChangeKind

variable {kind kind' : ChangeKind} {origin : Origin}

theorem isFrom_iff : kind.IsFrom origin ↔ kind.origin = origin := by
  cases kind with
  | release version => exact eq_comm
  | _ => exact Iff.rfl

theorem eq_of_item_eq (hitem : kind.item = kind'.item) (horigin : kind.origin = kind'.origin) :
    kind = kind' := by
  cases kind <;> cases kind' <;> cases hitem <;> cases horigin <;> rfl

theorem origin_eq_of_bucket_eq (h : kind.bucket = kind'.bucket) : kind.origin = kind'.origin := by
  rcases kind with (_ | _) | ⟨_ | _, _⟩ | (_ | _) | _ <;>
    rcases kind' with (_ | _) | ⟨_ | _, _⟩ | (_ | _) | _ <;> first | rfl | cases h

/-- Kinds with one heading and one version differ in the format of a logo at most. -/
theorem eq_or_logo_of_bucket_eq (h : kind.bucket = kind'.bucket)
    (hversion : kind.version? = kind'.version?) :
    kind = kind' ∨ ∃ origin format other, kind = .logo origin format ∧
      kind' = .logo origin other ∧ format ≠ other := by
  -- The heading fixes the sort of the kind and its list.
  rcases kind with (_ | _) | ⟨_ | _, format⟩ | (_ | _) | version <;>
    rcases kind' with (_ | _) | ⟨_ | _, other⟩ | (_ | _) | version' <;> cases h
  case logo.added.logo.added => exact (eq_or_ne format other).imp (congrArg _) fun hne =>
    ⟨_, _, _, rfl, rfl, hne⟩
  case logo.modified.logo.modified => exact (eq_or_ne format other).imp (congrArg _) fun hne =>
    ⟨_, _, _, rfl, rfl, hne⟩
  case release.release =>
    cases hversion
    exact .inl rfl
  all_goals exact .inl rfl

end ChangeKind

theorem classify_of_kind {path : String} {connector : Identity} (kind : ChangeKind)
    (h : Spells (normalize path) connector kind.item) :
    classify path kind.origin = .ok (some ⟨connector, kind, normalize path⟩) := by
  rw [classify_of_spells h]
  cases kind <;> rfl

/-- **A path asks for the change about what it spells out.** -/
theorem classify_eq_some_iff {path : String} {origin : Origin} {c : Change} :
    classify path origin = .ok (some c) ↔ Spells (normalize path) c.connector c.kind.item ∧
      c.kind.origin = origin ∧ c.path = normalize path := by
  constructor
  · intro h
    obtain ⟨hpath, hplaced, hfrom⟩ := classify_eq_some h
    exact ⟨hpath ▸ hplaced.spells, ChangeKind.isFrom_iff.1 hfrom, hpath⟩
  · rintro ⟨hspells, rfl, hpath⟩
    rw [classify_of_kind _ hspells, ← hpath]

/-- The change that a path asks for, if it is understood. -/
def requested? (origin : Origin) (path : String) : Option Change :=
  (classify path origin).toOption.join

theorem requested?_eq_some {origin : Origin} {path : String} {c : Change} :
    requested? origin path = some c ↔ classify path origin = .ok (some c) := by
  rw [requested?, Option.join_eq_some_iff, Except.toOption_eq_some]

theorem classifyList_eq_filterMap {origin : Origin} {paths : List String} {changes : List Change}
    (h : classifyList origin paths = .ok changes) : changes = paths.filterMap (requested? origin) := by
  induction paths generalizing changes with
  | nil => exact (Except.return_eq_ok.1 h).symm
  | cons path rest ih =>
    obtain ⟨change?, more, hpath, hrest, rfl⟩ := classifyList_cons_eq_ok.1 h
    have hrequested : requested? origin path = change? := by
      rw [requested?, hpath]
      rfl
    rw [List.filterMap_cons, hrequested, ← ih hrest]
    cases change? <;> rfl

/-! ### What is left of a diff -/

/-- The paths of one list of a diff. -/
def ChangedFiles.inList (files : ChangedFiles) : Origin → List String
  | .added => files.added
  | .modified => files.modified

/-- A path of a list asks for a change, and none further down is the logo of the same connector in
the other format. -/
def IsLeft (origin : Origin) (paths : List String) (c : Change) : Prop :=
  ∃ earlier path later, paths = earlier ++ path :: later ∧
    classify path origin = .ok (some c) ∧
    ∀ format other, c.kind = .logo origin format → other ≠ format →
      ∀ p ∈ later, ¬Spells (normalize p) c.connector (.logo other)

/-- Placed changes of one key differ in the format of a logo at most. -/
theorem Change.Placed.eq_or_logo {c d : Change} (hc : c.Placed) (hd : d.Placed)
    (h : Change.compare c d = .eq) : c = d ∨ ∃ origin format other,
      c.kind = .logo origin format ∧ d.kind = .logo origin other ∧ format ≠ other := by
  obtain ⟨hbucket, hconnector, hversion⟩ := Change.compare_eq_iff.1 h
  refine (ChangeKind.eq_or_logo_of_bucket_eq hbucket hversion).imp_left fun hkind => ?_
  have hpath := hc.path_eq hd hconnector (congrArg ChangeKind.item hkind)
  obtain ⟨connector, kind, path⟩ := c
  cases hconnector
  cases hkind
  cases hpath
  rfl

theorem Change.compare_eq_of_logo {c : Change} {origin : Origin} {format : LogoFormat}
    (hc : c.kind = .logo origin format) (other : LogoFormat) (path : String) :
    Change.compare ⟨c.connector, .logo origin other, path⟩ c = .eq := by
  rw [Change.compare_eq_iff, Change.bucket, Change.bucket, Change.version?, Change.version?, hc]
  refine ⟨?_, rfl, rfl⟩
  cases origin <;> rfl

/-- What stays of the changes that the paths of a list ask for is what is left of the list. -/
theorem stays_requested_iff {origin : Origin} {paths : List String} {c : Change} :
    Stays Change.compare (paths.filterMap (requested? origin)) c ↔ IsLeft origin paths c := by
  rw [stays_filterMap, IsLeft]
  refine exists_congr fun earlier => exists_congr fun path => exists_congr fun later => ?_
  simp only [requested?_eq_some]
  refine and_congr_right fun _ => and_congr_right fun hpath => ?_
  obtain ⟨-, hplaced, hfrom⟩ := classify_eq_some hpath
  -- A later change of the same key is this change or the logo in the other format.
  constructor
  · intro hlater format other hkind hother p hp hspells
    have hd := classify_of_kind (.logo origin other) hspells
    have hkind' := congrArg Change.kind
      (hlater p hp _ hd (Change.compare_eq_of_logo hkind other (normalize p)))
    rw [hkind] at hkind'
    cases hkind'
    exact hother rfl
  · intro hlater p hp d hd hcompare
    obtain ⟨hpath', hplaced', hfrom'⟩ := classify_eq_some hd
    refine (hplaced'.eq_or_logo hplaced hcompare).resolve_right ?_
    rintro ⟨origin', other, format, hkind', hkind, hother⟩
    rw [ChangeKind.isFrom_iff, hkind] at hfrom
    cases hfrom
    refine hlater format other hkind hother p hp ?_
    have hspells := hplaced'.spells
    rw [hkind', (Change.compare_eq_iff.1 hcompare).2.1, hpath'] at hspells
    exact hspells

namespace ChangeSet

variable {files : ChangedFiles} {set : ChangeSet} {c : Change}

/-- **The changes of a diff are those that are left of its lists.** -/
theorem mem_changes_iff (h : ofFiles files = .ok set) :
    c ∈ set.changes ↔ ∃ origin, IsLeft origin (files.inList origin) c := by
  obtain ⟨changes, hclassify, hinsert⟩ := ofFiles_eq_ok.1 h
  obtain ⟨added, modified, hadded, hmodified, rfl⟩ := classifyAll_eq_ok.1 hclassify
  -- A modified file never asks for the same operation as an added one.
  have hcross : Stays Change.compare added c →
      ∀ d ∈ modified, Change.compare d c = .eq → d = c := by
    rintro ⟨earlier, later, rfl, -⟩ d hd hcompare
    obtain ⟨p, -, hp⟩ := mem_classifyList hmodified hd
    obtain ⟨q, -, hq⟩ := mem_classifyList hadded (c := c) (by simp)
    have horigin := ChangeKind.origin_eq_of_bucket_eq (Change.compare_eq_iff.1 hcompare).1
    rw [(classify_eq_some_iff.1 hp).2.1, (classify_eq_some_iff.1 hq).2.1] at horigin
    cases horigin
  have hnil : c ∉ empty.changes := List.not_mem_nil
  rw [mem_insertAll List.Pairwise.nil hinsert, or_iff_left (fun h => hnil h.1), stays_append,
    and_iff_left_of_imp hcross, classifyList_eq_filterMap hadded,
    classifyList_eq_filterMap hmodified, stays_requested_iff, stays_requested_iff]
  constructor
  · rintro (h | h)
    · exact ⟨.modified, h⟩
    · exact ⟨.added, h⟩
  · rintro ⟨_ | _, h⟩
    · exact .inr h
    · exact .inl h

theorem nodup_entries (h : ofFiles files = .ok set) :
    (set.changes.map fun c => (c.kind.origin, c.path)).Nodup := by
  rw [List.Nodup, List.pairwise_map]
  -- Two entries of one list and one path have one key, which a sorted list holds once.
  refine (sorted_of_ofFiles h).imp_of_mem fun {c d} hc hd hlt heq => ?_
  obtain ⟨horigin, hpath⟩ := Prod.mk.inj heq
  have hspells := (placed_of_ofFiles h hc).spells
  rw [hpath] at hspells
  obtain ⟨hconnector, hitem⟩ := hspells.unique (placed_of_ofFiles h hd).spells
  have hkind := ChangeKind.eq_of_item_eq hitem horigin
  have hcompare : Change.compare c d = .eq := Change.compare_eq_iff.2
    ⟨congrArg ChangeKind.bucket hkind, hconnector, congrArg ChangeKind.version? hkind⟩
  rw [hlt] at hcompare
  cases hcompare

end ChangeSet

/-! ### Diffs without a change set -/

/-- A path is the metadata of a connector. -/
def IsMetadataFile (path : String) (connector : Identity) : Prop :=
  Spells (normalize path) connector .metadata

/-- The connector that an added path creates. -/
def addedConnector? (path : String) : Option Identity :=
  (requested? .added path).bind Change.newConnector?

theorem addedConnector?_eq_some {path : String} {connector : Identity} :
    addedConnector? path = some connector ↔ IsMetadataFile path connector := by
  simp only [addedConnector?, Option.bind_eq_some_iff, requested?_eq_some, Change.newConnector?,
    Option.ite_none_right_eq_some, Option.some.injEq, Change.bucket_eq_newConnector]
  constructor
  · rintro ⟨c, hc, hkind, rfl⟩
    have hspells := (classify_eq_some_iff.1 hc).1
    rw [hkind] at hspells
    exact hspells
  · intro h
    exact ⟨_, classify_of_kind (.metadata .added) h, rfl, rfl⟩

/-- What `f` finds is found twice exactly if two members lead to it. -/
theorem not_nodup_filterMap_iff {α β : Type} {f : α → Option β} {l : List α} :
    ¬(l.filterMap f).Nodup ↔ ∃ b a a', [a, a'].Sublist l ∧ f a = some b ∧ f a' = some b := by
  simp only [List.nodup_iff_sublist, not_forall, not_not]
  refine exists_congr fun b => ⟨fun h => ?_, ?_⟩
  · obtain ⟨l', hl', heq⟩ := List.sublist_filterMap_iff.1 h
    obtain ⟨l₁, a, l₂, rfl, -, ha, hl₂⟩ := List.filterMap_eq_cons_iff.1 heq.symm
    obtain ⟨m₁, a', m₂, rfl, -, ha', -⟩ := List.filterMap_eq_cons_iff.1 hl₂
    refine ⟨a, a', .trans ?_ hl', ha, ha'⟩
    have hrest : [a'].Sublist (m₁ ++ a' :: m₂) := List.singleton_sublist.2 (by simp)
    exact (hrest.cons_cons a).trans (List.sublist_append_right _ _)
  · rintro ⟨a, a', hl, ha, ha'⟩
    have h := hl.filterMap f
    rwa [List.filterMap_cons_some ha, List.filterMap_cons_some ha', List.filterMap_nil] at h

/-- The connectors that a diff creates are those of the metadata that it adds. -/
theorem newConnectors_classifyAll {files : ChangedFiles} {changes : List Change}
    (h : classifyAll files = .ok changes) :
    changes.filterMap Change.newConnector? = files.added.filterMap addedConnector? := by
  obtain ⟨added, modified, hadded, hmodified, rfl⟩ := classifyAll_eq_ok.1 h
  have hnone : modified.filterMap Change.newConnector? = [] := by
    refine List.filterMap_eq_nil_iff.2 fun c hc => ?_
    obtain ⟨path, -, hpath⟩ := mem_classifyList hmodified hc
    refine if_neg fun hbucket => ?_
    have horigin := (classify_eq_some_iff.1 hpath).2.1
    rw [Change.bucket_eq_newConnector.1 hbucket] at horigin
    cases horigin
  rw [List.filterMap_append, hnone, List.append_nil, classifyList_eq_filterMap hadded,
    List.filterMap_filterMap]
  rfl

/-- **A diff has no change set exactly if it modifies a packaging file or adds the metadata of a
connector twice.** -/
theorem exists_ofFiles_eq_error_iff {files : ChangedFiles} :
    (∃ fault, ChangeSet.ofFiles files = .error fault) ↔
      (∃ path ∈ files.modified, ∃ release, IsPackagingFile path release) ∨
      ∃ connector path path', [path, path'].Sublist files.added ∧
        IsMetadataFile path connector ∧ IsMetadataFile path' connector := by
  rw [← exists_classifyAll_error_iff]
  cases hclassify : classifyAll files with
  | error fault => simp [ChangeSet.ofFiles, hclassify]
  | ok changes =>
    -- What is left to fail is that a connector is created twice.
    have hset : ChangeSet.ofFiles files = ChangeSet.empty.insertAll changes := by
      rw [ChangeSet.ofFiles, hclassify, Except.ok_bind]
      rfl
    have hsorted : Sorted Change.compare ChangeSet.empty.changes := List.Pairwise.nil
    have hfree : ∀ connector, ChangeSet.empty.isNewConnector connector = false := fun _ => rfl
    have herror : (∃ fault, ChangeSet.empty.insertAll changes = .error fault) ↔
        ¬∃ set, ChangeSet.empty.insertAll changes = .ok set := by
      cases ChangeSet.empty.insertAll changes <;> simp
    rw [hset, herror, ChangeSet.exists_insertAll_eq_ok_iff hsorted,
      newConnectors_classifyAll hclassify, and_iff_left fun connector _ => hfree connector,
      not_nodup_filterMap_iff]
    simp only [addedConnector?_eq_some, reduceCtorEq, exists_false, false_or]

/-! ### The order of a diff -/

/-- Two diffs that name the same paths in each list, in whatever order and however often each,
except that metadata files are added in the same order and equally often. -/
structure ChangedFiles.SameEntries (files files' : ChangedFiles) : Prop where
  mem_iff : ∀ origin path, path ∈ files.inList origin ↔ path ∈ files'.inList origin
  metadata : files.added.filter (fun path => (addedConnector? path).isSome) =
    files'.added.filter fun path => (addedConnector? path).isSome

/-- A list of a diff holds a path that asks for a change. -/
def ChangedFiles.AsksFor (files : ChangedFiles) (c : Change) : Prop :=
  ∃ path ∈ files.inList c.kind.origin, classify path c.kind.origin = .ok (some c)

/-- The logos of one connector in two formats, both in one list of a diff. -/
structure ChangedFiles.Rivals (files : ChangedFiles) (c d : Change) : Prop where
  kinds : ∃ origin format other, c.kind = .logo origin format ∧ d.kind = .logo origin other ∧
    format ≠ other
  connector : c.connector = d.connector
  asksFor : files.AsksFor c ∧ files.AsksFor d

namespace ChangedFiles.SameEntries

variable {files files' : ChangedFiles}

theorem symm (h : files.SameEntries files') : files'.SameEntries files :=
  ⟨fun origin path => (h.mem_iff origin path).symm, h.metadata.symm⟩

theorem asksFor (h : files.SameEntries files') {c : Change} (hc : files.AsksFor c) :
    files'.AsksFor c := by
  obtain ⟨path, hpath, hclassify⟩ := hc
  exact ⟨path, (h.mem_iff _ path).1 hpath, hclassify⟩

/-- Whether a diff has a change set does not depend on the order of its paths. -/
theorem exists_error (h : files.SameEntries files')
    (herror : ∃ fault, ChangeSet.ofFiles files = .error fault) :
    ∃ fault, ChangeSet.ofFiles files' = .error fault := by
  rw [exists_ofFiles_eq_error_iff] at herror ⊢
  rcases herror with ⟨path, hpath, hrelease⟩ | ⟨connector, path, path', htwice, hpath, hpath'⟩
  · exact .inl ⟨path, (h.mem_iff .modified path).1 hpath, hrelease⟩
  · refine .inr ⟨connector, path, path', ?_, hpath, hpath'⟩
    -- Both paths are metadata, and this part of the list is the same in both diffs.
    have htwice' := htwice.filter fun path => (addedConnector? path).isSome
    rw [h.metadata, List.filter_cons_of_pos (by rw [addedConnector?_eq_some.2 hpath]; rfl),
      List.filter_cons_of_pos (by rw [addedConnector?_eq_some.2 hpath']; rfl)] at htwice'
    exact htwice'.trans List.filter_sublist

end ChangedFiles.SameEntries

namespace ChangeSet

variable {files files' : ChangedFiles} {set set' : ChangeSet} {c : Change}

theorem asksFor_of_mem (h : ofFiles files = .ok set) (hc : c ∈ set.changes) : files.AsksFor c := by
  obtain ⟨origin, earlier, path, later, hsplit, hpath, -⟩ := (mem_changes_iff h).1 hc
  obtain ⟨-, rfl, -⟩ := classify_eq_some_iff.1 hpath
  exact ⟨path, by simp [hsplit], hpath⟩

/-- A change that a diff asks for is in its set, or the rival of a change there. -/
theorem exists_mem_of_asksFor (h : ofFiles files = .ok set) (hc : files.AsksFor c) :
    ∃ d ∈ set.changes, Change.compare c d = .eq ∧ (c = d ∨ files.Rivals c d) := by
  obtain ⟨path, hpath, hclassify⟩ := id hc
  have hmem : c ∈ (files.inList c.kind.origin).filterMap (requested? c.kind.origin) :=
    List.mem_filterMap.2 ⟨path, hpath, requested?_eq_some.2 hclassify⟩
  -- The last change of its key stays.
  have hleft : ∃ d, Stays Change.compare ((files.inList c.kind.origin).filterMap
      (requested? c.kind.origin)) d ∧ Change.compare d c = .eq := exists_stays_of_mem hmem
  obtain ⟨d, hstays, hcompare⟩ := hleft
  have hd : d ∈ set.changes := (mem_changes_iff h).2 ⟨_, stays_requested_iff.1 hstays⟩
  have hcompare := OrientedCmp.eq_symm hcompare
  refine ⟨d, hd, hcompare, ?_⟩
  refine ((classify_eq_some hclassify).2.1.eq_or_logo (placed_of_ofFiles h hd) hcompare).imp_right
    fun hkinds => ?_
  exact ⟨hkinds, (Change.compare_eq_iff.1 hcompare).2.1, hc, asksFor_of_mem h hd⟩

/-- The sets of diffs with the same entries are the same up to the choice between rivals. -/
theorem forall₂_of_sameEntries (hfiles : files.SameEntries files') (h : ofFiles files = .ok set)
    (h' : ofFiles files' = .ok set') :
    List.Forall₂ (fun c d => c = d ∨ files.Rivals c d) set.changes set'.changes := by
  -- Both sets are sorted, so it is enough that each entry has one of its key on the other side.
  have hmatch : List.Forall₂ (fun c d => Change.compare c d = .eq ∧ (c = d ∨ files.Rivals c d))
      set.changes set'.changes := by
    refine (sorted_of_ofFiles h).forall₂ (sorted_of_ofFiles h') (fun _ _ => And.left) ?_ ?_
    · intro c hc
      obtain ⟨d, hd, hcompare, hsame⟩ :=
        exists_mem_of_asksFor h' (hfiles.asksFor (asksFor_of_mem h hc))
      refine ⟨d, hd, hcompare, hsame.imp_right fun hrivals => ?_⟩
      exact ⟨hrivals.kinds, hrivals.connector, hfiles.symm.asksFor hrivals.asksFor.1,
        hfiles.symm.asksFor hrivals.asksFor.2⟩
    · intro d hd
      obtain ⟨c, hc, hcompare, hsame⟩ :=
        exists_mem_of_asksFor h (hfiles.symm.asksFor (asksFor_of_mem h' hd))
      refine ⟨c, hc, OrientedCmp.eq_symm hcompare, hsame.imp Eq.symm fun hrivals => ?_⟩
      obtain ⟨origin, format, other, hkind, hkind', hne⟩ := hrivals.kinds
      exact ⟨⟨origin, other, format, hkind', hkind, hne.symm⟩, hrivals.connector.symm,
        hrivals.asksFor.symm⟩
  exact hmatch.imp fun _ _ => And.right

/-- The changes of a set are the entries of the report of a diff: they are what is left of its
lists, one for each list and path, in the order of bucket, connector and version. -/
structure Reports (set : ChangeSet) (files : ChangedFiles) : Prop where
  mem_iff : ∀ c, c ∈ set.changes ↔ ∃ origin, IsLeft origin (files.inList origin) c
  nodup : (set.changes.map fun c => (c.kind.origin, c.path)).Nodup
  sorted : Sorted Change.compare set.changes

end ChangeSet

/-- **The report of a diff loses nothing and makes nothing up.**  A diff has no change set exactly
if it modifies a packaging file or adds the metadata of a connector twice.  Any other change set
holds, in the order of reports, one entry for each path of a list that is understood, except that of
two logos of a connector in one list the one further down is left.  So the order of the paths does
not count, nor how often each is named, but for the metadata that is added and for the choice
between such logos. -/
theorem ofFiles_faithful (files : ChangedFiles) :
    ((∃ fault, ChangeSet.ofFiles files = .error fault) ↔
      (∃ path ∈ files.modified, ∃ release, IsPackagingFile path release) ∨
      ∃ connector path path', [path, path'].Sublist files.added ∧
        IsMetadataFile path connector ∧ IsMetadataFile path' connector) ∧
    (∀ set, ChangeSet.ofFiles files = .ok set → set.Reports files) ∧
    ∀ files', files.SameEntries files' →
      ((∃ fault, ChangeSet.ofFiles files = .error fault) ↔
        ∃ fault, ChangeSet.ofFiles files' = .error fault) ∧
      ∀ set set', ChangeSet.ofFiles files = .ok set → ChangeSet.ofFiles files' = .ok set' →
        List.Forall₂ (fun c d => c = d ∨ files.Rivals c d) set.changes set'.changes := by
  refine ⟨exists_ofFiles_eq_error_iff, fun set h => ?_, fun files' hfiles => ⟨?_, ?_⟩⟩
  · exact ⟨fun c => ChangeSet.mem_changes_iff h, ChangeSet.nodup_entries h,
      ChangeSet.sorted_of_ofFiles h⟩
  · exact ⟨hfiles.exists_error, hfiles.symm.exists_error⟩
  · intro set set' h h'
    exact ChangeSet.forall₂_of_sameEntries hfiles h h'

-- Of two logos of a connector in one list the later one is left, however often each is named.
example : (ChangeSet.ofFiles ⟨["registry/acme/db/logo.svg", "registry/acme/db/logo.png",
    "registry/acme/db/logo.svg"], [], []⟩).toOption.map (·.changes.map (·.path)) =
      some ["registry/acme/db/logo.svg"] := by
  decide +kernel

end ConnectorCatalog
