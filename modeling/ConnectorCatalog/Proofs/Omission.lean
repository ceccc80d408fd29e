import ConnectorCatalog.Proofs.ChangeSet

/-!
# Leaving a release out of a diff

Without the added paths that spell the packaging file of one release, a diff asks for the same but
this release (`ofFiles_without`), and a run has the same to do otherwise (`agenda_without`).
-/

namespace ConnectorCatalog

open Keyed Std Text

/-- The diff without the added paths of one spelling. -/
def ChangedFiles.without (files : ChangedFiles) (path : String) : ChangedFiles :=
  { files with added := files.added.filter (normalize · != path) }

/-! ### Classification -/

theorem classifyList_filter {origin : Origin} {path : String} {paths : List String}
    {changes : List Change} (h : classifyList origin paths = .ok changes) :
    classifyList origin (paths.filter (normalize · != path)) =
      .ok (changes.filter (·.path != path)) := by
  induction paths generalizing changes with
  | nil =>
    rw [classifyList, Except.return_eq_ok] at h
    subst h
    rfl
  | cons p rest ih =>
    obtain ⟨change?, more, hp, hr, rfl⟩ := classifyList_cons_eq_ok.1 h
    have hpath : ∀ c ∈ change?, c.path = normalize p := by
      intro c hc
      exact (classify_eq_some (hc ▸ hp)).1
    rw [List.filter_append]
    by_cases hsame : normalize p = path
    · have hnone : change?.toList.filter (·.path != path) = [] := by
        refine List.filter_eq_nil_iff.2 fun c hc => ?_
        simp [hpath c (Option.mem_toList.1 hc), hsame]
      rw [hnone, List.filter_cons_of_neg (by simp [hsame])]
      exact ih hr
    · have hall : change?.toList.filter (·.path != path) = change?.toList := by
        refine List.filter_eq_self.2 fun c hc => ?_
        simpa [hpath c (Option.mem_toList.1 hc)] using hsame
      rw [hall, List.filter_cons_of_pos (by simpa using hsame)]
      exact classifyList_cons_eq_ok.2 ⟨_, _, hp, ih hr, rfl⟩

theorem Change.Placed.eq_of_path_eq {c r : Change} (hc : c.Placed) (hr : r.Placed)
    {release : ReleaseId} (hrelease : r.release? = some release) (hpath : c.path = r.path) :
    c = r := by
  have hseg := hc.segments_path
  rw [hpath, hr.segments_path] at hseg
  obtain ⟨⟨ns, name⟩, kind, path⟩ := c
  obtain ⟨⟨ns', name'⟩, kind', path'⟩ := r
  obtain ⟨rfl, -⟩ := release?_eq_some hrelease
  cases hpath
  cases kind with
  | release version =>
    simp only [ChangeKind.item, RegistryItem.segments, List.cons.injEq] at hseg
    obtain ⟨-, rfl, rfl, -, rfl, -⟩ := hseg
    rfl
  | _ => simp [ChangeKind.item, RegistryItem.segments] at hseg

/-- Only the release itself is placed where its packaging file is. -/
theorem Change.Placed.path_eq_iff {c r : Change} (hc : c.Placed) (hr : r.Placed)
    {release : ReleaseId} (hrelease : r.release? = some release) :
    c.path = r.path ↔ c.release? = some release := by
  constructor
  · intro hpath
    rw [hc.eq_of_path_eq hr hrelease hpath, hrelease]
  · intro hsame
    obtain ⟨hkind, hconn⟩ := release?_eq_some hsame
    obtain ⟨hkind', hconn'⟩ := release?_eq_some hrelease
    exact hc.path_eq hr (hconn.trans hconn'.symm) (by rw [hkind, hkind'])

theorem Change.release?_eq_none_of_isFrom {c : Change} (h : c.kind.IsFrom .modified) :
    c.release? = none := by
  obtain ⟨connector, kind, path⟩ := c
  cases kind with
  | release version => cases h
  | _ => rfl

variable {files : ChangedFiles} {changes : List Change} {change : Change} {release : ReleaseId}

theorem classifyAll_without (h : classifyAll files = .ok changes) (hplaced : change.Placed)
    (hrelease : change.release? = some release) :
    classifyAll (files.without change.path) = .ok (changes.filter (·.path != change.path)) := by
  obtain ⟨added, modified, hadded, hmodified, rfl⟩ := classifyAll_eq_ok.1 h
  have hkeep : modified.filter (·.path != change.path) = modified := by
    refine List.filter_eq_self.2 fun c hc => bne_iff_ne.2 fun hpath => ?_
    obtain ⟨path, -, hclassify⟩ := mem_classifyList hmodified hc
    obtain ⟨-, hcplaced, hfrom⟩ := classify_eq_some hclassify
    obtain rfl := hcplaced.eq_of_path_eq hplaced hrelease hpath
    rw [Change.release?_eq_none_of_isFrom hfrom] at hrelease
    cases hrelease
  rw [List.filter_append, hkeep]
  exact classifyAll_eq_ok.2 ⟨_, _, classifyList_filter hadded, hmodified, rfl⟩

/-! ### Change sets -/

namespace ChangeSet

/-- The set without a release. -/
def without (set : ChangeSet) (release : ReleaseId) : ChangeSet :=
  ⟨set.changes.filter (·.release? != some release)⟩

variable {set set' : ChangeSet}

theorem isNewConnector_without (connector : Identity) :
    (set.without release).isNewConnector connector = set.isNewConnector connector := by
  rw [Bool.eq_iff_iff, isNewConnector_iff, isNewConnector_iff]
  constructor
  · rintro ⟨c, hc, h⟩
    exact ⟨c, (List.mem_filter.1 hc).1, h⟩
  · rintro ⟨c, hc, hbucket, hconn⟩
    refine ⟨c, List.mem_filter.2 ⟨hc, bne_iff_ne.2 fun hrelease => ?_⟩, hbucket, hconn⟩
    rw [Change.bucket_eq_newConnector, (Change.release?_eq_some hrelease).1] at hbucket
    cases hbucket

theorem filter_insert_without (hsorted : Sorted Change.compare set.changes) (release : ReleaseId)
    (c : Change) :
    (Keyed.insert Change.compare c set.changes).filter (·.release? != some release) =
      if c.release? != some release then
        Keyed.insert Change.compare c (set.without release).changes
      else (set.without release).changes :=
  filter_insert hsorted fun a b hab => by rw [Change.release?_congr hab]

theorem insertAll_without (hsorted : Sorted Change.compare set.changes)
    (h : set.insertAll changes = .ok set') :
    (set.without release).insertAll (changes.filter (·.release? != some release)) =
      .ok (set'.without release) := by
  induction changes generalizing set with
  | nil =>
    cases h
    rfl
  | cons c rest ih =>
    obtain ⟨next, hnext, hrest⟩ := insertAll_cons_eq_ok.1 h
    obtain ⟨hfree, hchanges⟩ := insert_eq_ok.1 hnext
    have hfilter := filter_insert_without hsorted release c
    rw [← hchanges] at hfilter
    have ih := ih (by rw [hchanges]; exact sorted_insert hsorted) hrest
    by_cases hc : c.release? = some release
    · -- The whole set alone takes the release in.
      have hsame : next.without release = set.without release := by
        rw [without, hfilter]
        simp [hc]
      rw [List.filter_cons_of_neg (by simp [hc]), ← hsame]
      exact ih
    · rw [List.filter_cons_of_pos (by simpa using hc)]
      refine insertAll_cons_eq_ok.2 ⟨next.without release, insert_eq_ok.2 ⟨?_, ?_⟩, ih⟩
      · rw [isNewConnector_without]
        exact hfree
      · rw [without, hfilter, if_pos (by simpa using hc)]

/-- **Without the packaging file of a release, a diff asks for the same but this release.** -/
theorem ofFiles_without (h : ofFiles files = .ok set) (hchange : change ∈ set.changes)
    (hrelease : change.release? = some release) :
    ofFiles (files.without change.path) = .ok (set.without release) := by
  obtain ⟨changes, hclassify, hinsert⟩ := ofFiles_eq_ok.1 h
  have hplaced := placed_of_ofFiles h hchange
  -- The diff is filtered by path and the set by release, which is the same for placed changes.
  have hkeep : changes.filter (·.path != change.path) =
      changes.filter (·.release? != some release) := by
    refine List.filter_congr fun c hc => ?_
    have hcplaced := (mem_classifyAll hclassify hc).1
    rw [Bool.eq_iff_iff, bne_iff_ne, bne_iff_ne]
    exact not_congr (hcplaced.path_eq_iff hplaced hrelease)
  refine ofFiles_eq_ok.2 ⟨_, classifyAll_without hclassify hplaced hrelease, ?_⟩
  rw [hkeep]
  exact insertAll_without List.Pairwise.nil hinsert

theorem agenda_without :
    (set.without release).agenda = set.agenda.filter (·.release? != some release) := by
  have hfolded : (set.without release).isFolded = set.isFolded := by
    funext c
    simp only [isFolded, isNewConnector_without]
  rw [agenda, agenda, hfolded, without, List.filter_filter, List.filter_filter]
  exact List.filter_congr fun c _ => Bool.and_comm ..

/-- A set holds one change for a release at most. -/
theorem eq_of_release?_eq (h : ofFiles files = .ok set) {c : Change} (hc : c ∈ set.changes)
    (hchange : change ∈ set.changes) (hrelease : change.release? = some release)
    (hsame : c.release? = some release) : c = change := by
  have hcplaced := placed_of_ofFiles h hc
  have hplaced := placed_of_ofFiles h hchange
  exact hcplaced.eq_of_path_eq hplaced hrelease ((hcplaced.path_eq_iff hplaced hrelease).2 hsame)

end ChangeSet

end ConnectorCatalog
