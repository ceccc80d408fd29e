import ConnectorCatalog.Proofs.Memory
import ConnectorCatalog.Proofs.PathTable
import ConnectorCatalog.Publish.Run

/-!
# Releases are never modified

Of all the paths of a diff only a modified packaging file is a fault by itself
(`classifyAll_eq_error_iff`).  **A run whose diff modifies one is refused before it does anything**
(`publish_immutable`).
-/

namespace ConnectorCatalog

/-- A path is the packaging file of a release. -/
def IsPackagingFile (path : String) (release : ReleaseId) : Prop :=
  Spells (normalize path) release.connector (.packaging release.version)

instance (path : String) (release : ReleaseId) : Decidable (IsPackagingFile path release) :=
  inferInstanceAs (Decidable (Spells _ _ _))

theorem IsPackagingFile.unique {path : String} {r s : ReleaseId} (hr : IsPackagingFile path r)
    (hs : IsPackagingFile path s) : r = s := by
  obtain ⟨hconnector, hitem⟩ := Spells.unique hr hs
  obtain ⟨connector, version⟩ := r
  obtain ⟨connector', version'⟩ := s
  cases hconnector
  cases hitem
  rfl

/-! ### One path -/

variable {path : String} {paths : List String} {origin : Origin} {fault : ClassifyFault}
  {files : ChangedFiles}

theorem exists_classify_added (path : String) : ∃ change?, classify path .added = .ok change? := by
  by_cases h : ∃ connector item, Spells (normalize path) connector item
  · obtain ⟨connector, item, hspells⟩ := h
    rw [classify_of_spells hspells]
    rcases changeOf_cases (normalize path) .added connector item with
      ⟨kind, -, -, hchange⟩ | ⟨version, -, horigin, -⟩
    · exact ⟨_, by rw [hchange]; rfl⟩
    · cases horigin
  · simp only [not_exists] at h
    exact ⟨none, classify_eq_none h .added⟩

/-- A modified path is at fault exactly if it is the packaging file of a release. -/
theorem classify_modified_eq_error_iff : classify path .modified = .error fault ↔
    ∃ release, IsPackagingFile path release ∧
      fault = .immutableRelease (normalize path) release := by
  by_cases hspells : ∃ connector item, Spells (normalize path) connector item
  · obtain ⟨connector, item, hspells⟩ := hspells
    rw [classify_of_spells hspells]
    rcases changeOf_cases (normalize path) .modified connector item with
      ⟨kind, rfl, hfrom, hchange⟩ | ⟨version, rfl, -, hchange⟩
    · -- A kind of change that a modified file can ask for is not about a packaging file.
      rw [hchange]
      refine iff_of_false nofun ?_
      rintro ⟨release, hrelease, -⟩
      obtain ⟨-, hitem⟩ := hspells.unique hrelease
      cases kind with
      | release version => cases hfrom
      | _ => cases hitem
    · rw [hchange]
      constructor
      · rintro ⟨⟩
        exact ⟨⟨connector, version⟩, hspells, rfl⟩
      · rintro ⟨release, hrelease, rfl⟩
        obtain ⟨rfl, hitem⟩ := hspells.unique hrelease
        cases hitem
        rfl
  · simp only [not_exists] at hspells
    rw [classify_eq_none hspells]
    exact iff_of_false nofun fun ⟨release, hrelease, _⟩ => hspells _ _ hrelease

/-! ### Lists of paths -/

/-- A list of paths is refused because of the first path at fault. -/
theorem classifyList_eq_error_iff : classifyList origin paths = .error fault ↔
    ∃ earlier path later, paths = earlier ++ path :: later ∧
      (∀ p ∈ earlier, ∃ change?, classify p origin = .ok change?) ∧
      classify path origin = .error fault := by
  induction paths with
  | nil => simp [classifyList, pure, Except.pure]
  | cons path rest ih =>
    cases hpath : classify path origin with
    | error fault' =>
      rw [classifyList, hpath, Except.error_bind]
      constructor
      · rintro ⟨⟩
        exact ⟨[], path, rest, rfl, by simp, hpath⟩
      · rintro ⟨earlier, path', later, hsplit, hearlier, hfault⟩
        cases earlier with
        | nil =>
          obtain ⟨rfl, -⟩ := List.cons.inj hsplit
          cases hpath.symm.trans hfault
          rfl
        | cons p earlier =>
          obtain ⟨rfl, -⟩ := List.cons.inj hsplit
          obtain ⟨change?, hok⟩ := hearlier path List.mem_cons_self
          rw [hpath] at hok
          cases hok
    | ok change? =>
      have hcons : classifyList origin (path :: rest) = .error fault ↔
          classifyList origin rest = .error fault := by
        rw [classifyList, hpath, Except.ok_bind]
        cases classifyList origin rest <;> simp
      rw [hcons, ih]
      constructor
      · rintro ⟨earlier, path', later, rfl, hearlier, hfault⟩
        exact ⟨path :: earlier, path', later, rfl,
          List.forall_mem_cons.2 ⟨⟨change?, hpath⟩, hearlier⟩, hfault⟩
      · rintro ⟨earlier, path', later, hsplit, hearlier, hfault⟩
        cases earlier with
        | nil =>
          obtain ⟨rfl, -⟩ := List.cons.inj hsplit
          rw [hpath] at hfault
          cases hfault
        | cons p earlier =>
          obtain ⟨rfl, rfl⟩ := List.cons.inj hsplit
          exact ⟨earlier, path', later, rfl, fun q hq => hearlier q (List.mem_cons_of_mem _ hq),
            hfault⟩

theorem classifyList_ok_of_mem {changes : List Change}
    (h : classifyList origin paths = .ok changes) (hpath : path ∈ paths) :
    ∃ change?, classify path origin = .ok change? := by
  induction paths generalizing changes with
  | nil => cases hpath
  | cons p rest ih =>
    obtain ⟨change?, more, hp, hrest, -⟩ := classifyList_cons_eq_ok.1 h
    rcases List.mem_cons.1 hpath with rfl | hpath
    · exact ⟨change?, hp⟩
    · exact ih hrest hpath

theorem exists_classifyList_added (paths : List String) :
    ∃ changes, classifyList .added paths = .ok changes := by
  cases h : classifyList .added paths with
  | ok changes => exact ⟨changes, rfl⟩
  | error fault =>
    obtain ⟨-, path, -, -, -, hfault⟩ := classifyList_eq_error_iff.1 h
    obtain ⟨change?, hok⟩ := exists_classify_added path
    rw [hok] at hfault
    cases hfault

/-- **A diff is refused because of its first modified packaging file.** -/
theorem classifyAll_eq_error_iff : classifyAll files = .error fault ↔
    ∃ earlier path later release, files.modified = earlier ++ path :: later ∧
      (∀ p ∈ earlier, ∀ r, ¬IsPackagingFile p r) ∧ IsPackagingFile path release ∧
      fault = .immutableRelease (normalize path) release := by
  obtain ⟨added, hadded⟩ := exists_classifyList_added files.added
  have hmodified : classifyAll files = .error fault ↔
      classifyList .modified files.modified = .error fault := by
    rw [classifyAll, hadded, Except.ok_bind]
    cases classifyList .modified files.modified <;> simp
  -- A path is classified exactly if it is no packaging file.
  have hok : ∀ p, (∃ change?, classify p .modified = .ok change?) ↔
      ∀ r, ¬IsPackagingFile p r := by
    intro p
    constructor
    · rintro ⟨change?, hok⟩ r hr
      rw [classify_modified_eq_error_iff.2 ⟨r, hr, rfl⟩] at hok
      cases hok
    · intro hnone
      cases h : classify p .modified with
      | ok change? => exact ⟨change?, rfl⟩
      | error fault' =>
        obtain ⟨r, hr, -⟩ := classify_modified_eq_error_iff.1 h
        exact absurd hr (hnone r)
  rw [hmodified, classifyList_eq_error_iff]
  simp only [hok, classify_modified_eq_error_iff]
  constructor
  · rintro ⟨earlier, path, later, hsplit, hearlier, release, hrelease, hfault⟩
    exact ⟨earlier, path, later, release, hsplit, hearlier, hrelease, hfault⟩
  · rintro ⟨earlier, path, later, release, hsplit, hearlier, hrelease, hfault⟩
    exact ⟨earlier, path, later, hsplit, hearlier, release, hrelease, hfault⟩

theorem exists_classifyAll_error_iff : (∃ fault, classifyAll files = .error fault) ↔
    ∃ path ∈ files.modified, ∃ release, IsPackagingFile path release := by
  constructor
  · rintro ⟨fault, h⟩
    obtain ⟨earlier, path, later, release, hsplit, -, hrelease, -⟩ := classifyAll_eq_error_iff.1 h
    exact ⟨path, by simp [hsplit], release, hrelease⟩
  · rintro ⟨path, hpath, release, hrelease⟩
    -- A diff that is not refused holds no packaging file of which to be the first.
    cases h : classifyAll files with
    | error fault => exact ⟨fault, rfl⟩
    | ok changes =>
      obtain ⟨-, modified, -, hmodified, -⟩ := classifyAll_eq_ok.1 h
      obtain ⟨change?, hok⟩ := classifyList_ok_of_mem hmodified hpath
      rw [classify_modified_eq_error_iff.2 ⟨release, hrelease, rfl⟩] at hok
      cases hok

/-! ### Runs -/

/-- **A run never modifies a release.**  If a diff modifies packaging files, in whatever spelling
and whatever else it holds, the run is refused because of the first of them and leaves the journal
as it was: no service is called, no file opened and no progress reported.  Classification refuses no
other diff, and the deleted files of a diff are never looked at. -/
theorem publish_immutable {σ : Type} (site : BuildSite σ) (files : ChangedFiles)
    (journal : Journal σ) :
    ((∃ path ∈ files.modified, ∃ release, IsPackagingFile path release) →
      ∃ earlier path later release, files.modified = earlier ++ path :: later ∧
        (∀ p ∈ earlier, ∀ r, ¬IsPackagingFile p r) ∧ IsPackagingFile path release ∧
        publish site files journal =
          (.error (.classification (.immutableRelease (normalize path) release)), journal)) ∧
    ((∃ fault, classifyAll files = .error fault) ↔
      ∃ path ∈ files.modified, ∃ release, IsPackagingFile path release) ∧
    ∀ deleted, publish site { files with deleted } = publish site files := by
  refine ⟨fun h => ?_, exists_classifyAll_error_iff, fun deleted => rfl⟩
  obtain ⟨fault, hfault⟩ := exists_classifyAll_error_iff.2 h
  obtain ⟨earlier, path, later, release, hsplit, hearlier, hrelease, rfl⟩ :=
    classifyAll_eq_error_iff.1 hfault
  refine ⟨earlier, path, later, release, hsplit, hearlier, hrelease, ?_⟩
  have hset : ChangeSet.ofFiles files = .error (.immutableRelease (normalize path) release) := by
    rw [ChangeSet.ofFiles, hfault, Except.error_bind]
  rw [publish, hset]
  rfl

open Memory

/-- The packaging file of the one release of a tree, spelled in another way. -/
def otherSpelling : String := ".\\registry/acme\\db/releases\\v1.0.0/connector-packaging.json"

/-- A diff that adds a release and modifies it in another spelling is refused. -/
theorem otherSpelling_refused :
    publish (oneRelease [] theReleases) ⟨[thePath], [otherSpelling], []⟩ (.start []) =
      (.error (.classification (.immutableRelease thePath theRelease)), .start []) := by
  have hfile : IsPackagingFile otherSpelling theRelease := by decide +kernel
  have hpath : normalize otherSpelling = thePath := by decide +kernel
  obtain ⟨earlier, path, later, release, hsplit, -, hrelease, hrun⟩ :=
    (publish_immutable (oneRelease [] theReleases) ⟨[thePath], [otherSpelling], []⟩ (.start [])).1
      ⟨otherSpelling, List.mem_singleton_self _, theRelease, hfile⟩
  -- The list holds one path only, and this path is the packaging file of one release only.
  rcases List.singleton_eq_append_iff.1 hsplit with ⟨-, hsingle⟩ | ⟨-, hnil⟩
  · obtain ⟨rfl, -⟩ := List.cons.inj hsingle
    rw [hrun, hpath, hfile.unique hrelease]
  · cases hnil

end ConnectorCatalog
