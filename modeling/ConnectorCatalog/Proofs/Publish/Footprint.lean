import ConnectorCatalog.Proofs.Files.Path
import ConnectorCatalog.Proofs.PathTable
import ConnectorCatalog.Proofs.Publish.Run

/-!
# What building rows touches

Building the rows of a change opens some files, calls services and does nothing else (`OpensOnly`).
The files are items of the connector of the change: the file of the change itself, and with the
metadata of a new connector its documentation and its logo (`ChangeKind.items`).

Each builder comes with the list of files that it may open, and the visits of a run open nothing but
the items of their changes (`BuildSite.VisitsTrace.opened`).
-/

namespace ConnectorCatalog

open ConnectorCatalog.Path Run Text

variable {σ : Type}

/-! ### Items of a connector -/

/-- The items of a connector that are read for a change of a kind. -/
def ChangeKind.items : ChangeKind → List RegistryItem
  | metadata .added => [.metadata, .readme, .logo .png, .logo .svg]
  | kind => [kind.item]

theorem ChangeKind.item_mem_items (kind : ChangeKind) : kind.item ∈ kind.items := by
  cases kind with
  | metadata origin => cases origin <;> exact List.mem_cons_self
  | _ => exact List.mem_cons_self

/-- A release is read for nothing but itself. -/
theorem ChangeKind.item_eq_of_mem_items {kind : ChangeKind} {version : String}
    (h : .packaging version ∈ kind.items) : kind.item = .packaging version := by
  rcases kind with (_ | _) | ⟨_, _⟩ | _ | _ <;> simp_all [items, item]

theorem RegistryItem.isAbsolute_pathOf (item : RegistryItem) (connector : Identity) :
    isAbsolute (item.pathOf connector) = false := by
  rw [pathOf_eq]
  simp only [String.append_assoc]
  rw [isAbsolute_append (by decide)]
  decide

theorem RegistryItem.isPlainName_of_mem_segments {item : RegistryItem}
    (h : ∀ version, item = .packaging version → isPlainName version = true) :
    ∀ s ∈ item.segments, isPlainName s = true := by
  cases item with
  | metadata => decide
  | logo format => cases format <;> decide
  | readme => decide
  | packaging version =>
    have hreleases : isPlainName "releases" = true := by decide
    have hfile : isPlainName packagingFile = true := by decide
    simp [segments, hreleases, hfile, h version rfl]

namespace Change.Placed

variable {c : Change}

theorem isPlainName_of_mem (h : c.Placed) :
    ∀ s ∈ segments c.path, s ≠ "" → Path.isPlainName s = true := by
  intro s hs hne
  have hreserved := h.not_reserved s hs
  simp only [isReserved, Bool.or_eq_false_iff, beq_eq_false_iff_ne] at hreserved
  exact isPlainName_iff.2 ⟨hne, isSegment_of_mem_segments hs, hreserved.1.2, hreserved.2⟩

/-- **What is read for a placed change lies at the end of plain names.** -/
theorem isPlainName_of_mem_items (h : c.Placed) {item : RegistryItem} (hitem : item ∈ c.kind.items) :
    ∀ s ∈ "registry" :: c.connector.ns :: c.connector.name :: item.segments,
      Path.isPlainName s = true := by
  obtain ⟨hns, hname, hversion⟩ := h.named
  have hmem := h.isPlainName_of_mem
  rw [h.segments_path] at hmem
  -- Only a packaging file has a name that the diff chooses, and only its release reads it.
  have hsegments : ∀ s ∈ item.segments, Path.isPlainName s = true := by
    refine RegistryItem.isPlainName_of_mem_segments fun version hpackaging => ?_
    have hown : c.kind.item = .packaging version := ChangeKind.item_eq_of_mem_items
      (hpackaging ▸ hitem)
    exact hmem _ (by simp [hown, RegistryItem.segments]) (hversion version hown)
  simp only [List.forall_mem_cons]
  exact ⟨by decide, hmem _ (by simp) hns, hmem _ (by simp) hname, hsegments⟩

end Change.Placed

namespace BuildSite

variable (site : BuildSite σ)

/-- Where an item of a connector stands in the repository. -/
def pathOf (connector : Identity) (item : RegistryItem) : String :=
  within site.repoRoot ++ item.pathOf connector

/-- The files that are read for a change. -/
def filesOf (change : Change) : List String :=
  change.kind.items.map (site.pathOf change.connector)

theorem locate_path {change : Change} (h : change.Placed) :
    site.locate change.path = site.pathOf change.connector change.kind.item := by
  rw [locate, pathOf, ← h.spells.pathOf_eq, append_of_relative (RegistryItem.isAbsolute_pathOf _ _)]

theorem append_connectorDir {connector : Identity} {item : RegistryItem} {file : String}
    (hfile : item.segments = [file])
    (hplain : ∀ s ∈ "registry" :: connector.ns :: connector.name :: item.segments,
      isPlainName s = true) :
    append (site.connectorDir connector) file = site.pathOf connector item := by
  rw [hfile] at hplain
  rw [pathOf, RegistryItem.pathOf, hfile, ← foldl_append_isPlainName (List.cons_ne_nil _ _) hplain]
  rfl

variable {change : Change}

theorem docsPath_mem (h : change.Placed) (hkind : change.kind = .metadata .added) :
    site.docsPath change.connector ∈ site.filesOf change := by
  have hitem : .readme ∈ change.kind.items := by
    rw [hkind]
    decide
  exact List.mem_map.2 ⟨.readme, hitem,
    (site.append_connectorDir rfl (h.isPlainName_of_mem_items hitem)).symm⟩

theorem findLogo?_eq_some (h : change.Placed) (hkind : change.kind = .metadata .added)
    {logo : String} {format : LogoFormat}
    (hlogo : site.findLogo? (site.connectorDir change.connector) = some (logo, format)) :
    .logo format ∈ change.kind.items ∧ logo = site.pathOf change.connector (.logo format) := by
  have hitem : .logo format ∈ change.kind.items := by
    rw [hkind]
    cases format <;> decide
  obtain ⟨other, -, hother⟩ := List.exists_of_findSome?_eq_some hlogo
  simp only [Option.ite_none_right_eq_some, Option.some.injEq, Prod.mk.injEq] at hother
  obtain ⟨-, rfl, rfl⟩ := hother
  exact ⟨hitem, site.append_connectorDir rfl (h.isPlainName_of_mem_items hitem)⟩

end BuildSite

/-! ### Builders -/

/-- Nothing but opening some of the files and calling services. -/
def OpensOnly (paths : List String) (actions : List Action) : Prop :=
  ∀ action ∈ actions, (∃ path ∈ paths, action = .opened path) ∨ ∃ call, action = .called call

namespace OpensOnly

variable {paths : List String} {actions more : List Action}

theorem nil : OpensOnly paths [] := fun _ h => absurd h List.not_mem_nil

theorem opened {path : String} (hpath : path ∈ paths) (h : OpensOnly paths actions) :
    OpensOnly paths (.opened path :: actions) :=
  List.forall_mem_cons.2 ⟨.inl ⟨path, hpath, rfl⟩, h⟩

theorem called {call : Call} (h : OpensOnly paths actions) :
    OpensOnly paths (.called call :: actions) :=
  List.forall_mem_cons.2 ⟨.inr ⟨call, rfl⟩, h⟩

theorem append (h : OpensOnly paths actions) (hmore : OpensOnly paths more) :
    OpensOnly paths (actions ++ more) :=
  List.forall_mem_append.2 ⟨h, hmore⟩

theorem mem_of_opened {path : String} (h : OpensOnly paths actions) (hpath : .opened path ∈ actions) :
    path ∈ paths := by
  rcases h _ hpath with ⟨other, hother, heq⟩ | ⟨call, hcall⟩
  · cases heq
    exact hother
  · cases hcall

end OpensOnly

variable {paths : List String} {actions : List Action}

theorem ResolveTrace.opensOnly {release : ReleaseId} {uri : String}
    {result : Except PublishFault Resolution} (h : ResolveTrace release uri result actions) :
    OpensOnly paths actions := by
  cases h with
  | noUri _ => exact .nil
  | notFetched _ _ => exact .called .nil
  | fetched _ _ => exact .called .nil

theorem RowTrace.opensOnly {release : ReleaseId} {resolved : ResolvedRelease} {isNew : Bool}
    {result : Except PublishFault VersionRow} (h : RowTrace release resolved isNew result actions) :
    OpensOnly paths actions := by
  cases h with
  | noPackaging _ _ => exact .nil
  | noAnswer _ _ => exact .called .nil
  | unknown _ _ _ => exact .called .nil
  | notStored _ _ _ => exact .called (.called .nil)
  | stored _ _ _ => exact .called (.called .nil)

namespace BuildSite

variable {site : BuildSite σ} {connector : Identity} {path : String}

theorem ReleaseTrace.opensOnly {release : ReleaseId} {isNew : Bool}
    {result : Except PublishFault ReleaseOutcome}
    (h : site.ReleaseTrace release path isNew result actions) (hpath : site.locate path ∈ paths) :
    OpensOnly paths actions := by
  cases h with
  | noDescriptor _ _ => exact .opened hpath .nil
  | misplaced _ _ _ => exact .opened hpath .nil
  | unresolved _ _ hfetch => exact .opened hpath hfetch.opensOnly
  | skipped _ _ hfetch => exact .opened hpath hfetch.opensOnly
  | noRow _ _ hfetch hrow => exact .opened hpath (hfetch.opensOnly.append hrow.opensOnly)
  | built _ _ hfetch hrow => exact .opened hpath (hfetch.opensOnly.append hrow.opensOnly)

theorem LogoTrace.opensOnly {format : LogoFormat} {result : Except PublishFault String}
    (h : site.LogoTrace connector path format result actions) (hpath : path ∈ paths) :
    OpensOnly paths actions := by
  cases h with
  | unreadable _ _ => exact .opened hpath .nil
  | uploaded _ _ _ => exact .opened hpath (.called .nil)

theorem NewConnectorTrace.opensOnly {result : Except PublishFault NewConnectorRows}
    (h : site.NewConnectorTrace connector path result actions) (hpath : site.locate path ∈ paths)
    (hdocs : site.docsPath connector ∈ paths)
    (hlogo : ∀ logo format, site.findLogo? (site.connectorDir connector) = some (logo, format) →
      logo ∈ paths) : OpensOnly paths actions := by
  have hopened : OpensOnly paths (site.openedDocuments connector path) :=
    .opened hpath (.opened hdocs .nil)
  cases h with
  | noMetadata _ _ => exact .opened hpath .nil
  | misplaced _ _ _ => exact .opened hpath .nil
  | noDocs _ _ _ _ => exact hopened
  | noLogo _ _ => exact hopened
  | noAnswer _ _ _ => exact hopened.append (.called .nil)
  | inProduction _ _ _ _ => exact hopened.append (.called .nil)
  | logo _ _ hfound _ hupload =>
    exact hopened.append (.called (hupload.opensOnly (hlogo _ _ hfound)))

/-- **Building the rows of a change opens nothing but the files of the change.** -/
theorem BuildTrace.opensOnly {isNew : Bool} {change : Change} {result : Except PublishFault Built}
    (h : site.BuildTrace isNew change result actions) (hplaced : change.Placed) :
    OpensOnly (site.filesOf change) actions := by
  have hown : site.locate change.path ∈ site.filesOf change := by
    rw [site.locate_path hplaced]
    exact List.mem_map_of_mem change.kind.item_mem_items
  cases h with
  | newConnector hkind h =>
    refine h.opensOnly hown (site.docsPath_mem hplaced hkind) fun logo format hfound => ?_
    obtain ⟨hitem, rfl⟩ := site.findLogo?_eq_some hplaced hkind hfound
    exact List.mem_map_of_mem hitem
  | modifiedConnector hkind h => cases h <;> exact .opened hown .nil
  | logo hkind h =>
    cases h with
    | logo h => exact h.opensOnly hown
  | readme hkind h => cases h <;> exact .opened hown .nil
  | release hchange h => exact h.opensOnly hown

/-! ### Runs -/

theorem VisitTrace.opened {isNew : Bool} {visit : Visit} (h : site.VisitTrace isNew visit actions)
    (hplaced : visit.change.Placed) (hpath : .opened path ∈ actions) :
    path ∈ site.filesOf visit.change := by
  cases h with
  | intro hbuild =>
    simp only [List.mem_cons, List.mem_append, List.mem_map, reduceCtorEq, and_false, exists_false,
      or_false, false_or] at hpath
    exact (hbuild.opensOnly hplaced).mem_of_opened hpath

/-- The visits of a run open files of their changes only. -/
theorem VisitsTrace.opened {set : ChangeSet} {changes : List Change} {visits : List Visit}
    (h : site.VisitsTrace set changes visits actions) (hplaced : ∀ change ∈ changes, change.Placed)
    (hpath : .opened path ∈ actions) : ∃ change ∈ changes, path ∈ site.filesOf change := by
  induction h with
  | nil => cases hpath
  | fault visit rest _ hvisit =>
    exact ⟨_, List.mem_cons_self, hvisit.opened (hplaced _ List.mem_cons_self) hpath⟩
  | cons visit _ hvisit _ ih =>
    rcases List.mem_append.1 hpath with hpath | hpath
    · exact ⟨_, List.mem_cons_self, hvisit.opened (hplaced _ List.mem_cons_self) hpath⟩
    · obtain ⟨change, hchange, hmem⟩ :=
        ih (fun c hc => hplaced c (List.mem_cons_of_mem _ hc)) hpath
      exact ⟨change, List.mem_cons_of_mem _ hchange, hmem⟩

end BuildSite

theorem CleanupTrace.opensOnly {rows : List VersionRow} {report : CleanupReport}
    (h : CleanupTrace rows report actions) (paths : List String) : OpensOnly paths actions := by
  induction h with
  | nil => exact .nil
  | deleted _ _ ih => exact .called ih
  | kept _ _ _ ih => exact .called ih

theorem EndTrace.not_opened {policy : ConflictPolicy} {visits : List Visit}
    {result : Except PublishFault PublishOutcome} (h : EndTrace policy visits result actions)
    (path : String) : .opened path ∉ actions := by
  have hdeletes {rows : List VersionRow} {report : CleanupReport} {deletes : List Action}
      (h : CleanupTrace rows report deletes) : .opened path ∉ deletes :=
    fun hpath => List.not_mem_nil ((h.opensOnly []).mem_of_opened hpath)
  cases h with
  | aborted _ _ hclean => simpa using hdeletes hclean
  | vacant _ _ => simp
  | accepted _ _ => simp
  | rejected _ _ _ hclean => simpa using hdeletes hclean

/-- **A run opens files of the changes of its set only.** -/
theorem BuildSite.PublishTrace.opened {site : BuildSite σ} {files : ChangedFiles}
    {visits : List Visit} {result : Except PublishFault PublishOutcome} {path : String}
    (h : site.PublishTrace files visits result actions) (hpath : .opened path ∈ actions) :
    ∃ set, ChangeSet.ofFiles files = .ok set ∧
      ∃ change ∈ set.changes, path ∈ site.filesOf change := by
  cases h with
  | refused _ _ => cases hpath
  | nothing _ _ => simp at hpath
  | @ended set _ _ _ _ hset _ hvisits hend =>
    simp only [List.mem_cons, List.mem_append, reduceCtorEq, false_or] at hpath
    rcases hpath with hpath | hpath
    · have hsub := set.agenda_sublist.subset
      obtain ⟨change, hchange, hmem⟩ :=
        hvisits.opened (fun c hc => ChangeSet.placed_of_ofFiles hset (hsub hc)) hpath
      exact ⟨set, hset, change, hsub hchange, hmem⟩
    · exact absurd hpath (hend.not_opened path)

end ConnectorCatalog
