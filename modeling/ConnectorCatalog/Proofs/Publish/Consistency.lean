import ConnectorCatalog.Proofs.Memory
import ConnectorCatalog.Proofs.Publish.Ledger
import ConnectorCatalog.Proofs.Text.Blank
import ConnectorCatalog.Proofs.Version.Chars

/-!
# What a run submits agrees with itself

Several builders, the order of changes and the services' answers together make up what a run hands
over.  `Batch.Consistent` says how the rows refer to each other, to the files of the registry tree
and to what the run has been told; **every request of a run is made of rows that do**
(`publish_consistent`).
-/

namespace ConnectorCatalog

variable {σ : Type}

/-! ### What documents say -/

theorem checkVersion_eq_ok {release : ReleaseId} {declared : String}
    (h : checkVersion release declared = .ok ()) :
    declared = release.version ∧ ∃ version, ReleaseVersion.parse declared = .ok version := by
  unfold checkVersion at h
  split at h
  · cases h
  · rename_i version hparse
    split at h
    · cases h
    · rename_i heq
      exact ⟨Decidable.not_not.1 heq, version, hparse⟩

/-- A prebuilt version consists of an image, any other has none. -/
def ImageFits : PackagingKind → Option String → Prop
  | .prebuiltImage, some image => Text.isAllBlank image = false
  | .prebuiltImage, none => False
  | .managedBuild, image => image = none

theorem imageFits_of_packagingOf {document : ReleaseDocument} {kind : PackagingKind}
    {image : Option String} (h : packagingOf document = .ok (kind, image)) :
    ImageFits kind image := by
  unfold packagingOf at h
  split at h
  · cases h
  · rename_i packaging hpackaging
    split at h
    · split at h
      · rename_i trimmed himage
        cases h
        obtain ⟨text, htext, htrim⟩ := Option.bind_eq_some_iff.1 himage
        obtain ⟨raw, -, rfl⟩ := Option.map_eq_some_iff.1 htext
        unfold nonEmpty? at htrim
        split at htrim
        · cases htrim
        · rename_i hne
          cases htrim
          exact Text.isAllBlank_trim hne
      · cases h
    · split at h
      · cases h
        rfl
      · split at h <;> cases h

theorem ResolveTrace.of_resolved {release : ReleaseId} {uri : String} {resolved : ResolvedRelease}
    {actions : List Action} (h : ResolveTrace release uri (.ok (.resolved resolved)) actions) :
    ∃ fetched : FetchedRelease, fetched.package = resolved.package ∧
      actions = [.called (.fetch (Text.trim uri) release (.ok fetched))] := by
  obtain ⟨-, fetched, hres, hactions⟩ := h.of_ok
  refine ⟨fetched, ?_, hactions⟩
  unfold Resolution.ofFetched at hres
  split at hres
  · cases hres
  · split at hres <;> cases hres
    rfl

/-! ### Rows and what they refer to -/

/-- A connector is new: the run has looked it up, in production without finding it, and has then
uploaded its logo. -/
def ConnectorRow.Announced (site : BuildSite σ) (calls : List Call) (row : ConnectorRow) : Prop :=
  ∃ existing content format url,
    [.lookup row.identity (.ok existing),
      .upload content row.identity.logoPublicId format (.ok url)] <:+: calls ∧
    (site.environment = .production → existing = none)

/-- A version refers to a connector: to one that the registry knows, with its tenancy, or to a new
one of the same rows. -/
def VersionRow.RefersTo (batch : Batch) (row : VersionRow) : Option ConnectorInfo → Prop
  | some info => row.isMultitenant = info.isMultitenant
  | none => row.isMultitenant = false ∧
    row.release.connector ∈ batch.connectors.map (·.identity)

/-- A version is grounded: its descriptor stands in its directory and declares it, and its package
has been fetched and put, with the registry asked for its connector in between. -/
structure VersionRow.Grounded (site : BuildSite σ) (set : ChangeSet) (calls : List Call)
    (batch : Batch) (row : VersionRow) : Prop where
  declared : ∃ change ∈ set.changes, ∃ descriptor,
    Text.segments change.path =
      ["registry", row.ns, row.name, "releases", row.version, packagingFile] ∧
    PackagingDescriptor.load site.tree (site.locate change.path) = .ok descriptor ∧
    descriptor.version = row.version
  version : ∃ rest version, row.version.toList = 'v' :: rest ∧
    Version.parseChars rest = .ok version
  stored : ∃ uri fetched info,
    [.fetch uri row.release (.ok fetched), .lookup row.release.connector (.ok info),
      .put row.release.packageKey fetched.package (.ok row.packageUrl)] <:+: calls ∧
    row.RefersTo batch info
  image : ImageFits row.kind row.image

/-- The rows of a run agree with each other, with the registry tree and with what the services have
said. -/
structure Batch.Consistent (site : BuildSite σ) (set : ChangeSet) (calls : List Call)
    (batch : Batch) : Prop where
  connectors_nodup : (batch.connectors.map (·.identity)).Nodup
  overviews : batch.overviews.map (·.identity) = batch.connectors.map (·.identity)
  versions_nodup : (batch.versions.map (·.release)).Nodup
  announced : ∀ row ∈ batch.connectors, row.Announced site calls
  grounded : ∀ row ∈ batch.versions, row.Grounded site set calls batch

/-! ### What builders establish -/

namespace BuildSite

variable {site : BuildSite σ} {actions : List Action}

theorem LogoTrace.calls {connector : Identity} {path : String} {format : LogoFormat} {url : String}
    (h : site.LogoTrace connector path format (.ok url) actions) :
    ∃ content, site.tree.readBytes path = .ok content ∧
      callsOf actions = [.upload content connector.logoPublicId format (.ok url)] := by
  generalize hres : (.ok url : Except PublishFault String) = result at h
  cases h with
  | unreadable fault hread => cases hres
  | uploaded content answer hread =>
    obtain rfl := Except.mapError_eq_ok.1 hres.symm
    exact ⟨content, hread, rfl⟩

theorem NewConnectorTrace.calls {connector : Identity} {path : String} {rows : NewConnectorRows}
    (h : site.NewConnectorTrace connector path (.ok rows) actions) :
    ∃ existing logo format content, callsOf actions = [.lookup connector (.ok existing),
      .upload content connector.logoPublicId format (.ok rows.overview.logo)] ∧
    site.findLogo? (site.connectorDir connector) = some (logo, format) ∧
    site.tree.readBytes logo = .ok content ∧
    (site.environment = .production → existing = none) := by
  generalize hres : (.ok rows : Except PublishFault NewConnectorRows) = result at h
  cases h with
  | @logo existing _ _ logo format _ _ hdocs hfound hfree hlogo =>
    obtain ⟨url, rfl, rfl⟩ := Except.map_eq_ok.1 hres.symm
    obtain ⟨content, hread, hcalls⟩ := hlogo.calls
    refine ⟨existing, logo, format, content, ?_, hfound, hread, hfree⟩
    rw [openedDocuments, callsOf_append, callsOf_called, hcalls]
    rfl
  | _ => cases hres

theorem ReleaseTrace.calls {release : ReleaseId} {path : String} {isNew : Bool} {row : VersionRow}
    (h : site.ReleaseTrace release path isNew (.ok (.built row)) actions) :
    ∃ uri fetched info, callsOf actions = [.fetch uri release (.ok fetched),
      .lookup release.connector (.ok info),
      .put release.packageKey fetched.package (.ok row.packageUrl)] ∧
    tenancyOf release isNew info = .ok row.isMultitenant ∧ ImageFits row.kind row.image := by
  cases h with
  | @built _ descriptor _ _ _ hdecl hfetch hrow =>
    obtain ⟨fetched, hpackage, rfl⟩ := hfetch.of_resolved
    cases hrow with
    | @stored url _ _ info _ hkind htenancy =>
      refine ⟨Text.trim descriptor.uri, fetched, info, ?_, htenancy, imageFits_of_packagingOf hkind⟩
      rw [hpackage]
      rfl

theorem ReleaseTrace.declares {release : ReleaseId} {path : String} {isNew : Bool}
    {row : VersionRow} (h : site.ReleaseTrace release path isNew (.ok (.built row)) actions) :
    ∃ descriptor, site.Declares release path descriptor := by
  cases h with
  | built _ hdecl _ _ => exact ⟨_, hdecl⟩

variable {set : ChangeSet} {visits : List Visit}

theorem VisitsTrace.mem_connectors (h : site.VisitsTrace set set.agenda visits actions)
    (hfault : visits.findSome? Visit.fault? = none) {connector : Identity}
    (hnew : set.isNewConnector connector = true) :
    connector ∈ (Batch.ofVisits visits).connectors.map (·.identity) := by
  obtain ⟨change, hchange, hkind, rfl⟩ := ChangeSet.exists_mem_agenda_of_isNewConnector hnew
  rw [← h.changes_eq hfault] at hchange
  obtain ⟨visit, hvisit, rfl⟩ := List.mem_map.1 hchange
  obtain ⟨visiting, -, hvisiting⟩ := h.of_mem hvisit
  -- The visit that was to create the connector has not given the run up, so its rows are there.
  have hnone := List.findSome?_eq_none_iff.1 hfault visit hvisit
  obtain ⟨rows, hrows⟩ := hvisiting.exists_newConnector hkind hnone
  have hidentity : rows.connector.identity = visit.change.connector := by
    have := (hvisiting.newConnector hrows).1
    simpa [Change.newConnector?, Change.bucket_eq_newConnector.2 hkind] using this.symm
  rw [← hidentity]
  exact List.mem_map.2 ⟨_, List.mem_map.2 ⟨rows, List.mem_filterMap.2 ⟨visit, hvisit, hrows⟩, rfl⟩,
    rfl⟩

/-- The row of a release is grounded in what is done for its visit. -/
theorem VisitsTrace.grounded {files : ChangedFiles} (hset : ChangeSet.ofFiles files = .ok set)
    (h : site.VisitsTrace set set.agenda visits actions)
    (hfault : visits.findSome? Visit.fault? = none) {calls : List Call}
    (hcalls : callsOf actions <:+: calls) {row : VersionRow}
    (hrow : row ∈ (Batch.ofVisits visits).versions) :
    row.Grounded site set calls (.ofVisits visits) := by
  obtain ⟨visit, hvisit, hversion⟩ := List.mem_filterMap.1 hrow
  obtain ⟨visiting, hpart, hvisiting⟩ := h.of_mem hvisit
  obtain ⟨hrelease, building, hbuilding, hbuilt⟩ := hvisiting.version hversion
  obtain ⟨descriptor, hdecl⟩ := hbuilt.declares
  obtain ⟨hversion, version, hparse⟩ := checkVersion_eq_ok hdecl.version
  obtain ⟨rest, htext, hparse⟩ := ReleaseVersion.parse_eq_ok hparse
  obtain ⟨uri, fetched, info, hmade, htenancy, himage⟩ := hbuilt.calls
  have hmem : visit.change ∈ set.changes :=
    set.agenda_sublist.subset (h.changes_prefix.subset (List.mem_map_of_mem hvisit))
  obtain ⟨hkind, hconn⟩ := Change.release?_eq_some hrelease
  refine ⟨⟨visit.change, hmem, descriptor, ?_, hdecl.load, hversion⟩, ⟨rest, version, ?_, hparse⟩,
    ⟨uri, fetched, info, ?_, ?_⟩, himage⟩
  · rw [(ChangeSet.placed_of_ofFiles hset hmem).segments_path, hkind, hconn]
    rfl
  · rw [← htext, hversion]
    rfl
  · rw [← hmade, ← hbuilding]
    exact (hpart.filterMap _).trans hcalls
  · -- Of a connector that the registry does not know, the builder asks that the run creates it.
    cases info with
    | some info => exact (Except.ok.inj htenancy).symm
    | none =>
      rw [tenancyOf] at htenancy
      split at htenancy
      · rename_i hnew
        rw [hconn] at hnew
        exact ⟨(Except.ok.inj htenancy).symm, h.mem_connectors hfault hnew⟩
      · cases htenancy

/-- The row of a new connector is announced by what is done for its visit. -/
theorem VisitsTrace.announced (h : site.VisitsTrace set set.agenda visits actions)
    {calls : List Call} (hcalls : callsOf actions <:+: calls) {row : ConnectorRow}
    (hrow : row ∈ (Batch.ofVisits visits).connectors) : row.Announced site calls := by
  obtain ⟨rows, hrows, rfl⟩ := List.mem_map.1 hrow
  obtain ⟨visit, hvisit, hconnector⟩ := List.mem_filterMap.1 hrows
  obtain ⟨visiting, hpart, hvisiting⟩ := h.of_mem hvisit
  obtain ⟨-, building, hbuilding, hbuilt⟩ := hvisiting.newConnector hconnector
  obtain ⟨existing, -, format, content, hmade, -, -, hfree⟩ := hbuilt.calls
  refine ⟨existing, content, format, rows.overview.logo, ?_, hfree⟩
  rw [← hmade, ← hbuilding]
  exact (hpart.filterMap _).trans hcalls

theorem VisitsTrace.overviews_eq (h : site.VisitsTrace set set.agenda visits actions) :
    (Batch.ofVisits visits).overviews.map (·.identity) =
      (Batch.ofVisits visits).connectors.map (·.identity) := by
  simp only [Batch.ofVisits, List.map_map]
  refine List.map_congr_left fun rows hrows => ?_
  obtain ⟨visit, hvisit, hconnector⟩ := List.mem_filterMap.1 hrows
  obtain ⟨visiting, -, hvisiting⟩ := h.of_mem hvisit
  obtain ⟨-, building, -, hbuilt⟩ := hvisiting.newConnector hconnector
  exact hbuilt.identity_eq.2

end BuildSite

/-! ### Whole runs -/

/-- **What a run hands over is consistent.** -/
theorem publish_consistent (site : BuildSite σ) (files : ChangedFiles) (world : σ)
    {request : PublishRequest} {answer : Except Causes Unit}
    (h : .publish request answer ∈ (publish site files (.start world)).2.calls) :
    ∃ set, ChangeSet.ofFiles files = .ok set ∧
      let batch := Batch.ofVisits (site.visitsOf files (.start world)).1
      request = .ofBatch batch site.environment.policy ∧
        batch.Consistent site set (publish site files (.start world)).2.calls := by
  obtain ⟨actions, hcalls, -, htrace⟩ := site.publish_calls files world
  rw [hcalls] at h ⊢
  generalize (site.visitsOf files (.start world)).1 = visits at htrace ⊢
  generalize (publish site files (.start world)).1 = result at htrace
  obtain ⟨set, visiting, hset, hvisits, hpart, hfault, hrequest, -⟩ := htrace.of_publish h
  refine ⟨set, hset, hrequest, ?_, hvisits.overviews_eq, ?_, fun row hrow => ?_, fun row hrow => ?_⟩
  · exact (Change.newConnectors_nodup (ChangeSet.sorted_agenda hset)).sublist
      hvisits.connectors_sublist
  · exact (Change.releases_nodup (ChangeSet.sorted_agenda hset)).sublist hvisits.releases_sublist
  · exact hvisits.announced hpart.isInfix hrow
  · exact hvisits.grounded hset hfault hpart.isInfix hrow

open Memory

/-- The run that publishes the one release of a tree hands consistent rows over. -/
theorem oneRelease_consistent : ∃ request answer set,
    .publish request answer ∈
      (publish (oneRelease [] theReleases) theFiles (.start [])).2.calls ∧
    ChangeSet.ofFiles theFiles = .ok set ∧
    Batch.Consistent (oneRelease [] theReleases) set
      (publish (oneRelease [] theReleases) theFiles (.start [])).2.calls
      (.ofVisits ((oneRelease [] theReleases).visitsOf theFiles (.start [])).1) := by
  have hany : (publish (oneRelease [] theReleases) theFiles (.start [])).2.calls.any
      Call.isAccepted = true := by decide +kernel
  obtain ⟨call, hcall, haccepted⟩ := List.any_eq_true.1 hany
  obtain ⟨request, rfl⟩ := Call.isAccepted_iff.1 haccepted
  obtain ⟨set, hset, -, hconsistent⟩ := publish_consistent _ theFiles [] hcall
  exact ⟨request, .ok (), set, hcall, hset, hconsistent⟩

end ConnectorCatalog
