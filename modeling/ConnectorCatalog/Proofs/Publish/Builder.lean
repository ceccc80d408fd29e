import ConnectorCatalog.Proofs.Except
import ConnectorCatalog.Proofs.Run
import ConnectorCatalog.Publish.Build

/-!
# How building rows can go

For each builder, a relation between what it comes to and what it does meanwhile, with one case for
every way in which it can end: which files were opened, which services were called, what they
answered and what the documents said.  The builders keep to these relations whatever the services
do (`BuildSite.yields_newConnector`, `BuildSite.yields_release` and their like).

An upload or a put is the last action of every case that has one.
-/

namespace ConnectorCatalog

open Run

namespace Task

variable {σ α β : Type}

@[simp] theorem throw_bind (fault : PublishFault) (next : α → Task σ β) :
    (throw fault >>= next : Task σ β) = throw fault := rfl

end Task

/-! ### Releases -/

/-- Getting hold of a release at an address. -/
inductive ResolveTrace (release : ReleaseId) (uri : String) :
    Except PublishFault Resolution → List Action → Prop where
  | noUri : Text.trim uri = "" → ResolveTrace release uri (.error (.resolution release .noUri)) []
  | notFetched (causes : Causes) : Text.trim uri ≠ "" →
    ResolveTrace release uri (.error (.resolution release (.notFetched causes)))
      [.called (.fetch (Text.trim uri) release (.error causes))]
  | fetched (fetched : FetchedRelease) : Text.trim uri ≠ "" →
    ResolveTrace release uri (Resolution.ofFetched release fetched)
      [.called (.fetch (Text.trim uri) release (.ok fetched))]

/-- A release that has been got hold of is what its document says. -/
theorem ResolveTrace.of_ok {release : ReleaseId} {uri : String} {resolution : Resolution}
    {actions : List Action} (h : ResolveTrace release uri (.ok resolution) actions) :
    Text.trim uri ≠ "" ∧ ∃ fetched, Resolution.ofFetched release fetched = .ok resolution ∧
      actions = [.called (.fetch (Text.trim uri) release (.ok fetched))] := by
  generalize hres : (.ok resolution : Except PublishFault Resolution) = result at h
  cases h with
  | noUri huri => cases hres
  | notFetched causes huri => cases hres
  | fetched fetched huri => exact ⟨huri, fetched, rfl, rfl⟩

/-- Whether a release is for several tenants, by what the registry knows of its connector. -/
def tenancyOf (release : ReleaseId) (isNew : Bool) : Option ConnectorInfo → Except PublishFault Bool
  | some info => .ok info.isMultitenant
  | none =>
    if isNew then .ok false
    else .error (.consistency release.connector (some release.version) .unknownConnector)

/-- Building the row of a release that is at hand. -/
inductive RowTrace (release : ReleaseId) (resolved : ResolvedRelease) (isNew : Bool) :
    Except PublishFault VersionRow → List Action → Prop where
  | noPackaging (fault : ConsistencyFault) : packagingOf resolved.document = .error fault →
    RowTrace release resolved isNew
      (.error (.consistency release.connector (some release.version) fault)) []
  | noAnswer (causes : Causes) {kind : PackagingKind} {image : Option String} :
    packagingOf resolved.document = .ok (kind, image) →
    RowTrace release resolved isNew (.error (.registry release.connector causes))
      [.called (.lookup release.connector (.error causes))]
  | unknown (fault : PublishFault) {kind : PackagingKind} {image : Option String}
    {info : Option ConnectorInfo} : packagingOf resolved.document = .ok (kind, image) →
    tenancyOf release isNew info = .error fault →
    RowTrace release resolved isNew (.error fault)
      [.called (.lookup release.connector (.ok info))]
  | notStored (causes : Causes) {kind : PackagingKind} {image : Option String}
    {info : Option ConnectorInfo} {isMultitenant : Bool} :
    packagingOf resolved.document = .ok (kind, image) →
    tenancyOf release isNew info = .ok isMultitenant →
    RowTrace release resolved isNew (.error (.storage release release.packageKey causes))
      [.called (.lookup release.connector (.ok info)),
        .called (.put release.packageKey resolved.package (.error causes))]
  | stored (url : String) {kind : PackagingKind} {image : Option String}
    {info : Option ConnectorInfo} {isMultitenant : Bool} :
    packagingOf resolved.document = .ok (kind, image) →
    tenancyOf release isNew info = .ok isMultitenant →
    RowTrace release resolved isNew
      (.ok ⟨release.connector.ns, release.connector.name, release.version, image, url,
        isMultitenant, kind⟩)
      [.called (.lookup release.connector (.ok info)),
        .called (.put release.packageKey resolved.package (.ok url))]

namespace BuildSite

variable {σ : Type} (site : BuildSite σ)

/-- The descriptor of a release is readable and declares the version of its directory. -/
structure Declares (release : ReleaseId) (path : String) (descriptor : PackagingDescriptor) :
    Prop where
  load : PackagingDescriptor.load site.tree (site.locate path) = .ok descriptor
  version : checkVersion release descriptor.version = .ok ()

/-- Building the row of a release. -/
inductive ReleaseTrace (release : ReleaseId) (path : String) (isNew : Bool) :
    Except PublishFault ReleaseOutcome → List Action → Prop where
  | noDescriptor (fault : DocumentFault) :
    PackagingDescriptor.load site.tree (site.locate path) = .error fault →
    ReleaseTrace release path isNew (.error (.missing release.connector path (.document fault)))
      [.opened (site.locate path)]
  | misplaced (fault : PublishFault) {descriptor : PackagingDescriptor} :
    PackagingDescriptor.load site.tree (site.locate path) = .ok descriptor →
    checkVersion release descriptor.version = .error fault →
    ReleaseTrace release path isNew (.error fault) [.opened (site.locate path)]
  | unresolved (fault : PublishFault) {descriptor : PackagingDescriptor} {fetch : List Action} :
    site.Declares release path descriptor →
    ResolveTrace release descriptor.uri (.error fault) fetch →
    ReleaseTrace release path isNew (.error fault) (.opened (site.locate path) :: fetch)
  | skipped (generation : String) {descriptor : PackagingDescriptor} {fetch : List Action} :
    site.Declares release path descriptor →
    ResolveTrace release descriptor.uri (.ok (.unsupported generation)) fetch →
    ReleaseTrace release path isNew (.ok (.skipped generation))
      (.opened (site.locate path) :: fetch)
  | noRow (fault : PublishFault) {descriptor : PackagingDescriptor} {resolved : ResolvedRelease}
    {fetch actions : List Action} : site.Declares release path descriptor →
    ResolveTrace release descriptor.uri (.ok (.resolved resolved)) fetch →
    RowTrace release resolved isNew (.error fault) actions →
    ReleaseTrace release path isNew (.error fault)
      (.opened (site.locate path) :: (fetch ++ actions))
  | built (row : VersionRow) {descriptor : PackagingDescriptor} {resolved : ResolvedRelease}
    {fetch actions : List Action} : site.Declares release path descriptor →
    ResolveTrace release descriptor.uri (.ok (.resolved resolved)) fetch →
    RowTrace release resolved isNew (.ok row) actions →
    ReleaseTrace release path isNew (.ok (.built row))
      (.opened (site.locate path) :: (fetch ++ actions))

/-! ### Connectors -/

/-- Uploading the logo in the file at a path. -/
inductive LogoTrace (connector : Identity) (path : String) (format : LogoFormat) :
    Except PublishFault String → List Action → Prop where
  | unreadable (fault : OsFault) : site.tree.readBytes path = .error fault →
    LogoTrace connector path format (.error (.missing connector path (.file (.os fault))))
      [.opened path]
  | uploaded (content : Bytes) (answer : Except Causes String) :
    site.tree.readBytes path = .ok content →
    LogoTrace connector path format (answer.mapError (.imageUpload connector path))
      [.opened path, .called (.upload content connector.logoPublicId format answer)]

/-- The path of the documentation of a new connector. -/
def docsPath (connector : Identity) : String :=
  Path.append (site.connectorDir connector) "README.md"

/-- The files of a new connector are readable and agree with where they stand. -/
structure Describes (connector : Identity) (path : String) (metadata : ConnectorMetadata)
    (docs : String) : Prop where
  load : ConnectorMetadata.load site.tree (site.locate path) = .ok metadata
  overview : checkOverview connector metadata.overview = .ok ()
  docs : site.tree.readText (site.docsPath connector) = .ok docs

/-- The files that are opened for a new connector before its logo. -/
def openedDocuments (connector : Identity) (path : String) : List Action :=
  [.opened (site.locate path), .opened (site.docsPath connector)]

/-- Building the rows of a connector that is added. -/
inductive NewConnectorTrace (connector : Identity) (path : String) :
    Except PublishFault NewConnectorRows → List Action → Prop where
  | noMetadata (fault : DocumentFault) :
    ConnectorMetadata.load site.tree (site.locate path) = .error fault →
    NewConnectorTrace connector path (.error (.missing connector path (.document fault)))
      [.opened (site.locate path)]
  | misplaced (fault : PublishFault) {metadata : ConnectorMetadata} :
    ConnectorMetadata.load site.tree (site.locate path) = .ok metadata →
    checkOverview connector metadata.overview = .error fault →
    NewConnectorTrace connector path (.error fault) [.opened (site.locate path)]
  | noDocs (fault : ReadFault) {metadata : ConnectorMetadata} :
    ConnectorMetadata.load site.tree (site.locate path) = .ok metadata →
    checkOverview connector metadata.overview = .ok () →
    site.tree.readText (site.docsPath connector) = .error fault →
    NewConnectorTrace connector path
      (.error (.missing connector (site.docsPath connector) (.file fault)))
      (site.openedDocuments connector path)
  | noLogo {metadata : ConnectorMetadata} {docs : String} :
    site.Describes connector path metadata docs →
    site.findLogo? (site.connectorDir connector) = none →
    NewConnectorTrace connector path
      (.error (.missing connector (Path.append (site.connectorDir connector) "logo.png") .noLogo))
      (site.openedDocuments connector path)
  | noAnswer (causes : Causes) {metadata : ConnectorMetadata} {docs logo : String}
    {format : LogoFormat} : site.Describes connector path metadata docs →
    site.findLogo? (site.connectorDir connector) = some (logo, format) →
    NewConnectorTrace connector path (.error (.registry connector causes))
      (site.openedDocuments connector path ++ [.called (.lookup connector (.error causes))])
  | inProduction (info : ConnectorInfo) {metadata : ConnectorMetadata} {docs logo : String}
    {format : LogoFormat} : site.Describes connector path metadata docs →
    site.findLogo? (site.connectorDir connector) = some (logo, format) →
    site.environment = .production →
    NewConnectorTrace connector path (.error (.consistency connector none .existsInProduction))
      (site.openedDocuments connector path ++ [.called (.lookup connector (.ok (some info)))])
  | logo (existing : Option ConnectorInfo) {metadata : ConnectorMetadata} {docs logo : String}
    {format : LogoFormat} {result : Except PublishFault String} {actions : List Action} :
    site.Describes connector path metadata docs →
    site.findLogo? (site.connectorDir connector) = some (logo, format) →
    (site.environment = .production → existing = none) →
    site.LogoTrace connector logo format result actions →
    NewConnectorTrace connector path
      (result.map (newConnectorRows connector metadata · docs))
      (site.openedDocuments connector path ++ .called (.lookup connector (.ok existing)) :: actions)

/-- Building the update for a connector whose metadata is modified. -/
inductive ModifiedConnectorTrace (connector : Identity) (path : String) :
    Except PublishFault OverviewUpdate → List Action → Prop where
  | noMetadata (fault : DocumentFault) :
    ConnectorMetadata.load site.tree (site.locate path) = .error fault →
    ModifiedConnectorTrace connector path (.error (.missing connector path (.document fault)))
      [.opened (site.locate path)]
  | nothing {metadata : ConnectorMetadata} :
    ConnectorMetadata.load site.tree (site.locate path) = .ok metadata →
    (overviewChange metadata.overview).isEmpty →
    ModifiedConnectorTrace connector path (.error (.consistency connector none .nothingToUpdate))
      [.opened (site.locate path)]
  | updated {metadata : ConnectorMetadata} :
    ConnectorMetadata.load site.tree (site.locate path) = .ok metadata →
    ¬(overviewChange metadata.overview).isEmpty →
    ModifiedConnectorTrace connector path
      (.ok (.ofConnector connector (overviewChange metadata.overview)))
      [.opened (site.locate path)]

/-- Building the update for a logo. -/
inductive LogoUpdateTrace (connector : Identity) (path : String) (format : LogoFormat) :
    Except PublishFault OverviewUpdate → List Action → Prop where
  | logo {result : Except PublishFault String} {actions : List Action} :
    site.LogoTrace connector (site.locate path) format result actions →
    LogoUpdateTrace connector path format
      (result.map fun url => .ofConnector connector { OverviewChange.none with logo := some url })
      actions

/-- Building the update for the documentation. -/
inductive ReadmeTrace (connector : Identity) (path : String) :
    Except PublishFault OverviewUpdate → List Action → Prop where
  | unreadable (fault : ReadFault) : site.tree.readText (site.locate path) = .error fault →
    ReadmeTrace connector path
      (.error (.missing connector (site.locate path) (.file fault))) [.opened (site.locate path)]
  | updated (docs : String) : site.tree.readText (site.locate path) = .ok docs →
    ReadmeTrace connector path
      (.ok (.ofConnector connector { OverviewChange.none with docs := some docs }))
      [.opened (site.locate path)]

/-! ### Reading -/

variable {services : Services σ}

theorem yields_openText (path : String) :
    Yields services (fun text actions => text = site.tree.readText path ∧ actions = [.opened path])
      (site.openText path) :=
  (Yields.opened path).bind fun _ _ h => .pure ⟨rfl, by simpa using h⟩

theorem yields_openBytes (path : String) :
    Yields services
      (fun content actions => content = site.tree.readBytes path ∧ actions = [.opened path])
      (site.openBytes path) :=
  (Yields.opened path).bind fun _ _ h => .pure ⟨rfl, by simpa using h⟩

theorem yields_readDocument {α : Type} (noun : String) (parse? : String → Option α)
    (connector : Identity) (path : String) :
    Yields services (fun result actions => actions = [.opened (site.locate path)] ∧
        result = (Document.load noun parse? site.tree (site.locate path)).mapError
          fun fault => .missing connector path (.document fault))
      (site.readDocument noun parse? connector path).run := by
  refine (site.yields_openText _).bindPerform ?_
  rintro text actions ⟨rfl, rfl⟩
  unfold Document.load
  cases Document.ofContent noun parse? (site.locate path)
    (site.tree.readText (site.locate path)) with
  | ok document => exact .returnTask ⟨rfl, rfl⟩
  | error fault => exact .throwTask ⟨rfl, rfl⟩

theorem yields_readText (connector : Identity) (path : String) :
    Yields services (fun result actions => actions = [.opened path] ∧
        result = (site.tree.readText path).mapError fun fault =>
          .missing connector path (.file fault))
      (site.readText connector path).run := by
  refine (site.yields_openText path).bindPerform ?_
  rintro text actions ⟨rfl, rfl⟩
  cases site.tree.readText path with
  | ok text => exact .returnTask ⟨rfl, rfl⟩
  | error fault => exact .throwTask ⟨rfl, rfl⟩

theorem yields_uploadLogo (connector : Identity) (path : String) (format : LogoFormat) :
    Yields site.services (site.LogoTrace connector path format)
      (site.uploadLogo connector path format).run := by
  refine (site.yields_openBytes path).bindPerform ?_
  rintro content actions ⟨rfl, rfl⟩
  cases h : site.tree.readBytes path with
  | error fault => exact .throwTask (.unreadable fault h)
  | ok content =>
    refine (Yields.upload content connector.logoPublicId format).require.mono ?_
    rintro result actions ⟨answer, rfl, rfl⟩
    exact .uploaded content answer h

/-! ### Releases -/

theorem yields_resolveRelease (release : ReleaseId) (uri : String) :
    Yields services (ResolveTrace release uri) (resolveRelease services release uri).run := by
  unfold resolveRelease
  by_cases huri : Text.trim uri = ""
  · simp only [huri, if_true, Task.throw_bind]
    exact .throwTask (.noUri huri)
  · simp only [huri, if_false]
    refine (Yields.fetch _ _).bindRequire ?_ ?_
    · intro fetched
      exact .liftTask (.fetched fetched huri)
    · intro causes
      exact .notFetched causes huri

theorem yields_multitenancy (release : ReleaseId) (isNew : Bool) :
    Yields site.services (fun result actions =>
        (∃ causes, result = .error (.registry release.connector causes) ∧
          actions = [.called (.lookup release.connector (.error causes))]) ∨
        ∃ info, result = tenancyOf release isNew info ∧
          actions = [.called (.lookup release.connector (.ok info))])
      (site.multitenancy release isNew).run := by
  refine (Yields.lookup release.connector).bindRequire ?_ ?_
  · intro info
    cases info with
    | some info => exact .returnTask (.inr ⟨some info, rfl, rfl⟩)
    | none =>
      cases isNew with
      | true => exact .returnTask (.inr ⟨none, rfl, rfl⟩)
      | false => exact .throwTask (.inr ⟨none, rfl, rfl⟩)
  · intro causes
    exact .inl ⟨causes, rfl, rfl⟩

theorem yields_versionRow (release : ReleaseId) (resolved : ResolvedRelease) (isNew : Bool) :
    Yields site.services (RowTrace release resolved isNew)
      (site.versionRow release resolved isNew).run := by
  unfold versionRow
  cases hpack : packagingOf resolved.document with
  | error fault => exact .throwTask (.noPackaging fault hpack)
  | ok packaging =>
    obtain ⟨kind, image⟩ := packaging
    refine (site.yields_multitenancy release isNew).bindTask ?_ ?_
    · rintro isMultitenant actions (⟨causes, ⟨⟩, -⟩ | ⟨info, hinfo, rfl⟩)
      -- The package is put last, so no later fault can leave it behind without a row.
      refine (Yields.put _ _).bindRequire ?_ ?_
      · intro url
        exact .returnTask (.stored url hpack hinfo.symm)
      · intro causes
        exact .notStored causes hpack hinfo.symm
    · rintro fault actions (⟨causes, ⟨⟩, rfl⟩ | ⟨info, hinfo, rfl⟩)
      · exact .noAnswer causes hpack
      · exact .unknown fault hpack hinfo.symm

theorem yields_release (release : ReleaseId) (path : String) (isNew : Bool) :
    Yields site.services (site.ReleaseTrace release path isNew)
      (site.release release path isNew).run := by
  refine (site.yields_readDocument _ _ _ _).bindKnown ?_ fun fault h => .noDescriptor fault h
  intro descriptor hload
  refine .bindLift ?_ fun fault h => .misplaced fault hload h
  intro _ hversion
  have hdecl : site.Declares release path descriptor := ⟨hload, hversion⟩
  refine (yields_resolveRelease release descriptor.uri).bindTask ?_ ?_
  · intro resolution fetch hfetch
    cases resolution with
    | unsupported generation =>
      exact .returnTask (by simpa using .skipped generation hdecl hfetch)
    | resolved resolved =>
      refine (site.yields_versionRow release resolved isNew).bindTask ?_ ?_
      · intro row actions hrow
        exact .returnTask (by simpa using .built row hdecl hfetch hrow)
      · intro fault actions hrow
        simpa using .noRow fault hdecl hfetch hrow
  · intro fault fetch hfetch
    exact .unresolved fault hdecl hfetch

/-! ### Connectors -/

theorem yields_newConnector (connector : Identity) (path : String) :
    Yields site.services (site.NewConnectorTrace connector path)
      (site.newConnector connector path).run := by
  refine (site.yields_readDocument _ _ _ _).bindKnown ?_ fun fault h => .noMetadata fault h
  intro metadata hload
  refine .bindLift ?_ fun fault h => .misplaced fault hload h
  intro _ hoverview
  refine (site.yields_readText _ _).bindKnown ?_ fun fault h => .noDocs fault hload hoverview h
  intro docs hread
  have hdocs : site.Describes connector path metadata docs := ⟨hload, hoverview, hread⟩
  cases hlogo : site.findLogo? (site.connectorDir connector) with
  | none => exact .throwTask (.noLogo hdocs hlogo)
  | some found =>
    obtain ⟨logo, format⟩ := found
    refine (Yields.lookup connector).bindRequire ?_ fun causes => .noAnswer causes hdocs hlogo
    intro existing
    by_cases htaken : existing.isSome && site.environment = .production
    · rw [if_pos htaken, Task.throw_bind]
      rw [Bool.and_eq_true, decide_eq_true_iff] at htaken
      obtain ⟨info, rfl⟩ := Option.isSome_iff_exists.1 htaken.1
      exact .throwTask (.inProduction info hdocs hlogo htaken.2)
    · rw [if_neg htaken]
      have hfree : site.environment = .production → existing = none := by
        intro hprod
        simpa [hprod] using htaken
      refine (site.yields_uploadLogo connector logo format).bindTask ?_ ?_
      · intro url actions hupload
        exact .returnTask (by simpa using .logo existing hdocs hlogo hfree hupload)
      · intro fault actions hupload
        simpa using .logo existing hdocs hlogo hfree hupload

theorem yields_modifiedConnector (connector : Identity) (path : String) :
    Yields site.services (site.ModifiedConnectorTrace connector path)
      (site.modifiedConnector connector path).run := by
  refine (site.yields_readDocument _ _ _ _).bindKnown ?_ fun fault h => .noMetadata fault h
  intro metadata hload
  by_cases hempty : (overviewChange metadata.overview).isEmpty
  · simp only [hempty, if_true, Task.throw_bind]
    exact .throwTask (.nothing hload hempty)
  · simp only [hempty]
    exact .returnTask (.updated hload hempty)

theorem yields_logo (connector : Identity) (path : String) (format : LogoFormat) :
    Yields site.services (site.LogoUpdateTrace connector path format)
      (site.logo connector path format).run := by
  refine (site.yields_uploadLogo _ _ _).bindTask ?_ ?_
  · intro url actions hlogo
    exact .returnTask (by simpa using .logo hlogo)
  · intro fault actions hlogo
    exact .logo hlogo

theorem yields_readme (connector : Identity) (path : String) :
    Yields site.services (site.ReadmeTrace connector path) (site.readme connector path).run := by
  refine (site.yields_readText _ _).bindKnown ?_ fun fault h => .unreadable fault h
  intro docs hread
  exact .returnTask (.updated docs hread)

end BuildSite

end ConnectorCatalog
