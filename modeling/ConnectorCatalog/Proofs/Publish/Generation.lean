import ConnectorCatalog.Proofs.Document.Generation
import ConnectorCatalog.Proofs.Publish.Conservation

/-!
# Releases of the generation that is not published

A release whose document declares the generation that is not published is skipped if the document
can be read as a whole, and has failed otherwise (`publish_generation`).  So a run lists it under
the failed releases exactly if one of its other fields has a form that is not understood.
-/

namespace ConnectorCatalog

variable {σ : Type} {actions : List Action} {release other : ReleaseId} {uri : String}
  {fetched : FetchedRelease}

/-! ### What is fetched -/

theorem ResolveTrace.of_fetch {address : String} {result : Except PublishFault Resolution}
    (h : ResolveTrace release address result actions)
    (hcall : .fetch uri other (.ok fetched) ∈ callsOf actions) :
    other = release ∧ result = Resolution.ofFetched release fetched := by
  cases h with
  | noUri => cases hcall
  | notFetched causes => cases List.mem_singleton.1 hcall
  | fetched fetched' =>
    cases List.mem_singleton.1 hcall
    exact ⟨rfl, rfl⟩

theorem RowTrace.not_fetch {resolved : ResolvedRelease} {isNew : Bool}
    {result : Except PublishFault VersionRow} (h : RowTrace release resolved isNew result actions)
    {answer : Except Causes FetchedRelease} : .fetch uri other answer ∉ callsOf actions := by
  cases h <;> simp

/-- What has become of a release that is left out. -/
def Resolution.leftOut? :
    Except PublishFault Resolution → Option (Except PublishFault ReleaseOutcome)
  | .error fault => some (.error fault)
  | .ok (.unsupported generation) => some (.ok (.skipped generation))
  | .ok (.resolved _) => none

namespace BuildSite

variable {site : BuildSite σ} {isNew : Bool}

theorem ReleaseTrace.of_fetch {path : String} {result : Except PublishFault ReleaseOutcome}
    (h : site.ReleaseTrace release path isNew result actions)
    (hcall : .fetch uri other (.ok fetched) ∈ callsOf actions) :
    other = release ∧ ∀ left, Resolution.leftOut? (Resolution.ofFetched release fetched) =
      some left → result = left := by
  cases h with
  | noDescriptor => cases hcall
  | misplaced => cases hcall
  | unresolved fault _ hfetch =>
    obtain ⟨hsame, hresult⟩ := hfetch.of_fetch hcall
    refine ⟨hsame, fun left hleft => ?_⟩
    rw [← hresult] at hleft
    exact Option.some.inj hleft
  | skipped generation _ hfetch =>
    obtain ⟨hsame, hresult⟩ := hfetch.of_fetch hcall
    refine ⟨hsame, fun left hleft => ?_⟩
    rw [← hresult] at hleft
    exact Option.some.inj hleft
  | noRow fault _ hfetch hrow =>
    rw [callsOf_opened, callsOf_append] at hcall
    obtain ⟨hsame, hresult⟩ :=
      hfetch.of_fetch ((List.mem_append.1 hcall).resolve_right hrow.not_fetch)
    exact ⟨hsame, fun left hleft => by cases hresult ▸ hleft⟩
  | built row _ hfetch hrow =>
    rw [callsOf_opened, callsOf_append] at hcall
    obtain ⟨hsame, hresult⟩ :=
      hfetch.of_fetch ((List.mem_append.1 hcall).resolve_right hrow.not_fetch)
    exact ⟨hsame, fun left hleft => by cases hresult ▸ hleft⟩

theorem LogoTrace.not_fetch {connector : Identity} {path : String} {format : LogoFormat}
    {result : Except PublishFault String} (h : site.LogoTrace connector path format result actions)
    {answer : Except Causes FetchedRelease} : .fetch uri release answer ∉ callsOf actions := by
  cases h <;> simp

theorem NewConnectorTrace.not_fetch {connector : Identity} {path : String}
    {result : Except PublishFault NewConnectorRows}
    (h : site.NewConnectorTrace connector path result actions)
    {answer : Except Causes FetchedRelease} : .fetch uri release answer ∉ callsOf actions := by
  cases h with
  | logo existing hdocs hfound hfree hlogo => simp [openedDocuments, hlogo.not_fetch]
  | _ => simp [openedDocuments]

theorem BuildTrace.of_fetch {change : Change} {result : Except PublishFault Built}
    (h : site.BuildTrace isNew change result actions)
    (hcall : .fetch uri release (.ok fetched) ∈ callsOf actions) :
    change.release? = some release ∧
      ∀ left, Resolution.leftOut? (Resolution.ofFetched release fetched) = some left →
        result = left.map .release := by
  cases h with
  | newConnector hkind h => exact absurd hcall h.not_fetch
  | modifiedConnector hkind h => cases h <;> cases hcall
  | logo hkind h =>
    cases h with
    | logo h => exact absurd hcall h.not_fetch
  | readme hkind h => cases h <;> cases hcall
  | release hchange h =>
    obtain ⟨rfl, hleft⟩ := h.of_fetch hcall
    exact ⟨hchange, fun left h => by rw [hleft left h]⟩

/-- What has been called has been called for a visit. -/
theorem VisitsTrace.exists_visit {set : ChangeSet} {changes : List Change} {visits : List Visit}
    (h : site.VisitsTrace set changes visits actions) {call : Call}
    (hcall : call ∈ callsOf actions) : ∃ visit ∈ visits, ∃ building,
      site.BuildTrace (set.isNewConnector visit.change.connector) visit.change visit.result
        building ∧ call ∈ callsOf building := by
  have hvisit {isNew : Bool} {visit : Visit} {visiting : List Action}
      (h : site.VisitTrace isNew visit visiting) (hcall : call ∈ callsOf visiting) :
      ∃ building, site.BuildTrace isNew visit.change visit.result building ∧
        call ∈ callsOf building := by
    obtain ⟨hbuild⟩ := h
    exact ⟨_, hbuild, by simpa using hcall⟩
  induction h with
  | nil => cases hcall
  | fault visit rest _ h => exact ⟨visit, List.mem_cons_self, hvisit h hcall⟩
  | cons visit _ h _ ih =>
    rw [callsOf_append] at hcall
    rcases List.mem_append.1 hcall with hcall | hcall
    · exact ⟨visit, List.mem_cons_self, hvisit h hcall⟩
    · obtain ⟨later, hlater, hbuilding⟩ := ih hcall
      exact ⟨later, List.mem_cons_of_mem _ hlater, hbuilding⟩

end BuildSite

/-! ### Whole runs -/

namespace Resolution

/-- A document that cannot be read fails its release. -/
theorem ofFetched_of_unreadable (h : ReleaseDocument.ofText? fetched.document = none) :
    ofFetched release fetched = .error (.resolution release .malformedDocument) := by
  rw [ofFetched, h]

theorem ofFetched_of_declares
    (h : ReleaseDocument.Declares fetched.document ReleaseDocument.unsupportedGeneration)
    (hreadable : (ReleaseDocument.ofText? fetched.document).isSome = true) :
    ofFetched release fetched = .ok (.unsupported ReleaseDocument.unsupportedGeneration) := by
  obtain ⟨document, hdocument⟩ := Option.isSome_iff_exists.1 hreadable
  have hgeneration := ReleaseDocument.generation_of_declares h (by decide) (by decide) hdocument
  rw [ofFetched, hdocument]
  simp [ReleaseDocument.isUnsupported, hgeneration]

end Resolution

/-- What a run that succeeds says of a release that it has fetched and left out. -/
theorem publish_leftOut (site : BuildSite σ) (files : ChangedFiles) (world : σ)
    {outcome : PublishOutcome} (hrun : (publish site files (.start world)).1 = .ok outcome)
    (hcall : .fetch uri release (.ok fetched) ∈ (publish site files (.start world)).2.calls) :
    (∀ generation, Resolution.ofFetched release fetched = .ok (.unsupported generation) →
      ⟨release, generation⟩ ∈ outcome.skipped ∧ release ∉ outcome.failed.map (·.release)) ∧
    ∀ fault, Resolution.ofFetched release fetched = .error fault →
      ⟨release, fault⟩ ∈ outcome.failed ∧ release ∉ outcome.skipped.map (·.release) := by
  obtain ⟨actions, hcalls, -, htrace⟩ := site.publish_calls files world
  rw [hcalls] at hcall
  rw [hrun] at htrace
  generalize (site.visitsOf files (.start world)).1 = visits at htrace
  generalize hresult : (.ok outcome : Except PublishFault PublishOutcome) = result at htrace
  cases htrace with
  | refused => cases hresult
  | nothing => cases hcall
  | @ended set _ _ visiting ending hset hempty hvisits hend =>
    subst hresult
    obtain ⟨hfault, rfl, hcalls⟩ := hend.of_ok
    have hnot : .fetch uri release (.ok fetched) ∉ callsOf ending := by
      rcases hcalls with ⟨-, hcalls⟩ | hcalls <;> simp [hcalls]
    rw [callsOf_reported, callsOf_append] at hcall
    obtain ⟨visit, hvisit, building, hbuild, hfetch⟩ :=
      hvisits.exists_visit ((List.mem_append.1 hcall).resolve_right hnot)
    obtain ⟨hrelease, hleft⟩ := hbuild.of_fetch hfetch
    -- No release is listed twice.
    have hdisjoint := (List.nodup_append.1 (List.nodup_append.1 (Collection.accounts hset
      (hvisits.changes_eq hfault) (hvisits.settled hfault) site.environment.policy).nodup).2.1).2.2
    constructor
    · intro generation hgeneration
      have hbuilt := hleft (.ok (.skipped generation)) (by rw [hgeneration]; rfl)
      have hskipped : ⟨release, generation⟩ ∈ visits.filterMap Visit.skipped? :=
        List.mem_filterMap.2 ⟨visit, hvisit, by simp [Visit.skipped?, hrelease, hbuilt, Except.map]⟩
      exact ⟨hskipped, fun hmem => hdisjoint _ (List.mem_map_of_mem hskipped) _ hmem rfl⟩
    · intro fault hof
      have hbuilt := hleft (.error fault) (by rw [hof]; rfl)
      have hscope : fault.isReleaseScoped = true := by
        by_contra hscope
        have hsome := Visit.fault?_eq_some hbuilt (Bool.eq_false_iff.2 hscope)
        rw [List.findSome?_eq_none_iff.1 hfault visit hvisit] at hsome
        cases hsome
      have hfailed : ⟨release, fault⟩ ∈ visits.filterMap Visit.failed? :=
        List.mem_filterMap.2
          ⟨visit, hvisit, by simp [Visit.failed?, hrelease, hbuilt, hscope, Except.map]⟩
      exact ⟨hfailed, fun hmem => hdisjoint _ hmem _ (List.mem_map_of_mem hfailed) rfl⟩

/-- **Releases of the generation that is not published.**  A run that succeeds has fetched a release
whose document declares this generation.  If the document can be read as a whole, then the release
is skipped and has not failed.  Otherwise it has failed and is not skipped, though its generation
can be told.  A document without the further fields can always be read, whatever else it holds. -/
theorem publish_generation (site : BuildSite σ) (files : ChangedFiles) (world : σ)
    {outcome : PublishOutcome} (hrun : (publish site files (.start world)).1 = .ok outcome)
    (hcall : .fetch uri release (.ok fetched) ∈ (publish site files (.start world)).2.calls)
    (hdeclares :
      ReleaseDocument.Declares fetched.document ReleaseDocument.unsupportedGeneration) :
    ((ReleaseDocument.ofText? fetched.document).isSome = true →
      Resolution.ofFetched release fetched =
        .ok (.unsupported ReleaseDocument.unsupportedGeneration) ∧
      ⟨release, ReleaseDocument.unsupportedGeneration⟩ ∈ outcome.skipped ∧
      release ∉ outcome.failed.map (·.release)) ∧
    (ReleaseDocument.ofText? fetched.document = none →
      Resolution.ofFetched release fetched = .error (.resolution release .malformedDocument) ∧
      ⟨release, .resolution release .malformedDocument⟩ ∈ outcome.failed ∧
      release ∉ outcome.skipped.map (·.release)) ∧
    (ReleaseDocument.DeclaresOnly fetched.document ReleaseDocument.unsupportedGeneration →
      (ReleaseDocument.ofText? fetched.document).isSome = true) := by
  obtain ⟨hskipped, hfailed⟩ := publish_leftOut site files world hrun hcall
  refine ⟨fun hreadable => ?_, fun hunreadable => ?_, fun honly => ?_⟩
  · have hof := @Resolution.ofFetched_of_declares release _ hdeclares hreadable
    exact ⟨hof, hskipped _ hof⟩
  · have hof := @Resolution.ofFetched_of_unreadable release _ hunreadable
    exact ⟨hof, hfailed _ hof⟩
  · exact ReleaseDocument.isSome_ofText?_of_declaresOnly honly (by decide) (by decide)

section

open Memory

/-- A document of the generation that is not published, with a field in a form of its own. -/
def foreignDocument : String := "version: v2\npackagingDefinition: container\n"

/-- What the run with this document comes to. -/
def foreignOutcome : PublishOutcome where
  state := .committed
  connectors := 0
  overviews := 0
  updates := 0
  versions := 0
  skipped := []
  failed := [⟨theRelease, .resolution theRelease .malformedDocument⟩]

/-- What a call has fetched. -/
def Call.fetched? : Call → Option (String × ReleaseId × FetchedRelease)
  | .fetch uri release (.ok fetched) => some (uri, release, fetched)
  | _ => none

theorem Call.fetched?_eq_some {call : Call} :
    call.fetched? = some (uri, release, fetched) ↔ call = .fetch uri release (.ok fetched) := by
  unfold fetched?
  split
  · simp
  · rename_i hother
    exact ⟨nofun, fun h => absurd h (hother uri release fetched)⟩

/-- A release has failed though its document says that it is of the generation that is skipped. -/
theorem foreignDocument_fails :
    ReleaseDocument.Declares foreignDocument ReleaseDocument.unsupportedGeneration ∧
    (publish (oneRelease [] [("u", foreignDocument)]) theFiles (.start [])).1 =
      .ok foreignOutcome ∧
    ⟨theRelease, .resolution theRelease .malformedDocument⟩ ∈ foreignOutcome.failed ∧
    theRelease ∉ foreignOutcome.skipped.map (·.release) := by
  have hdeclares :
      ReleaseDocument.Declares foreignDocument ReleaseDocument.unsupportedGeneration := by
    decide +kernel
  obtain ⟨hoption, hfetched⟩ :
      (publish (oneRelease [] [("u", foreignDocument)]) theFiles (.start [])).1.toOption =
        some foreignOutcome ∧
      ("u", theRelease, ⟨foreignDocument, releaseDir theRelease ++ "/package.tgz",
        releaseDir theRelease⟩) ∈ (publish (oneRelease [] [("u", foreignDocument)]) theFiles
          (.start [])).2.calls.filterMap Call.fetched? := by
    decide +kernel
  have hrun := Except.toOption_eq_some.1 hoption
  obtain ⟨call, hcall, hmade⟩ := List.mem_filterMap.1 hfetched
  rw [Call.fetched?_eq_some.1 hmade] at hcall
  have hunreadable : ReleaseDocument.ofText? foreignDocument = none := by decide +kernel
  obtain ⟨-, hfailed, -⟩ := publish_generation _ theFiles [] hrun hcall hdeclares
  exact ⟨hdeclares, hrun, (hfailed hunreadable).2⟩

end

end ConnectorCatalog
