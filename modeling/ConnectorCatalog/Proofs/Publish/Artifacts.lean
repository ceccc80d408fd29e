import ConnectorCatalog.Proofs.AddedReleases
import ConnectorCatalog.Proofs.Publish.Conservation
import ConnectorCatalog.Proofs.Steady
import ConnectorCatalog.Publish.Artifacts

/-!
# Artifacts are those of the releases that a run publishes

The artifacts of a diff are collected without a publish run: the releases come straight from the
added paths, and the first fault ends the work.  A run that leaves no release behind has fetched
each of them, and each has come to a row or is of the generation that is not published.  So, where
the archive answers by address and release alone, **the artifacts that are collected are those of
the versions that the run submits, in their order** (`publish_artifacts`).
-/

namespace ConnectorCatalog

open Keyed Run

variable {σ : Type}

/-! ### Archives -/

namespace Services

/-- The answers to fetches do not depend on the state of the services. -/
def FetchesSteadily (services : Services σ) : Prop :=
  ∀ uri release world world',
    (services.fetch uri release world).1 = (services.fetch uri release world').1

variable {services : Services σ}

/-- What has been fetched once can be fetched again. -/
theorem FetchesSteadily.fetch_eq (h : services.FetchesSteadily) {before after : σ}
    {actions : List Action} (hleads : services.Leads before actions after) {uri : String}
    {release : ReleaseId} {fetched : FetchedRelease}
    (hcall : .fetch uri release (.ok fetched) ∈ callsOf actions) (world : σ) :
    (services.fetch uri release world).1 = .ok fetched := by
  obtain ⟨made, next, hanswer⟩ := hleads.exists_answers hcall
  rw [h uri release world made]
  exact congrArg Prod.fst hanswer

end Services

/-! ### Releases at hand -/

/-- Where a fetch comes to a release, getting hold of it does so, too. -/
theorem ResolveTrace.eq_of_fetch {services : Services σ} {release : ReleaseId} {uri : String}
    {result : Except PublishFault Resolution} {actions : List Action}
    (h : ResolveTrace release uri result actions) {before after : σ}
    (hleads : services.Leads before actions after) (huri : Text.trim uri ≠ "")
    {fetched : FetchedRelease}
    (hfetch : ∀ world, (services.fetch (Text.trim uri) release world).1 = .ok fetched) :
    result = Resolution.ofFetched release fetched ∧
      actions = [.called (.fetch (Text.trim uri) release (.ok fetched))] := by
  have hanswer {answer : Except Causes FetchedRelease}
      (hleads : services.Leads before [.called (.fetch (Text.trim uri) release answer)] after) :
      answer = .ok fetched := by
    obtain ⟨world, next, hmade⟩ := hleads.exists_answers List.mem_cons_self
    exact (congrArg Prod.fst hmade).symm.trans (hfetch world)
  cases h with
  | noUri hnone => exact absurd hnone huri
  | notFetched causes => cases hanswer hleads
  | fetched fetched' =>
    cases hanswer hleads
    exact ⟨rfl, rfl⟩

/-- Whether a release is published. -/
def Resolution.isResolved : Resolution → Bool
  | resolved _ => true
  | unsupported _ => false

/-- The artifacts of a release that is published. -/
def Resolution.artifacts? (release : ReleaseId) : Resolution → Option ReleaseArtifacts
  | resolved r => some ⟨release, r.document.images, r.directory⟩
  | unsupported _ => none

theorem Resolution.map_release_artifacts? (release : ReleaseId) (resolution : Resolution) :
    (resolution.artifacts? release).map (·.release) =
      if resolution.isResolved then some release else none := by
  cases resolution <;> rfl

/-- Whether there is a row of a release. -/
def ReleaseOutcome.isBuilt : ReleaseOutcome → Bool
  | built _ => true
  | skipped _ => false

namespace Visit

variable {visit : Visit}

/-- The release of a visit, with its packaging file. -/
def added? (visit : Visit) : Option AddedRelease := visit.change.added?

theorem added?_eq_none (h : visit.change.bucket ≠ .newVersion) : visit.added? = none := by
  rw [added?, Change.added?, Change.release?_eq_none h]
  rfl

theorem added?_eq_some {release : ReleaseId} (h : visit.change.release? = some release) :
    visit.added? = some ⟨release, visit.change.path⟩ := by
  rw [added?, Change.added?, h]
  rfl

end Visit

namespace BuildSite

variable {site : BuildSite σ} {release : ReleaseId} {path : String} {actions : List Action}

theorem ReleaseTrace.of_ok {isNew : Bool} {outcome : ReleaseOutcome}
    (h : site.ReleaseTrace release path isNew (.ok outcome) actions) :
    ∃ descriptor resolution fetched, site.Declares release path descriptor ∧
      Text.trim descriptor.uri ≠ "" ∧
      Resolution.ofFetched release fetched = .ok resolution ∧
      .fetch (Text.trim descriptor.uri) release (.ok fetched) ∈ callsOf actions ∧
      resolution.isResolved = outcome.isBuilt := by
  cases h with
  | skipped generation hdecl hfetch =>
    obtain ⟨huri, fetched, hresolution, rfl⟩ := hfetch.of_ok
    exact ⟨_, _, fetched, hdecl, huri, hresolution, by simp, rfl⟩
  | built row hdecl hfetch hrow =>
    obtain ⟨huri, fetched, hresolution, rfl⟩ := hfetch.of_ok
    exact ⟨_, _, fetched, hdecl, huri, hresolution, by simp, rfl⟩

/-! ### Collecting artifacts -/

theorem does_readPackaging {descriptor : PackagingDescriptor}
    (h : PackagingDescriptor.load site.tree (site.locate path) = .ok descriptor)
    (connector : Identity) : Does (site.readPackaging connector path).run (.ok descriptor)
      [.opened (site.locate path)] := by
  intro journal
  obtain ⟨actions, hlog, -, rfl, hvalue⟩ :=
    @yields_readDocument _ site site.services _ PackagingDescriptor.noun
      PackagingDescriptor.ofText? connector path journal
  exact ⟨hvalue.trans (Except.mapError_eq_ok.2 h), hlog⟩

theorem does_resolveRelease {services : Services σ} {uri : String} {fetched : FetchedRelease}
    (huri : Text.trim uri ≠ "")
    (h : ∀ world, (services.fetch (Text.trim uri) release world).1 = .ok fetched) :
    Does (resolveRelease services release uri).run (Resolution.ofFetched release fetched)
      [.called (.fetch (Text.trim uri) release (.ok fetched))] := by
  intro journal
  obtain ⟨actions, hlog, hleads, htrace⟩ := yields_resolveRelease release uri journal
  obtain ⟨hvalue, rfl⟩ := htrace.eq_of_fetch hleads huri h
  exact ⟨hvalue, hlog⟩

/-- The artifacts of a release are found if its descriptor can be read and its package fetched. -/
theorem does_artifacts? {descriptor : PackagingDescriptor} {resolution : Resolution}
    {fetched : FetchedRelease} (hdecl : site.Declares release path descriptor)
    (huri : Text.trim descriptor.uri ≠ "")
    (hresolution : Resolution.ofFetched release fetched = .ok resolution)
    (hfetch : ∀ world,
      (site.services.fetch (Text.trim descriptor.uri) release world).1 = .ok fetched) :
    Does (site.artifacts? ⟨release, path⟩).run (.ok (resolution.artifacts? release))
      ([.opened (site.locate path)] ++
        ([.called (.fetch (Text.trim descriptor.uri) release (.ok fetched))] ++ [])) := by
  have hresolve := does_resolveRelease huri hfetch
  rw [hresolution] at hresolve
  refine (does_readPackaging hdecl.load release.connector).bindTask (hresolve.bindTask ?_)
  cases resolution with
  | resolved resolved => exact .pure _
  | unsupported generation => exact .pure _

/-- Collecting artifacts agrees with what has come of a visit. -/
inductive Unpacks (site : BuildSite σ) (visit : Visit) : Prop where
  | other : visit.added? = none → visit.version? = none → Unpacks site visit
  | release (added : AddedRelease) (found : Option ReleaseArtifacts) {finding : List Action} :
    visit.added? = some added → Does (site.artifacts? added).run (.ok found) finding →
    found.map (·.release) = visit.version?.map (·.release) → Unpacks site visit

/-- What a run has got hold of can be unpacked again. -/
theorem BuildTrace.unpacks (hfetch : site.services.FetchesSteadily) {isNew : Bool} {change : Change}
    {outcome : ReleaseOutcome}
    (h : site.BuildTrace isNew change (.ok (.release outcome)) actions) {before after : σ}
    {run : List Action} (hleads : site.services.Leads before run after)
    (hpart : callsOf actions ⊆ callsOf run) : site.Unpacks ⟨change, .ok (.release outcome)⟩ := by
  obtain ⟨release, hchange, hbuilt⟩ := h.of_ok_release
  obtain ⟨descriptor, resolution, fetched, hdecl, huri, hresolution, hcall, hsame⟩ := hbuilt.of_ok
  have hfound := does_artifacts? hdecl huri hresolution (hfetch.fetch_eq hleads (hpart hcall))
  refine .release ⟨release, change.path⟩ _ (Visit.added?_eq_some hchange) hfound ?_
  rw [resolution.map_release_artifacts?, hsame]
  cases hbuilt with
  | built row _ _ hrow => exact congrArg some hrow.release_eq.symm
  | skipped => rfl

/-- Without a failed release, what has come of a visit can be collected. -/
theorem VisitTrace.unpacks (hfetch : site.services.FetchesSteadily) {isNew : Bool} {visit : Visit}
    (h : site.VisitTrace isNew visit actions) (hsettled : visit.Settled)
    (hfailed : visit.failed? = none) {before after : σ} {run : List Action}
    (hleads : site.services.Leads before run after) (hpart : actions <:+: run) :
    site.Unpacks visit := by
  have hcalls : callsOf actions ⊆ callsOf run := (hpart.filterMap Action.call?).subset
  obtain ⟨hbuild⟩ := h
  rw [callsOf_reported, callsOf_append, callsOf_map_reported, List.append_nil] at hcalls
  cases hsettled with
  | connector rows hbucket =>
    exact .other (Visit.added?_eq_none fun hversion => nomatch hbucket.symm.trans hversion) rfl
  | update update hupdate =>
    exact .other (Visit.added?_eq_none (Change.isUpdate_iff.1 hupdate).2) rfl
  | built row hrelease => exact hbuild.unpacks hfetch hleads hcalls
  | skipped release generation hrelease => exact hbuild.unpacks hfetch hleads hcalls
  | failed release hrelease hscope => simp [Visit.failed?, hrelease, hscope] at hfailed

/-- The artifacts of the releases of visits are those that there are rows of. -/
theorem does_artifactsOf {visits : List Visit} (h : ∀ visit ∈ visits, site.Unpacks visit) :
    ∃ artifacts actions,
      Does (site.artifactsOf (visits.filterMap Visit.added?)).run (.ok artifacts) actions ∧
      artifacts.map (·.release) = (Batch.ofVisits visits).versions.map (·.release) := by
  induction visits with
  | nil => exact ⟨[], [], .pure _, rfl⟩
  | cons visit rest ih =>
    obtain ⟨hvisit, hrest⟩ := List.forall_mem_cons.1 h
    obtain ⟨artifacts, actions, hdoes, hreleases⟩ := ih hrest
    rw [Batch.versions_ofVisits_cons, List.map_append]
    cases hvisit with
    | other hadded hrow =>
      rw [List.filterMap_cons_none hadded, hrow]
      exact ⟨artifacts, actions, hdoes, hreleases⟩
    | @release added found finding hadded hfound hrelease =>
      rw [List.filterMap_cons_some hadded]
      refine ⟨found.toList ++ artifacts, finding ++ (actions ++ []),
        hfound.bindTask (hdoes.bindTask (.pure _)), ?_⟩
      rw [List.map_append, hreleases, ← Option.toList_map, hrelease, Option.toList_map]

end BuildSite

/-! ### The releases of a request -/

/-- The release that the form of a version row names. -/
def VersionRow.named? (row : Json) : Option ReleaseId :=
  match row.member? "namespace", row.member? "name", row.member? "version" with
  | some (.str ns), some (.str name), some (.str version) => some ⟨⟨ns, name⟩, version⟩
  | _, _, _ => none

/-- The releases that the version rows of a request name, in their order. -/
def PublishRequest.releases? (request : PublishRequest) : Option (List ReleaseId) :=
  match request.inputs.member? "versionInserts" with
  | some (.arr rows) => rows.mapM VersionRow.named?
  | _ => none

theorem PublishRequest.releases?_ofBatch (batch : Batch) (policy : ConflictPolicy) :
    (ofBatch batch policy).releases? = some (batch.versions.map (·.release)) := by
  change (batch.versions.map VersionRow.toJson).mapM VersionRow.named? = _
  induction batch.versions with
  | nil => rfl
  | cons row rest ih =>
    rw [List.map_cons, List.mapM_cons, ih]
    rfl

/-! ### Whole runs -/

theorem ChangeSet.added_agenda (set : ChangeSet) :
    set.agenda.filterMap Change.added? = set.added := by
  refine filterMap_filter_of_none fun c _ hc => ?_
  rw [Bool.not_eq_false', isFolded_eq, Change.isUpdate] at hc
  rw [Change.added?, Change.release?_eq_none (by simp_all)]
  rfl

/-- **The artifacts of a diff are those of the versions that a run submits.**  If a run succeeds and
no release has failed, then collecting the artifacts of the same diff succeeds, whatever was done
before.  It finds those of the releases that the run has handed over, in their order and once each;
where nothing was handed over, it finds none. -/
theorem publish_artifacts (site : BuildSite σ) (files : ChangedFiles) (world : σ)
    (hfetch : site.services.FetchesSteadily) {outcome : PublishOutcome}
    (hrun : (publish site files (.start world)).1 = .ok outcome) (hfailed : outcome.failed = []) :
    ∃ artifacts, (∀ journal, ((site.collectArtifacts files).run journal).1 = .ok artifacts) ∧
      (artifacts.map (·.release)).Nodup ∧
      let handed := (publish site files (.start world)).2.calls.filter Call.isPublish
      ((∃ request, handed = [.publish request (.ok ())] ∧
          request.releases? = some (artifacts.map (·.release))) ∨
        (handed = [] ∧ artifacts = [])) := by
  obtain ⟨actions, hcalls, hleads, htrace⟩ := site.publish_calls files world
  rw [hcalls]
  rw [hrun] at htrace
  generalize (site.visitsOf files (.start world)).1 = visits at htrace
  generalize hresult : (.ok outcome : Except PublishFault PublishOutcome) = result at htrace
  cases htrace with
  | refused => cases hresult
  | @nothing set hset hempty =>
    have hnone : addedReleases files = [] := by
      rw [addedReleases_eq hset, ChangeSet.added, List.isEmpty_iff.1 hempty]
      rfl
    refine ⟨[], fun journal => ?_, List.nodup_nil, .inr ⟨rfl, rfl⟩⟩
    rw [BuildSite.collectArtifacts, hnone]
    rfl
  | @ended set _ _ visiting ending hset hempty hvisits hend =>
    subst hresult
    obtain ⟨hfault, rfl, hhanded⟩ := hend.of_ok
    have hfinds : ∃ artifacts actions,
        Does (site.collectArtifacts files).run (.ok artifacts) actions ∧
          artifacts.map (·.release) = (Batch.ofVisits visits).versions.map (·.release) := by
      rw [BuildSite.collectArtifacts, addedReleases_eq hset, ← ChangeSet.added_agenda,
        ← hvisits.changes_eq hfault, List.filterMap_map]
      refine BuildSite.does_artifactsOf fun visit hvisit => ?_
      obtain ⟨actions, hpart, htrace⟩ := hvisits.of_mem hvisit
      exact htrace.unpacks hfetch (hvisits.settled hfault visit hvisit)
        (List.filterMap_eq_nil_iff.1 hfailed visit hvisit) hleads
        ((hpart.trans (List.prefix_append _ _).isInfix).trans (List.suffix_cons _ _).isInfix)
    obtain ⟨artifacts, _, hdoes, hreleases⟩ := hfinds
    have hnodup : ((Batch.ofVisits visits).versions.map (·.release)).Nodup :=
      (Change.releases_nodup (ChangeSet.sorted_agenda hset)).sublist hvisits.releases_sublist
    refine ⟨artifacts, fun journal => (hdoes journal).1, hreleases ▸ hnodup, ?_⟩
    rw [callsOf_reported, callsOf_append, List.filter_append,
      Call.filter_isPublish_of_isBuilding hvisits.ledger.building]
    rcases hhanded with ⟨hnone, hcalls⟩ | hcalls
    · rw [hnone] at hreleases
      rw [hcalls]
      exact .inr ⟨rfl, List.map_eq_nil_iff.1 hreleases⟩
    · rw [hcalls]
      exact .inl ⟨_, rfl, by rw [PublishRequest.releases?_ofBatch, hreleases]⟩

section

open Memory

/-- A diff that adds two releases of the tree, one of them under two spellings; the first is of the
generation that is not published. -/
def generationFiles : ChangedFiles where
  added := [
    "registry/acme/db/releases/v1.1.0/connector-packaging.json",
    "./registry/acme/db/releases/v1.0.0/connector-packaging.json",
    "registry/acme/db/releases/v1.0.0/connector-packaging.json"]
  modified := []
  deleted := []

/-- What the run comes to. -/
def generationOutcome : PublishOutcome where
  state := .committed
  connectors := 0
  overviews := 0
  updates := 0
  versions := 1
  skipped := [⟨⟨⟨"acme", "db"⟩, "v1.1.0"⟩, "v2"⟩]
  failed := []

/-- The artifacts of the one release that is handed over are collected. -/
theorem mixedReleases_artifacts : mixedReleases.services.FetchesSteadily ∧
    (publish mixedReleases generationFiles (.start [])).1 = .ok generationOutcome ∧
    ∃ artifacts request,
      (∀ journal, ((mixedReleases.collectArtifacts generationFiles).run journal).1 =
        .ok artifacts) ∧
      (publish mixedReleases generationFiles (.start [])).2.calls.filter Call.isPublish =
        [.publish request (.ok ())] ∧
      request.releases? = some (artifacts.map (·.release)) := by
  have hfetch : mixedReleases.services.FetchesSteadily := (stateless _).fetch
  obtain ⟨hoption, hany⟩ :
      (publish mixedReleases generationFiles (.start [])).1.toOption = some generationOutcome ∧
      (publish mixedReleases generationFiles (.start [])).2.calls.any Call.isPublish = true := by
    decide +kernel
  have hrun := Except.toOption_eq_some.1 hoption
  obtain ⟨artifacts, hcollect, -, ⟨request, hhanded, hreleases⟩ | ⟨hnone, -⟩⟩ :=
    publish_artifacts mixedReleases generationFiles [] hfetch hrun rfl
  · exact ⟨hfetch, hrun, artifacts, request, hcollect, hhanded, hreleases⟩
  · obtain ⟨call, hcall, hpublish⟩ := List.any_eq_true.1 hany
    exact absurd hpublish (List.filter_eq_nil_iff.1 hnone call hcall)

end

end ConnectorCatalog
