import ConnectorCatalog.Proofs.Publish.Conservation
import ConnectorCatalog.Proofs.Publish.Footprint
import ConnectorCatalog.Proofs.Publish.Transaction
import ConnectorCatalog.Proofs.Rounds

/-!
# What a run reports

A run reports what it does in the order in which it does it.  Building rows reports nothing by
itself, so what is reported of a change is that its rows are being built, and for a release that is
left out that it is (`Visit.progress`, `Tells`).  `Concludes` has a case for each way in which the
reports of a run can end.

**A run reports the changes that a dry run lists, in the same order** (`publish_reports`).
-/

namespace ConnectorCatalog

variable {σ : Type}

/-! ### The reports among actions -/

/-- The report that an action is. -/
def Action.event? : Action → Option ProgressEvent
  | .reported event => some event
  | _ => none

/-- The reports among actions. -/
def eventsOf (actions : List Action) : List ProgressEvent := actions.filterMap Action.event?

theorem Journal.progress_eq (journal : Journal σ) : journal.progress = eventsOf journal.log :=
  List.filterMap_congr fun action _ => by cases action <;> rfl

@[simp] theorem eventsOf_called (call : Call) (rest : List Action) :
    eventsOf (.called call :: rest) = eventsOf rest := rfl

@[simp] theorem eventsOf_reported (event : ProgressEvent) (rest : List Action) :
    eventsOf (.reported event :: rest) = event :: eventsOf rest := rfl

@[simp] theorem eventsOf_append (actions more : List Action) :
    eventsOf (actions ++ more) = eventsOf actions ++ eventsOf more :=
  List.filterMap_append

@[simp] theorem eventsOf_map_reported (events : List ProgressEvent) :
    eventsOf (events.map .reported) = events := by
  induction events with
  | nil => rfl
  | cons event rest ih => rw [List.map_cons, eventsOf_reported, ih]

theorem OpensOnly.eventsOf_eq_nil {paths : List String} {actions : List Action}
    (h : OpensOnly paths actions) : eventsOf actions = [] := by
  refine List.filterMap_eq_nil_iff.2 fun action haction => ?_
  obtain ⟨path, -, rfl⟩ | ⟨call, rfl⟩ := h action haction <;> rfl

/-! ### Changes -/

/-- The report that the rows of a change are being built. -/
def Change.event (c : Change) : ProgressEvent := .building c.bucket c.connector c.version?

/-- What can be reported of a change. -/
inductive Tells (c : Change) : List ProgressEvent → Prop where
  | built : Tells c [c.event]
  | skipped {release : ReleaseId} (generation : String) : c.release? = some release →
    Tells c [c.event, .releaseSkipped release generation]
  | failed {release : ReleaseId} (message : String) : c.release? = some release →
    Tells c [c.event, .releaseFailed release message]

/-- What is reported of a visit. -/
def Visit.progress (visit : Visit) : List ProgressEvent := visit.change.event :: visit.events

theorem Visit.tells (visit : Visit) : Tells visit.change visit.progress := by
  obtain ⟨change, result⟩ := visit
  rw [progress, events, skipped?, failed?]
  cases hrelease : change.release? with
  | none => exact .built
  | some release =>
    rcases result with fault | rows | update | row | generation
    -- A fault of the whole run is told at its end, not here.
    · cases hscope : fault.isReleaseScoped with
      | true => simpa [hscope] using .failed fault.message hrelease
      | false => simpa [hscope] using .built
    · exact .built
    · exact .built
    · exact .built
    · exact .skipped generation hrelease

namespace BuildSite

variable {site : BuildSite σ} {set : ChangeSet} {visits : List Visit} {actions : List Action}

theorem VisitTrace.eventsOf_eq {isNew : Bool} {visit : Visit}
    (h : site.VisitTrace isNew visit actions) (hplaced : visit.change.Placed) :
    eventsOf actions = visit.progress := by
  cases h with
  | intro hbuild =>
    rw [eventsOf_reported, eventsOf_append, eventsOf_map_reported,
      (hbuild.opensOnly hplaced).eventsOf_eq_nil]
    rfl

theorem VisitsTrace.eventsOf_eq {changes : List Change}
    (h : site.VisitsTrace set changes visits actions)
    (hplaced : ∀ change ∈ changes, change.Placed) :
    eventsOf actions = visits.flatMap Visit.progress := by
  induction h with
  | nil => rfl
  | fault visit rest _ hvisit =>
    rw [hvisit.eventsOf_eq (hplaced _ List.mem_cons_self), List.flatMap_singleton]
  | cons visit _ hvisit _ ih =>
    rw [eventsOf_append, hvisit.eventsOf_eq (hplaced _ List.mem_cons_self),
      ih fun c hc => hplaced c (List.mem_cons_of_mem _ hc), List.flatMap_cons]

/-- The visit that gives a run up is the last one. -/
theorem VisitsTrace.exists_last {changes : List Change}
    (h : site.VisitsTrace set changes visits actions) {fault : PublishFault}
    (hfault : visits.findSome? Visit.fault? = some fault) : ∃ earlier last,
      visits = earlier ++ [last] ∧ last.fault? = some fault ∧
        ∀ visit ∈ earlier, visit.fault? = none := by
  induction h with
  | nil => cases hfault
  | fault visit rest hvisit =>
    -- No visit comes after this one.
    obtain ⟨other, hother⟩ := Option.isSome_iff_exists.1 hvisit
    rw [List.findSome?_cons, hother] at hfault
    cases hfault
    exact ⟨[], visit, rfl, hother, by simp⟩
  | cons visit hnone _ _ ih =>
    rw [List.findSome?_cons, hnone] at hfault
    obtain ⟨earlier, last, rfl, hlast, hearlier⟩ := ih hfault
    exact ⟨visit :: earlier, last, rfl, hlast, List.forall_mem_cons.2 ⟨hnone, hearlier⟩⟩

end BuildSite

/-! ### Ends -/

/-- How the reports of a run end that has made some visits and comes to a result. -/
inductive Concludes (set : ChangeSet) (visits : List Visit) :
    Except PublishFault PublishOutcome → List ProgressEvent → Prop where
  | nothing : set.isEmpty → visits = [] → Concludes set visits (.ok .nothing) []
  /-- The last visit has given the run up, before the rest of the changes. -/
  | givenUp (fault : PublishFault) {earlier : List Visit} {last : Visit} {rest : List Change}
    {report : CleanupReport} : visits = earlier ++ [last] →
    set.agenda = visits.map (·.change) ++ rest → (∀ visit ∈ earlier, visit.fault? = none) →
    last.fault? = some fault → report.attempted = report.deleted + report.failed.length →
    Concludes set visits (.error fault) [report.event]
  | committed (outcome : PublishOutcome) : ¬set.isEmpty → visits.map (·.change) = set.agenda →
    (∀ visit ∈ visits, visit.fault? = none) → outcome.state = .committed →
    (Batch.ofVisits visits).rowCount =
      outcome.connectors + outcome.overviews + outcome.updates + outcome.versions →
    (Batch.ofVisits visits).versions.length = outcome.versions →
    Concludes set visits (.ok outcome)
      [(Batch.ofVisits visits).event, .committed (Batch.ofVisits visits).rowCount]
  | rejected (fault : PublishFault) {report : CleanupReport} : ¬set.isEmpty →
    visits.map (·.change) = set.agenda → (∀ visit ∈ visits, visit.fault? = none) →
    report.attempted = report.deleted + report.failed.length →
    Concludes set visits (.error fault) [(Batch.ofVisits visits).event, report.event]

theorem EndTrace.concludes {site : BuildSite σ} {policy : ConflictPolicy} {set : ChangeSet}
    {visits : List Visit} {result : Except PublishFault PublishOutcome}
    {actions ending : List Action} (h : EndTrace policy visits result ending)
    (hvisits : site.VisitsTrace set set.agenda visits actions) (hset : ¬set.isEmpty) :
    Concludes set visits result (eventsOf ending) := by
  have hall (hnone : visits.findSome? Visit.fault? = none) :
      ∀ visit ∈ visits, visit.fault? = none := List.findSome?_eq_none_iff.1 hnone
  cases h with
  | aborted fault hfault hdeletes =>
    obtain ⟨earlier, last, hsplit, hlast, hearlier⟩ := hvisits.exists_last hfault
    obtain ⟨rest, hrest⟩ := hvisits.changes_prefix
    rw [eventsOf_append, (hdeletes.opensOnly []).eventsOf_eq_nil]
    exact .givenUp fault hsplit hrest.symm hearlier hlast hdeletes.covers.split
  | vacant hnone _ =>
    exact .committed _ hset (hvisits.changes_eq hnone) (hall hnone) rfl rfl rfl
  | accepted hnone _ =>
    exact .committed _ hset (hvisits.changes_eq hnone) (hall hnone) rfl rfl rfl
  | rejected causes hnone _ hdeletes =>
    rw [eventsOf_reported, eventsOf_called, eventsOf_append,
      (hdeletes.opensOnly []).eventsOf_eq_nil]
    exact .rejected _ hset (hvisits.changes_eq hnone) (hall hnone) hdeletes.covers.split

theorem BuildSite.PublishTrace.reports {site : BuildSite σ} {files : ChangedFiles}
    {set : ChangeSet} {visits : List Visit} {result : Except PublishFault PublishOutcome}
    {actions : List Action} (h : site.PublishTrace files visits result actions)
    (hset : ChangeSet.ofFiles files = .ok set) : ∃ ending, Concludes set visits result ending ∧
      eventsOf actions = .classified set.changes.length set.releaseCount ::
        (visits.flatMap Visit.progress ++ ending) := by
  cases h with
  | refused fault hrefused =>
    rw [hset] at hrefused
    cases hrefused
  | nothing hset' hempty =>
    obtain rfl := Except.ok.inj (hset.symm.trans hset')
    exact ⟨[], .nothing hempty rfl, rfl⟩
  | @ended _ _ _ _ ending hset' hempty hvisits hend =>
    obtain rfl := Except.ok.inj (hset.symm.trans hset')
    refine ⟨eventsOf ending, hend.concludes hvisits hempty, ?_⟩
    rw [eventsOf_reported, eventsOf_append, hvisits.eventsOf_eq fun c hc =>
      ChangeSet.placed_of_ofFiles hset (set.agenda_sublist.subset hc)]

/-- **A run reports the changes that a dry run lists, in the same order.**  The agenda of a run
leaves the logos and the documentation of new connectors out of the changes of the set, and is what
is found by going through the set heading by heading.  A run reports first how many changes and
releases the set has, then the rows of each change that it visits, with a word at most on a release
that is left out, and then how it ends: not at all if there is nothing to do; with what was deleted
if the last visit has given the run up; or else, with all of the agenda visited, with the rows that
are submitted and whether they are committed or undone. -/
theorem publish_reports (site : BuildSite σ) (files : ChangedFiles) (world : σ) {set : ChangeSet}
    (h : ChangeSet.ofFiles files = .ok set) :
    let run := publish site files (.start world)
    let visits := (site.visitsOf files (.start world)).1
    set.agenda = set.rounds ∧ (∀ visit ∈ visits, Tells visit.change visit.progress) ∧
    ∃ ending, Concludes set visits run.1 ending ∧
      run.2.progress = .classified set.changes.length set.releaseCount ::
        (visits.flatMap Visit.progress ++ ending) := by
  refine ⟨ChangeSet.agenda_eq_rounds h, fun visit _ => visit.tells, ?_⟩
  obtain ⟨actions, hlog, -, htrace⟩ := site.publish_trace files (.start world)
  rw [Journal.progress_eq, hlog]
  exact htrace.reports h

/-- A diff that modifies the documentation of a connector and adds a release without address. -/
def lackingFiles : ChangedFiles where
  added := ["registry/acme/db/releases/v1.2.0/connector-packaging.json"]
  modified := ["registry/acme/db/README.md"]
  deleted := []

/-- The changes of the diff. -/
def lackingChanges : ChangeSet where
  changes := [⟨⟨"acme", "db"⟩, .readme .modified, "registry/acme/db/README.md"⟩,
    ⟨⟨"acme", "db"⟩, .release "v1.2.0",
      "registry/acme/db/releases/v1.2.0/connector-packaging.json"⟩]

/-- What a run reports of the diff once it is understood. -/
def lackingReports : List ProgressEvent :=
  [.building .modifiedReadme ⟨"acme", "db"⟩ none,
    .building .newVersion ⟨"acme", "db"⟩ (some "v1.2.0"),
    .releaseFailed ⟨⟨"acme", "db"⟩, "v1.2.0"⟩
      "acme/db @ v1.2.0: failed to resolve release (uri): no source URI declared",
    .submitting 1 0,
    .committed 1]

theorem lackingFiles_reports : ChangeSet.ofFiles lackingFiles = .ok lackingChanges ∧
    let run := publish mixedReleases lackingFiles (.start [])
    let visits := (mixedReleases.visitsOf lackingFiles (.start [])).1
    lackingChanges.agenda = lackingChanges.rounds ∧
    (∀ visit ∈ visits, Tells visit.change visit.progress) ∧
    ∃ ending, Concludes lackingChanges visits run.1 ending ∧
      visits.flatMap Visit.progress ++ ending = lackingReports := by
  have hset : ChangeSet.ofFiles lackingFiles = .ok lackingChanges :=
    Except.toOption_eq_some.1 (by decide +kernel)
  have hrun : (publish mixedReleases lackingFiles (.start [])).2.progress =
      .classified 2 1 :: lackingReports := by decide +kernel
  obtain ⟨hrounds, htells, ending, hends, hprogress⟩ :=
    publish_reports mixedReleases lackingFiles [] hset
  rw [hrun] at hprogress
  exact ⟨hset, hrounds, htells, ending, hends, (List.cons.inj hprogress).2.symm⟩

end ConnectorCatalog
