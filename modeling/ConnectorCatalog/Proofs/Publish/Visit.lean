import ConnectorCatalog.Proofs.ChangeSet
import ConnectorCatalog.Proofs.Publish.Builder
import ConnectorCatalog.Publish.Run

/-!
# A run visits its changes

What a run collects depends on what has come of each change alone: `BuildSite.visits` works through
changes and keeps a `Visit` for every one, and the collection follows from the list of visits
(`BuildSite.collect_eq`).

`VisitTrace` and `VisitsTrace` relate visits to what a run does for them (`yields_visits`).
-/

namespace ConnectorCatalog

open Run

/-- The rows that come of a change. -/
inductive Built where
  | connector (rows : NewConnectorRows)
  | update (update : OverviewUpdate)
  | release (outcome : ReleaseOutcome)

/-- A change that a run has tried to build the rows of. -/
structure Visit where
  change : Change
  result : Except PublishFault Built

namespace Visit

/-- The fault that gives the run up. -/
def fault? (visit : Visit) : Option PublishFault :=
  match visit.result with
  | .error fault =>
    if visit.change.release?.isSome && fault.isReleaseScoped then none else some fault
  | .ok _ => none

/-- The rows of a new connector. -/
def newConnector? (visit : Visit) : Option NewConnectorRows :=
  match visit.result with
  | .ok (.connector rows) => some rows
  | _ => none

/-- The update of an overview. -/
def update? (visit : Visit) : Option OverviewUpdate :=
  match visit.result with
  | .ok (.update update) => some update
  | _ => none

/-- The row of a release. -/
def version? (visit : Visit) : Option VersionRow :=
  match visit.result with
  | .ok (.release (.built row)) => some row
  | _ => none

/-- The release that is left out because of its generation. -/
def skipped? (visit : Visit) : Option SkippedRelease :=
  match visit.change.release?, visit.result with
  | some release, .ok (.release (.skipped generation)) => some ⟨release, generation⟩
  | _, _ => none

/-- The release that is left out because it could not be got hold of. -/
def failed? (visit : Visit) : Option FailedRelease :=
  match visit.change.release?, visit.result with
  | some release, .error fault => if fault.isReleaseScoped then some ⟨release, fault⟩ else none
  | _, _ => none

/-- What is reported of a release that is left out. -/
def events (visit : Visit) : List ProgressEvent :=
  (visit.skipped?.map fun s => .releaseSkipped s.release s.generation).toList ++
    (visit.failed?.map fun f => .releaseFailed f.release f.fault.message).toList

/-- Every fault that does not concern one release alone gives the run up. -/
theorem fault?_eq_some {visit : Visit} {fault : PublishFault} (h : visit.result = .error fault)
    (hscope : fault.isReleaseScoped = false) : visit.fault? = some fault := by
  simp [fault?, h, hscope]

end Visit

namespace Batch

/-- The rows of visits. -/
def ofVisits (visits : List Visit) : Batch where
  connectors := (visits.filterMap Visit.newConnector?).map (·.connector)
  overviews := (visits.filterMap Visit.newConnector?).map (·.overview)
  updates := visits.filterMap Visit.update?
  versions := visits.filterMap Visit.version?

theorem versions_ofVisits_cons (visit : Visit) (rest : List Visit) :
    (ofVisits (visit :: rest)).versions = visit.version?.toList ++ (ofVisits rest).versions := by
  cases h : visit.version? <;> simp [ofVisits, h]

end Batch

namespace Collection

/-- What visits come to. -/
def ofVisits (policy : ConflictPolicy) (visits : List Visit) : Collection where
  transaction := { Transaction.start policy with batch := .ofVisits visits }
  skipped := visits.filterMap Visit.skipped?
  failed := visits.filterMap Visit.failed?

/-- The collection with what has come of one more change. -/
def afterVisit (policy : ConflictPolicy) (visits : List Visit) (visit : Visit) :
    Except PublishFault Collection :=
  match visit.fault? with
  | some fault => .error fault
  | none => .ok (.ofVisits policy (visits ++ [visit]))

variable {policy : ConflictPolicy} {before : List Visit} {change : Change}

theorem afterVisit_newConnector (rows : NewConnectorRows) :
    afterVisit policy before ⟨change, .ok (.connector rows)⟩ =
      .ok ((ofVisits policy before).advance (·.addNewConnector rows)) := by
  simp [afterVisit, ofVisits, Batch.ofVisits, advance, Transaction.addNewConnector, Visit.fault?,
    Visit.newConnector?, Visit.update?, Visit.version?, Visit.skipped?, Visit.failed?]

theorem afterVisit_update (update : OverviewUpdate) :
    afterVisit policy before ⟨change, .ok (.update update)⟩ =
      .ok ((ofVisits policy before).advance (·.addUpdate update)) := by
  simp [afterVisit, ofVisits, Batch.ofVisits, advance, Transaction.addUpdate, Visit.fault?,
    Visit.newConnector?, Visit.update?, Visit.version?, Visit.skipped?, Visit.failed?]

theorem afterVisit_version (row : VersionRow) :
    afterVisit policy before ⟨change, .ok (.release (.built row))⟩ =
      .ok ((ofVisits policy before).advance (·.addVersion row)) := by
  simp [afterVisit, ofVisits, Batch.ofVisits, advance, Transaction.addVersion, Visit.fault?,
    Visit.newConnector?, Visit.update?, Visit.version?, Visit.skipped?, Visit.failed?]

theorem ofVisits_append_of_fault {visit : Visit} {fault : PublishFault}
    (h : visit.fault? = some fault) :
    ofVisits policy (before ++ [visit]) = ofVisits policy before := by
  obtain ⟨change, result⟩ := visit
  cases result with
  | ok built => simp [Visit.fault?] at h
  | error fault =>
    have hfailed : Visit.failed? ⟨change, .error fault⟩ = none := by
      cases hr : change.release? with
      | none => simp [Visit.failed?, hr]
      | some release =>
        simp only [Visit.fault?, hr, Option.isSome_some, Bool.true_and,
          Option.ite_none_left_eq_some] at h
        simp [Visit.failed?, hr, h.1]
    simp [ofVisits, Batch.ofVisits, Visit.newConnector?, Visit.update?, Visit.version?,
      Visit.skipped?, hfailed]

variable {release : ReleaseId} (hchange : change.release? = some release)

include hchange

theorem afterVisit_skipped (generation : String) :
    afterVisit policy before ⟨change, .ok (.release (.skipped generation))⟩ =
      .ok { ofVisits policy before with
        skipped := (ofVisits policy before).skipped ++ [⟨release, generation⟩] } := by
  simp [afterVisit, ofVisits, Batch.ofVisits, Visit.fault?, Visit.newConnector?, Visit.update?,
    Visit.version?, Visit.skipped?, Visit.failed?, hchange]

theorem afterVisit_failed {fault : PublishFault} (hfault : fault.isReleaseScoped = true) :
    afterVisit policy before ⟨change, .error fault⟩ =
      .ok { ofVisits policy before with
        failed := (ofVisits policy before).failed ++ [⟨release, fault⟩] } := by
  simp [afterVisit, ofVisits, Batch.ofVisits, Visit.fault?, Visit.newConnector?, Visit.update?,
    Visit.version?, Visit.skipped?, Visit.failed?, hchange, hfault]

end Collection

namespace BuildSite

variable {σ : Type} (site : BuildSite σ)

/-! ### Working through changes -/

/-- Builds the rows of a change. -/
def build (isNew : Bool) (change : Change) : Task σ Built := do
  match change.kind with
  | .metadata .added => return .connector (← site.newConnector change.connector change.path)
  | .metadata .modified => return .update (← site.modifiedConnector change.connector change.path)
  | .logo _ format => return .update (← site.logo change.connector change.path format)
  | .readme _ => return .update (← site.readme change.connector change.path)
  | .release version =>
    return .release (← site.release ⟨change.connector, version⟩ change.path isNew)

/-- Reports what has come of a change. -/
def settle (change : Change) (result : Except PublishFault Built) : Run σ Visit := do
  let visit : Visit := ⟨change, result⟩
  visit.events.forM Run.report
  return visit

/-- Works through a change. -/
def visit (isNew : Bool) (change : Change) : Run σ Visit := do
  Run.report (.building change.bucket change.connector change.version?)
  settle change (← (site.build isNew change).run)

/-- Works through changes up to the first that gives the run up. -/
def visits (set : ChangeSet) : List Change → Run σ (List Visit)
  | [] => return []
  | change :: rest => do
    let visit ← site.visit (set.isNewConnector change.connector) change
    if visit.fault?.isSome then return [visit] else return visit :: (← visits set rest)

variable {policy : ConflictPolicy} {before : List Visit}

theorem settle_rows {α : Type} {change : Change} (hchange : change.release? = none)
    (task : Task σ α) {built : α → Built} {c : Collection} {step : α → Transaction → Transaction}
    (hstep : ∀ a, Collection.afterVisit policy before ⟨change, .ok (built a)⟩ =
      .ok (c.advance (step a))) :
    (do return c.advance (step (← task)) : Task σ Collection).run = do
      let visit ← settle change (← (do return built (← task) : Task σ Built).run)
      return Collection.afterVisit policy before visit := by
  simp only [ExceptT.run_bind, bind_assoc]
  refine bind_congr fun result => ?_
  cases result with
  | ok a => simp [settle, Visit.events, Visit.skipped?, Visit.failed?, hchange, hstep]
  | error fault =>
    simp [settle, Visit.events, Visit.skipped?, Visit.failed?, Visit.fault?, hchange,
      Collection.afterVisit]

/-- A release that is left out is reported and taken down, unless its fault gives the run up. -/
theorem addRelease_eq {change : Change} {release : ReleaseId}
    (hchange : change.release? = some release) (task : Task σ ReleaseOutcome) :
    (do addRelease release (.ofVisits policy before) (← Task.attempt task)).run = do
      let visit ← settle change (← (do return Built.release (← task) : Task σ Built).run)
      return Collection.afterVisit policy before visit := by
  simp only [Task.attempt, Task.perform, ExceptT.run_bind, ExceptT.run_lift, bind_map_left,
    bind_assoc]
  refine bind_congr fun result => ?_
  rcases result with fault | row | generation
  · cases hfault : fault.isReleaseScoped with
    | true =>
      simp [addRelease, settle, Visit.events, Visit.skipped?, Visit.failed?, hfault, hchange,
        Collection.afterVisit_failed hchange hfault, Task.perform]
      rfl
    | false =>
      simp [addRelease, settle, Visit.events, Visit.skipped?, Visit.failed?, Visit.fault?, hfault,
        hchange, Collection.afterVisit]
  · simp [addRelease, settle, Visit.events, Visit.skipped?, Visit.failed?, hchange,
      Collection.afterVisit_version]
  · simp [addRelease, settle, Visit.events, Visit.skipped?, Visit.failed?, hchange,
      Collection.afterVisit_skipped hchange, Task.perform]
    rfl

theorem addChange_eq (isNew : Bool) (change : Change) :
    (site.addChange isNew (.ofVisits policy before) change).run = do
      return Collection.afterVisit policy before (← site.visit isNew change) := by
  obtain ⟨connector, kind, path⟩ := change
  unfold addChange visit build
  simp only [Task.perform, ExceptT.run_bind, ExceptT.run_lift, bind_assoc, bind_map_left]
  refine bind_congr fun _ => ?_
  cases kind with
  | metadata origin =>
    cases origin with
    | added => exact settle_rows rfl _ Collection.afterVisit_newConnector
    | modified => exact settle_rows rfl _ Collection.afterVisit_update
  | logo origin format => exact settle_rows rfl _ Collection.afterVisit_update
  | readme origin => exact settle_rows rfl _ Collection.afterVisit_update
  | release version => exact addRelease_eq rfl _

/-- **A run collects what has come of its visits.** -/
theorem collect_eq (set : ChangeSet) (changes : List Change) :
    site.collect set (.ofVisits policy before) changes = do
      let visits ← site.visits set changes
      return (visits.findSome? Visit.fault?, .ofVisits policy (before ++ visits)) := by
  induction changes generalizing before with
  | nil => simp [collect, visits]
  | cons change rest ih =>
    rw [collect, visits, addChange_eq]
    simp only [bind_assoc, pure_bind]
    refine bind_congr fun visit => ?_
    cases hfault : visit.fault? with
    | some fault =>
      simp [Collection.afterVisit, hfault, Collection.ofVisits_append_of_fault hfault]
    | none => simp [Collection.afterVisit, hfault, ih]

/-! ### What visits do -/

/-- Building the rows of a change. -/
inductive BuildTrace (isNew : Bool) (change : Change) :
    Except PublishFault Built → List Action → Prop where
  | newConnector {result : Except PublishFault NewConnectorRows} {actions : List Action} :
    change.kind = .metadata .added →
    site.NewConnectorTrace change.connector change.path result actions →
    BuildTrace isNew change (result.map .connector) actions
  | modifiedConnector {result : Except PublishFault OverviewUpdate} {actions : List Action} :
    change.kind = .metadata .modified →
    site.ModifiedConnectorTrace change.connector change.path result actions →
    BuildTrace isNew change (result.map .update) actions
  | logo {origin : Origin} {format : LogoFormat} {result : Except PublishFault OverviewUpdate}
    {actions : List Action} : change.kind = .logo origin format →
    site.LogoUpdateTrace change.connector change.path format result actions →
    BuildTrace isNew change (result.map .update) actions
  | readme {origin : Origin} {result : Except PublishFault OverviewUpdate} {actions : List Action} :
    change.kind = .readme origin →
    site.ReadmeTrace change.connector change.path result actions →
    BuildTrace isNew change (result.map .update) actions
  | release {release : ReleaseId} {result : Except PublishFault ReleaseOutcome}
    {actions : List Action} : change.release? = some release →
    site.ReleaseTrace release change.path isNew result actions →
    BuildTrace isNew change (result.map .release) actions

/-- Working through a change. -/
inductive VisitTrace (isNew : Bool) : Visit → List Action → Prop where
  | intro (visit : Visit) {actions : List Action} :
    site.BuildTrace isNew visit.change visit.result actions →
    VisitTrace isNew visit (.reported (.building visit.change.bucket visit.change.connector
      visit.change.version?) :: (actions ++ visit.events.map .reported))

/-- Working through changes up to the first that gives the run up. -/
inductive VisitsTrace (set : ChangeSet) : List Change → List Visit → List Action → Prop where
  | nil : VisitsTrace set [] [] []
  | fault (visit : Visit) (rest : List Change) {actions : List Action} : visit.fault?.isSome →
    site.VisitTrace (set.isNewConnector visit.change.connector) visit actions →
    VisitsTrace set (visit.change :: rest) [visit] actions
  | cons (visit : Visit) {rest : List Change} {visits : List Visit} {actions more : List Action} :
    visit.fault? = none →
    site.VisitTrace (set.isNewConnector visit.change.connector) visit actions →
    VisitsTrace set rest visits more →
    VisitsTrace set (visit.change :: rest) (visit :: visits) (actions ++ more)

theorem yields_build (isNew : Bool) (change : Change) :
    Yields site.services (site.BuildTrace isNew change) (site.build isNew change).run := by
  obtain ⟨connector, kind, path⟩ := change
  cases kind with
  | metadata origin =>
    cases origin with
    | added =>
      exact (site.yields_newConnector connector path).mapTask fun _ _ h => .newConnector rfl h
    | modified =>
      exact (site.yields_modifiedConnector connector path).mapTask fun _ _ h =>
        .modifiedConnector rfl h
  | logo origin format =>
    exact (site.yields_logo connector path format).mapTask fun _ _ h => .logo rfl h
  | readme origin => exact (site.yields_readme connector path).mapTask fun _ _ h => .readme rfl h
  | release version =>
    exact (site.yields_release ⟨connector, version⟩ path isNew).mapTask fun _ _ h => .release rfl h

theorem yields_visit (isNew : Bool) (change : Change) :
    Yields site.services (fun visit actions => visit.change = change ∧
      site.VisitTrace isNew visit actions) (site.visit isNew change) := by
  refine (Yields.report _).bind ?_
  rintro - _ rfl
  refine (site.yields_build isNew change).bind fun result actions hbuild => ?_
  refine (Yields.reports _).bind ?_
  rintro - _ rfl
  refine .pure ⟨rfl, ?_⟩
  simpa using .intro ⟨change, result⟩ hbuild

theorem yields_visits (set : ChangeSet) (changes : List Change) :
    Yields site.services (site.VisitsTrace set changes) (site.visits set changes) := by
  induction changes with
  | nil => exact .pure .nil
  | cons change rest ih =>
    refine (site.yields_visit _ change).bind ?_
    rintro visit actions ⟨rfl, hvisit⟩
    cases hfault : visit.fault? with
    | some fault =>
      refine .pure ?_
      simpa using .fault visit rest (by simp [hfault]) hvisit
    | none =>
      refine ih.bind fun visits more hvisits => .pure ?_
      simpa using .cons visit hfault hvisit hvisits

end BuildSite

end ConnectorCatalog
