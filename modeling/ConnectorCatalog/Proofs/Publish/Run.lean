import ConnectorCatalog.Proofs.Publish.Visit

/-!
# What a publish run does

A publish run visits its changes and then ends in one of few ways, each of which is a case of
`EndTrace`: it is given up because of a fault, it has no rows to submit, or its rows are accepted
or rejected.  `BuildSite.publish_trace` relates the visits of a run (`BuildSite.visitsOf`) to what
the run comes to and to all that it does.
-/

namespace ConnectorCatalog

open Run

variable {σ : Type}

/-! ### Cleaning up -/

/-- Deleting the packages of versions. -/
inductive CleanupTrace : List VersionRow → CleanupReport → List Action → Prop where
  | nil : CleanupTrace [] .empty []
  | deleted (row : VersionRow) {rest : List VersionRow} {report : CleanupReport}
    {actions : List Action} : CleanupTrace rest report actions →
    CleanupTrace (row :: rest) ⟨report.attempted + 1, report.deleted + 1, report.failed⟩
      (.called (.delete row.release.packageKey (.ok ())) :: actions)
  | kept (row : VersionRow) (causes : Causes) {rest : List VersionRow} {report : CleanupReport}
    {actions : List Action} : CleanupTrace rest report actions →
    CleanupTrace (row :: rest)
      ⟨report.attempted + 1, report.deleted, (row.release.packageKey, causes) :: report.failed⟩
      (.called (.delete row.release.packageKey (.error causes)) :: actions)

theorem Transaction.yields_deletePackages (services : Services σ) (rows : List VersionRow) :
    Yields services (CleanupTrace rows) (deletePackages services rows) := by
  induction rows with
  | nil => exact .pure .nil
  | cons row rest ih =>
    refine (Yields.delete _).bind ?_
    rintro result _ rfl
    cases result with
    | ok _ => exact ih.bind fun report actions h => .pure (by simpa using .deleted row h)
    | error causes =>
      exact ih.bind fun report actions h => .pure (by simpa using .kept row causes h)

/-! ### Ending a transaction -/

namespace Transaction

/-- Giving up what a transaction has collected. -/
inductive RollBackTrace (t : Transaction) : Transaction → List Action → Prop where
  | intro {report : CleanupReport} {deletes : List Action} :
    CleanupTrace t.batch.versions report deletes →
    RollBackTrace t { t with state := .rolledBack, cleanup := some report } deletes

/-- Submitting what an open transaction has collected. -/
inductive CommitTrace (t : Transaction) :
    Except PublishFault CommitReport × Transaction → List Action → Prop where
  | vacant : t.batch.isEmpty →
    CommitTrace t (.ok ⟨t.batch.rowCount, t.batch.versions.length⟩, { t with state := .committed })
      []
  | accepted : ¬t.batch.isEmpty →
    CommitTrace t (.ok ⟨t.batch.rowCount, t.batch.versions.length⟩, { t with state := .committed })
      [.called (.publish (.ofBatch t.batch t.policy) (.ok ()))]
  | rejected (causes : Causes) {t' : Transaction} {deletes : List Action} : ¬t.batch.isEmpty →
    RollBackTrace t t' deletes →
    CommitTrace t (.error (.submission t.batch.versions.length (.rejected causes)), t')
      (.called (.publish (.ofBatch t.batch t.policy) (.error causes)) :: deletes)

variable (services : Services σ) {t : Transaction}

theorem yields_rollBack : Yields services (RollBackTrace t) (t.rollBack services) :=
  (yields_deletePackages services t.batch.versions).bind fun _ _ h =>
    .pure (by simpa using .intro h)

theorem yields_commit (h : t.state = .collecting) :
    Yields services (CommitTrace t) (t.commit services) := by
  unfold commit
  rw [if_neg (by simp [h])]
  by_cases hempty : t.batch.isEmpty
  · rw [if_pos hempty]
    exact .pure (.vacant hempty)
  · rw [if_neg hempty]
    refine (Yields.publish _).bind ?_
    rintro result _ rfl
    cases result with
    | ok _ => exact .pure (.accepted hempty)
    | error causes =>
      exact (yields_rollBack services).bind fun _ _ hroll =>
        .pure (by simpa using .rejected causes hempty hroll)

theorem yields_abort (h : t.state = .collecting) :
    Yields services (fun result actions => RollBackTrace t result.2 actions ∧
      result.2.cleanup = some result.1) (t.abort services) := by
  unfold abort
  rw [if_pos h]
  refine (yields_rollBack services).bind fun t' deletes hroll => .pure ?_
  cases hroll with
  | intro hclean => exact ⟨by simpa using .intro hclean, rfl⟩

end Transaction

/-! ### Ending a run -/

/-- What is reported of a cleanup. -/
def CleanupReport.event (report : CleanupReport) : ProgressEvent :=
  .rolledBack report.attempted report.deleted report.failed.length

/-- What is reported before rows are submitted. -/
def Batch.event (batch : Batch) : ProgressEvent := .submitting batch.rowCount batch.versions.length

/-- The end of a run with visits behind it. -/
inductive EndTrace (policy : ConflictPolicy) (visits : List Visit) :
    Except PublishFault PublishOutcome → List Action → Prop where
  | aborted (fault : PublishFault) {report : CleanupReport} {deletes : List Action} :
    visits.findSome? Visit.fault? = some fault →
    CleanupTrace (Batch.ofVisits visits).versions report deletes →
    EndTrace policy visits (.error fault) (deletes ++ [.reported report.event])
  | vacant : visits.findSome? Visit.fault? = none → (Batch.ofVisits visits).isEmpty →
    EndTrace policy visits (.ok ((Collection.ofVisits policy visits).outcome .committed))
      [.reported (Batch.ofVisits visits).event,
        .reported (.committed (Batch.ofVisits visits).rowCount)]
  | accepted : visits.findSome? Visit.fault? = none → ¬(Batch.ofVisits visits).isEmpty →
    EndTrace policy visits (.ok ((Collection.ofVisits policy visits).outcome .committed))
      [.reported (Batch.ofVisits visits).event,
        .called (.publish (.ofBatch (.ofVisits visits) policy) (.ok ())),
        .reported (.committed (Batch.ofVisits visits).rowCount)]
  | rejected (causes : Causes) {report : CleanupReport} {deletes : List Action} :
    visits.findSome? Visit.fault? = none → ¬(Batch.ofVisits visits).isEmpty →
    CleanupTrace (Batch.ofVisits visits).versions report deletes →
    EndTrace policy visits
      (.error (.submission (Batch.ofVisits visits).versions.length (.rejected causes)))
      (.reported (Batch.ofVisits visits).event ::
        .called (.publish (.ofBatch (.ofVisits visits) policy) (.error causes)) ::
        (deletes ++ [.reported report.event]))

variable {policy : ConflictPolicy} {visits : List Visit}

theorem yields_submit (services : Services σ) (h : visits.findSome? Visit.fault? = none) :
    Yields services (EndTrace policy visits) (submit services (.ofVisits policy visits)) := by
  refine (Yields.report _).bind ?_
  rintro - _ rfl
  refine (Transaction.yields_commit services rfl).bind ?_
  rintro result actions hcommit
  cases hcommit with
  | vacant hempty =>
    refine (Yields.report _).bind ?_
    rintro - _ rfl
    exact .pure (.vacant h hempty)
  | accepted hempty =>
    refine (Yields.report _).bind ?_
    rintro - _ rfl
    exact .pure (.accepted h hempty)
  | rejected causes hempty hroll =>
    cases hroll with
    | intro hclean =>
      refine (Yields.report _).bind ?_
      rintro - _ rfl
      exact .pure (by simpa using .rejected causes h hempty hclean)

namespace BuildSite

variable (site : BuildSite σ)

/-- Ends a run with visits behind it. -/
def finish (visits : List Visit) : Run σ (Except PublishFault PublishOutcome) :=
  let c := Collection.ofVisits site.environment.policy visits
  match visits.findSome? Visit.fault? with
  | none => submit site.services c
  | some fault => do
    let (report, _) ← c.transaction.abort site.services
    reportCleanup report
    return .error fault

theorem yields_finish (visits : List Visit) :
    Yields site.services (EndTrace site.environment.policy visits) (site.finish visits) := by
  unfold finish
  cases hfault : visits.findSome? Visit.fault? with
  | none => exact yields_submit site.services hfault
  | some fault =>
    refine (Transaction.yields_abort site.services rfl).bind ?_
    rintro ⟨report, t⟩ actions ⟨hroll, hreport⟩
    cases hroll with
    | intro hclean =>
      obtain rfl := Option.some.inj hreport
      refine (Yields.report _).bind ?_
      rintro - _ rfl
      exact .pure (by simpa using .aborted fault hfault hclean)

/-! ### Whole runs -/

/-- The visits of a run. -/
def visitsOf (files : ChangedFiles) : Run σ (List Visit) :=
  match ChangeSet.ofFiles files with
  | .error _ => return []
  | .ok set => do
    Run.report (.classified set.changes.length set.releaseCount)
    site.visits set set.agenda

/-- Publishing a diff. -/
inductive PublishTrace (files : ChangedFiles) :
    List Visit → Except PublishFault PublishOutcome → List Action → Prop where
  | refused (fault : ClassifyFault) : ChangeSet.ofFiles files = .error fault →
    PublishTrace files [] (.error (.classification fault)) []
  | nothing {set : ChangeSet} : ChangeSet.ofFiles files = .ok set → set.isEmpty →
    PublishTrace files [] (.ok .nothing)
      [.reported (.classified set.changes.length set.releaseCount)]
  | ended {set : ChangeSet} {visits : List Visit} {result : Except PublishFault PublishOutcome}
    {actions ending : List Action} : ChangeSet.ofFiles files = .ok set → ¬set.isEmpty →
    site.VisitsTrace set set.agenda visits actions →
    EndTrace site.environment.policy visits result ending →
    PublishTrace files visits result
      (.reported (.classified set.changes.length set.releaseCount) :: (actions ++ ending))

/-- A run visits its changes and then ends by what has come of them. -/
theorem publishChanges_eq (set : ChangeSet) : publishChanges site set = (do
    Run.report (.classified set.changes.length set.releaseCount)
    if set.isEmpty then return .ok .nothing
    else site.finish (← site.visits set set.agenda)) := by
  have hstart : Collection.start site.environment.policy =
      .ofVisits site.environment.policy [] := rfl
  simp only [publishChanges, hstart, collect_eq, bind_assoc, pure_bind]
  refine bind_congr fun _ => ?_
  split
  · rfl
  · refine bind_congr fun visits => ?_
    rw [finish, List.nil_append]
    cases visits.findSome? Visit.fault? <;> rfl

theorem publishChanges_trace {files : ChangedFiles} {set : ChangeSet}
    (hset : ChangeSet.ofFiles files = .ok set) (hempty : ¬set.isEmpty) (journal : Journal σ) :
    ∃ actions, (publishChanges site set journal).2.log = journal.log ++ actions ∧
      site.services.Leads journal.world actions (publishChanges site set journal).2.world ∧
      site.PublishTrace files (site.visitsOf files journal).1
        (publishChanges site set journal).1 actions := by
  -- The end of the run depends on the very visits that the run makes from this journal.
  let classified := ProgressEvent.classified set.changes.length set.releaseCount
  let start : Journal σ := ⟨journal.world, journal.log ++ [.reported classified]⟩
  let visited := site.visits set set.agenda start
  have hrun : publishChanges site set journal = site.finish visited.1 visited.2 := by
    rw [publishChanges_eq, if_neg hempty]
    rfl
  have hof : (site.visitsOf files journal).1 = visited.1 := by
    rw [visitsOf, hset]
    rfl
  obtain ⟨actions, hlog, hleads, hvisits⟩ := site.yields_visits set set.agenda start
  obtain ⟨ending, hlog', hleads', hend⟩ := site.yields_finish visited.1 visited.2
  rw [hrun, hof]
  refine ⟨_, ?_, ?_, .ended hset hempty hvisits hend⟩
  · rw [hlog', hlog]
    simp [start, classified]
  · exact .reported (hleads.append hleads')

/-- **What a run comes to and all that it does follow from its visits.** -/
theorem publish_trace (files : ChangedFiles) (journal : Journal σ) : ∃ actions,
    (publish site files journal).2.log = journal.log ++ actions ∧
    site.services.Leads journal.world actions (publish site files journal).2.world ∧
    site.PublishTrace files (site.visitsOf files journal).1 (publish site files journal).1
      actions := by
  unfold publish
  cases hset : ChangeSet.ofFiles files with
  | error fault =>
    have hof : (site.visitsOf files journal).1 = [] := by
      rw [visitsOf, hset]
      rfl
    rw [hof]
    exact ⟨[], (List.append_nil _).symm, .nil, .refused fault hset⟩
  | ok set =>
    by_cases hempty : set.isEmpty
    · have hof : (site.visitsOf files journal).1 = [] := by
        have hagenda : set.agenda = [] := by
          rw [ChangeSet.agenda, List.isEmpty_iff.1 hempty, List.filter_nil]
        simp only [visitsOf, hset, hagenda]
        rfl
      simp only [publishChanges_eq, if_pos hempty]
      rw [hof]
      exact ⟨_, rfl, .reported .nil, .nothing hset hempty⟩
    · exact site.publishChanges_trace hset hempty journal

end BuildSite

end ConnectorCatalog
