import ConnectorCatalog.ChangeSet
import ConnectorCatalog.Publish.Transaction

/-!
# Publish runs

`publish` turns a diff into rows and submits them as one transaction.

* The changes are worked through in the order of reports. A release that cannot be got hold of is
  taken down and left out; every other fault gives the run up.
* An empty change set ends the run at once.
-/

namespace ConnectorCatalog

/-- A release that is not published because of its generation. -/
structure SkippedRelease where
  release : ReleaseId
  generation : String
deriving DecidableEq, Repr

/-- A release that is not published because it could not be got hold of. -/
structure FailedRelease where
  release : ReleaseId
  fault : PublishFault
deriving DecidableEq, Repr

/-- What a run has come to. -/
structure PublishOutcome where
  state : TransactionState
  connectors : Nat
  overviews : Nat
  updates : Nat
  versions : Nat
  skipped : List SkippedRelease
  failed : List FailedRelease
deriving DecidableEq, Repr

namespace PublishOutcome

/-- Whether everything has been published. -/
def isSuccess (o : PublishOutcome) : Bool := o.state = .committed && o.failed.isEmpty

/-- The outcome of a run without changes. -/
def nothing : PublishOutcome := ⟨.committed, 0, 0, 0, 0, [], []⟩

end PublishOutcome

/-- What a run has collected so far. -/
structure Collection where
  transaction : Transaction
  skipped : List SkippedRelease
  failed : List FailedRelease
deriving DecidableEq, Repr

namespace Collection

/-- Nothing is collected. -/
def start (policy : ConflictPolicy) : Collection := ⟨.start policy, [], []⟩

/-- The collection with another transaction. -/
def advance (c : Collection) (step : Transaction → Transaction) : Collection :=
  { c with transaction := step c.transaction }

/-- The outcome of a run that has ended in a state. -/
def outcome (c : Collection) (state : TransactionState) : PublishOutcome where
  state
  connectors := c.transaction.batch.connectors.length
  overviews := c.transaction.batch.overviews.length
  updates := c.transaction.batch.updates.length
  versions := c.transaction.batch.versions.length
  skipped := c.skipped
  failed := c.failed

end Collection

variable {σ : Type}

namespace BuildSite

variable (site : BuildSite σ)

/-- Takes down what has become of a release. -/
def addRelease (release : ReleaseId) (c : Collection) :
    Except PublishFault ReleaseOutcome → Task σ Collection
  | .ok (.built row) => return c.advance (·.addVersion row)
  | .ok (.skipped generation) => do
    Task.perform (Run.report (.releaseSkipped release generation))
    return { c with skipped := c.skipped ++ [⟨release, generation⟩] }
  | .error fault =>
    if fault.isReleaseScoped then do
      Task.perform (Run.report (.releaseFailed release fault.message))
      return { c with failed := c.failed ++ [⟨release, fault⟩] }
    else throw fault

/-- Builds the rows of a change. `isNew` says whether the run creates the connector. -/
def addChange (isNew : Bool) (c : Collection) (change : Change) : Task σ Collection := do
  Task.perform (Run.report (.building change.bucket change.connector change.version?))
  match change.kind with
  | .metadata .added =>
    let rows ← site.newConnector change.connector change.path
    return c.advance (·.addNewConnector rows)
  | .metadata .modified =>
    let update ← site.modifiedConnector change.connector change.path
    return c.advance (·.addUpdate update)
  | .logo _ format =>
    let update ← site.logo change.connector change.path format
    return c.advance (·.addUpdate update)
  | .readme _ =>
    let update ← site.readme change.connector change.path
    return c.advance (·.addUpdate update)
  | .release version =>
    let release : ReleaseId := ⟨change.connector, version⟩
    addRelease release c (← Task.attempt (site.release release change.path isNew))

/-- Builds the rows of changes one after the other, and says which fault ended that. The collection
holds what was built up to then. -/
def collect (set : ChangeSet) :
    Collection → List Change → Run σ (Option PublishFault × Collection)
  | c, [] => return (none, c)
  | c, change :: rest => do
    match ← (site.addChange (set.isNewConnector change.connector) c change).run with
    | .ok c => collect set c rest
    | .error fault => return (some fault, c)

end BuildSite

/-- Reports that uploads have been undone. -/
def reportCleanup (report : CleanupReport) : Run σ Unit :=
  Run.report (.rolledBack report.attempted report.deleted report.failed.length)

/-- Submits what has been collected. -/
def submit (services : Services σ) (c : Collection) : Run σ (Except PublishFault PublishOutcome) := do
  let batch := c.transaction.batch
  Run.report (.submitting batch.rowCount batch.versions.length)
  match ← c.transaction.commit services with
  | (.ok report, transaction) =>
    Run.report (.committed report.rows)
    return .ok (c.outcome transaction.state)
  | (.error fault, transaction) =>
    if let some report := transaction.cleanup then reportCleanup report
    return .error fault

/-- Publishes a change set. -/
def publishChanges (site : BuildSite σ) (set : ChangeSet) :
    Run σ (Except PublishFault PublishOutcome) := do
  Run.report (.classified set.changes.length set.releaseCount)
  if set.isEmpty then return .ok .nothing
  else
    match ← site.collect set (.start site.environment.policy) set.agenda with
    | (none, c) => submit site.services c
    | (some fault, c) =>
      let (report, _) ← c.transaction.abort site.services
      reportCleanup report
      return .error fault

/-- Publishes the changes of a diff. -/
def publish (site : BuildSite σ) (files : ChangedFiles) :
    Run σ (Except PublishFault PublishOutcome) :=
  match ChangeSet.ofFiles files with
  | .error fault => return .error (.classification fault)
  | .ok set => publishChanges site set

end ConnectorCatalog
