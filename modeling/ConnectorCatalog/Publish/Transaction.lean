import ConnectorCatalog.Publish.Build

/-!
# Transactions

A transaction collects the rows of a run and submits them at once. When that fails, or when the run
is given up, the packages of all collected versions are deleted again, as far as that is possible.

* A transaction leaves the state `collecting` with the first `commit` or `abort`, once and for all.
* Its cleanup has gone over all versions exactly if it is rolled back.
-/

namespace ConnectorCatalog

/-- What a cleanup has come to. -/
structure CleanupReport where
  attempted : Nat
  deleted : Nat
  /-- The keys that could not be deleted, and why. -/
  failed : List (String × Causes)
deriving DecidableEq, Repr, Inhabited

/-- What has been committed. -/
structure CommitReport where
  rows : Nat
  versions : Nat
deriving DecidableEq, Repr

/-- The rows of a run on their way to the registry. -/
structure Transaction where
  state : TransactionState
  policy : ConflictPolicy
  batch : Batch
  cleanup : Option CleanupReport
deriving DecidableEq, Repr

/-- Nothing to clean up. -/
def CleanupReport.empty : CleanupReport := ⟨0, 0, []⟩

namespace Transaction

/-- A transaction without rows. -/
def start (policy : ConflictPolicy) : Transaction := ⟨.collecting, policy, .empty, none⟩

/-! ### Collecting -/

/-- The transaction with a new connector. -/
def addNewConnector (t : Transaction) (rows : NewConnectorRows) : Transaction :=
  { t with batch := { t.batch with
      connectors := t.batch.connectors ++ [rows.connector]
      overviews := t.batch.overviews ++ [rows.overview] } }

/-- The transaction with an update of an overview. -/
def addUpdate (t : Transaction) (update : OverviewUpdate) : Transaction :=
  { t with batch := { t.batch with updates := t.batch.updates ++ [update] } }

/-- The transaction with a version. -/
def addVersion (t : Transaction) (row : VersionRow) : Transaction :=
  { t with batch := { t.batch with versions := t.batch.versions ++ [row] } }

/-! ### Ending -/

variable {σ : Type} (services : Services σ)

/-- Deletes the packages of versions one after the other, whatever becomes of each. -/
def deletePackages : List VersionRow → Run σ CleanupReport
  | [] => return .empty
  | row :: rest => do
    let key := row.release.packageKey
    match ← services.runDelete key with
    | .ok () =>
      let report ← deletePackages rest
      return ⟨report.attempted + 1, report.deleted + 1, report.failed⟩
    | .error causes =>
      let report ← deletePackages rest
      return ⟨report.attempted + 1, report.deleted, (key, causes) :: report.failed⟩

/-- Undoes what the run has uploaded. -/
def rollBack (t : Transaction) : Run σ Transaction := do
  let report ← deletePackages services t.batch.versions
  return { t with state := .rolledBack, cleanup := some report }

/-- Submits all rows. Without rows the registry is not asked. -/
def commit (t : Transaction) : Run σ (Except PublishFault CommitReport × Transaction) := do
  let report : CommitReport := ⟨t.batch.rowCount, t.batch.versions.length⟩
  if t.state ≠ .collecting then return (.error (.submission 0 (.closed t.state)), t)
  else if t.batch.isEmpty then return (.ok report, { t with state := .committed })
  else
    match ← services.runPublish (.ofBatch t.batch t.policy) with
    | .ok () => return (.ok report, { t with state := .committed })
    | .error causes =>
      return (.error (.submission report.versions (.rejected causes)), ← t.rollBack services)

/-- Gives the run up. -/
def abort (t : Transaction) : Run σ (CleanupReport × Transaction) := do
  if t.state = .collecting then
    let t ← t.rollBack services
    return (t.cleanup.getD .empty, t)
  else return (t.cleanup.getD .empty, t)

end Transaction

end ConnectorCatalog
