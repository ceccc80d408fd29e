import ConnectorCatalog.Classify
import ConnectorCatalog.Keyed

/-!
# Change sets

The changes of a diff with repetitions taken out, in the order of reports.

* `ChangeSet.aggregate` collects changes. A connector may be added once only; of several changes
  that ask for the same operation the last stays, so of two logos in one list the last counts.
* `ChangeSet.agenda` is what a publish run has to do: the logo and the documentation of a new
  connector belong to the connector's own rows.
-/

namespace ConnectorCatalog

/-- Changes in the order of `Change.compare`, each operation once. -/
structure ChangeSet where
  changes : List Change
deriving DecidableEq, Repr

namespace ChangeSet

/-- No change. -/
def empty : ChangeSet := ⟨[]⟩

/-- Whether the set creates a connector. -/
def isNewConnector (set : ChangeSet) (connector : Identity) : Bool :=
  set.changes.any fun c => c.bucket = .newConnector && c.connector = connector

/-- The set with one more change. -/
def insert (set : ChangeSet) (change : Change) : Except ClassifyFault ChangeSet :=
  if change.bucket = .newConnector ∧ set.isNewConnector change.connector then
    .error (.duplicateConnector change.path change.connector)
  else .ok ⟨Keyed.insert Change.compare change set.changes⟩

/-- The set of a list of changes, added one after the other. -/
def insertAll : ChangeSet → List Change → Except ClassifyFault ChangeSet
  | set, [] => .ok set
  | set, change :: rest =>
    match set.insert change with
    | .ok set => insertAll set rest
    | .error fault => .error fault

/-- The set of a list of changes. -/
def aggregate (changes : List Change) : Except ClassifyFault ChangeSet := insertAll empty changes

/-- The set of a diff. -/
def ofFiles (files : ChangedFiles) : Except ClassifyFault ChangeSet :=
  classifyAll files >>= aggregate

/-- Whether there is nothing to do. -/
def isEmpty (set : ChangeSet) : Bool := set.changes.isEmpty

/-- The changes under a heading. -/
def inBucket (set : ChangeSet) (bucket : Bucket) : List Change :=
  set.changes.filter (·.bucket = bucket)

/-- The number of releases. -/
def releaseCount (set : ChangeSet) : Nat := (set.inBucket .newVersion).length

/-- The releases of one connector, in the order of versions, with their packaging files. -/
def releasesOf (set : ChangeSet) (connector : Identity) : List (String × String) :=
  set.changes.filterMap fun c =>
    if c.connector = connector then c.version?.map (·, c.path) else none

/-- Whether the rows of a new connector carry a change. -/
def isFolded (set : ChangeSet) (change : Change) : Bool :=
  match change.kind with
  | .logo _ _ => set.isNewConnector change.connector
  | .readme _ => set.isNewConnector change.connector
  | _ => false

/-- The changes that a run builds rows for, in their order. -/
def agenda (set : ChangeSet) : List Change := set.changes.filter (!set.isFolded ·)

end ChangeSet

end ConnectorCatalog
