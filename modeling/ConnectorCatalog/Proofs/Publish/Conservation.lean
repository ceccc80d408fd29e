import ConnectorCatalog.Proofs.Memory
import ConnectorCatalog.Proofs.Publish.Ledger

/-!
# A run accounts for its changes

A run that is not given up comes to something for each of its changes (`Visit.Settled`), and to one
thing only: each release is submitted, skipped or has failed (`perm_releases`).
`PublishOutcome.Accounts` says how the numbers and lists of an outcome follow from the change set;
**what a run comes to accounts for all changes of its diff, and for what it has handed over**
(`publish_conserves`).
-/

namespace ConnectorCatalog

open Keyed

variable {σ : Type}

/-! ### What is to be accounted for -/

/-- Whether a change asks for the update of an overview. -/
def Change.isUpdate (c : Change) : Bool := c.bucket ≠ .newConnector && c.bucket ≠ .newVersion

theorem Change.isUpdate_iff {c : Change} :
    c.isUpdate = true ↔ c.bucket ≠ .newConnector ∧ c.bucket ≠ .newVersion := by
  simp [isUpdate]

namespace ChangeSet

variable {set : ChangeSet} {files : ChangedFiles}

/-- The releases of a change set, in the order of reports. -/
def releases (set : ChangeSet) : List ReleaseId := set.changes.filterMap Change.release?

/-- The logos and the documentation that are added or modified. -/
def pages (set : ChangeSet) : List Change :=
  set.inBucket .newLogo ++ set.inBucket .modifiedLogo ++
    (set.inBucket .newReadme ++ set.inBucket .modifiedReadme)

theorem releases_sorted (h : ofFiles files = .ok set) : Sorted ReleaseId.compare set.releases :=
  Change.releases_sorted (sorted_of_ofFiles h)

theorem isFolded_eq (set : ChangeSet) (c : Change) : set.isFolded c =
    (c.isUpdate && c.bucket ≠ .modifiedConnector && set.isNewConnector c.connector) := by
  obtain ⟨connector, kind, path⟩ := c
  cases kind with
  | metadata origin => cases origin <;> rfl
  | logo origin format => cases origin <;> rfl
  | readme origin => cases origin <;> rfl
  | release version => rfl

theorem releases_agenda (set : ChangeSet) :
    set.agenda.filterMap Change.release? = set.releases := by
  refine filterMap_filter_of_none fun c _ hc => ?_
  rw [Bool.not_eq_false', isFolded_eq, Change.isUpdate] at hc
  rw [← Option.not_isSome_iff_eq_none, Change.isSome_release?]
  simp_all

theorem countP_newConnector_agenda (set : ChangeSet) :
    set.agenda.countP (·.bucket = .newConnector) = (set.inBucket .newConnector).length := by
  rw [agenda, List.countP_filter, inBucket, ← List.countP_eq_length_filter]
  refine List.countP_congr fun c _ => ?_
  rw [isFolded_eq, Change.isUpdate]
  simp +contextual

/-- Of the updates, a run has those to do that no new connector takes in. -/
theorem countP_isUpdate_agenda (set : ChangeSet) : set.agenda.countP Change.isUpdate =
    (set.inBucket .modifiedConnector).length +
      (set.pages.filter (!set.isNewConnector ·.connector)).length := by
  rw [agenda, List.countP_filter]
  simp only [pages, inBucket, List.filter_append, List.filter_filter, List.length_append,
    ← List.countP_eq_length_filter]
  -- The predicates on both sides are read off the bucket, one change after the other.
  have hfolded : set.isFolded = fun c =>
      c.isUpdate && c.bucket ≠ .modifiedConnector && set.isNewConnector c.connector :=
    funext (isFolded_eq set)
  rw [hfolded]
  generalize set.isNewConnector = isNew
  induction set.changes with
  | nil => rfl
  | cons c rest ih =>
    simp only [List.countP_cons, ih]
    cases hbucket : c.bucket <;> cases isNew c.connector <;>
      simp [Change.isUpdate, hbucket] <;> omega

end ChangeSet

/-! ### What changes come to -/

namespace Visit

/-- A visit that does not give the run up: what has come of the change is what it asks for. -/
inductive Settled : Visit → Prop where
  | connector {change : Change} (rows : NewConnectorRows) : change.bucket = .newConnector →
    Settled ⟨change, .ok (.connector rows)⟩
  | update {change : Change} (update : OverviewUpdate) : change.isUpdate = true →
    Settled ⟨change, .ok (.update update)⟩
  | built {change : Change} (row : VersionRow) : change.release? = some row.release →
    Settled ⟨change, .ok (.release (.built row))⟩
  | skipped {change : Change} (release : ReleaseId) (generation : String) :
    change.release? = some release → Settled ⟨change, .ok (.release (.skipped generation))⟩
  | failed {change : Change} (release : ReleaseId) {fault : PublishFault} :
    change.release? = some release → fault.isReleaseScoped = true → Settled ⟨change, .error fault⟩

namespace Settled

variable {visit : Visit} {visits : List Visit}

theorem isSome_newConnector? (h : visit.Settled) :
    visit.newConnector?.isSome = decide (visit.change.bucket = .newConnector) := by
  cases h with
  | connector rows hbucket => simp [newConnector?, hbucket]
  | update update hupdate =>
    simp [newConnector?, (Change.isUpdate_iff.1 hupdate).1]
  | built row hrelease => simp [newConnector?, Change.bucket_of_release? hrelease]
  | skipped release generation hrelease =>
    simp [newConnector?, Change.bucket_of_release? hrelease]
  | failed release hrelease => simp [newConnector?, Change.bucket_of_release? hrelease]

theorem isSome_update? (h : visit.Settled) : visit.update?.isSome = visit.change.isUpdate := by
  cases h with
  | connector rows hbucket => simp [update?, Change.isUpdate, hbucket]
  | update update hupdate => simp [update?, hupdate]
  | built row hrelease => simp [update?, Change.isUpdate, Change.bucket_of_release? hrelease]
  | skipped release generation hrelease =>
    simp [update?, Change.isUpdate, Change.bucket_of_release? hrelease]
  | failed release hrelease =>
    simp [update?, Change.isUpdate, Change.bucket_of_release? hrelease]

theorem release?_of_version? (h : visit.Settled) {row : VersionRow}
    (hrow : visit.version? = some row) : visit.change.release? = some row.release := by
  rw [version?_eq_some] at hrow
  cases h <;> cases hrow
  assumption

/-- Every release is submitted, skipped or has failed, and no other is. -/
theorem perm_releases (h : ∀ visit ∈ visits, visit.Settled) :
    ((visits.filterMap version?).map (·.release) ++
      ((visits.filterMap skipped?).map (·.release) ++
        (visits.filterMap failed?).map (·.release))).Perm
      ((visits.map (·.change)).filterMap Change.release?) := by
  induction visits with
  | nil => exact .nil
  | cons visit rest ih =>
    obtain ⟨hvisit, hrest⟩ := List.forall_mem_cons.1 h
    have ih := ih hrest
    cases hvisit with
    | connector rows hbucket =>
      have hrelease := Change.release?_eq_none fun h => nomatch hbucket.symm.trans h
      simpa [List.filterMap_cons, version?, skipped?, failed?, hrelease] using ih
    | update update hupdate =>
      have hrelease := Change.release?_eq_none (Change.isUpdate_iff.1 hupdate).2
      simpa [List.filterMap_cons, version?, skipped?, failed?, hrelease] using ih
    | built row hrelease =>
      simpa [List.filterMap_cons, version?, skipped?, failed?, hrelease] using ih
    | skipped release generation hrelease =>
      simpa [List.filterMap_cons, version?, skipped?, failed?, hrelease] using
        List.perm_middle.trans (ih.cons release)
    | failed release hrelease hscope =>
      simpa [List.filterMap_cons, version?, skipped?, failed?, hrelease, hscope] using
        (List.perm_middle.append_left _).trans (List.perm_middle.trans (ih.cons release))

theorem length_newConnector? (h : ∀ visit ∈ visits, visit.Settled) :
    (visits.filterMap newConnector?).length =
      (visits.map (·.change)).countP (·.bucket = .newConnector) := by
  rw [List.length_filterMap_eq_countP, List.countP_map]
  refine List.countP_congr fun visit hvisit => ?_
  rw [(h visit hvisit).isSome_newConnector?]
  rfl

theorem length_update? (h : ∀ visit ∈ visits, visit.Settled) :
    (visits.filterMap update?).length = (visits.map (·.change)).countP Change.isUpdate := by
  rw [List.length_filterMap_eq_countP, List.countP_map]
  refine List.countP_congr fun visit hvisit => ?_
  rw [(h visit hvisit).isSome_update?]
  rfl

end Settled

end Visit

namespace BuildSite

variable {site : BuildSite σ} {isNew : Bool} {actions : List Action}

theorem BuildTrace.of_ok_update {change : Change} {update : OverviewUpdate}
    (h : site.BuildTrace isNew change (.ok (.update update)) actions) : change.isUpdate = true := by
  obtain ⟨connector, kind, path⟩ := change
  generalize hres : (.ok (.update update) : Except PublishFault Built) = result at h
  cases h with
  | modifiedConnector hkind =>
    cases hkind
    rfl
  | @logo origin _ _ _ hkind =>
    cases hkind
    cases origin <;> rfl
  | @readme origin _ _ hkind =>
    cases hkind
    cases origin <;> rfl
  | newConnector =>
    obtain ⟨_, -, hout⟩ := Except.map_eq_ok.1 hres.symm
    cases hout
  | release =>
    obtain ⟨_, -, hout⟩ := Except.map_eq_ok.1 hres.symm
    cases hout

theorem VisitTrace.settled {visit : Visit} (h : site.VisitTrace isNew visit actions)
    (hfault : visit.fault? = none) : visit.Settled := by
  obtain ⟨change, result⟩ := visit
  obtain ⟨hbuild⟩ := id h
  cases result with
  | error fault =>
    simp only [Visit.fault?, ite_eq_left_iff, reduceCtorEq, imp_false, Decidable.not_not,
      Bool.and_eq_true] at hfault
    obtain ⟨release, hrelease⟩ := Option.isSome_iff_exists.1 hfault.1
    exact .failed release hrelease hfault.2
  | ok built =>
    cases built with
    | connector rows =>
      exact .connector rows (Change.bucket_eq_newConnector.2 hbuild.of_ok_connector.1)
    | update update => exact .update update hbuild.of_ok_update
    | release outcome =>
      cases outcome with
      | built row => exact .built row (h.version rfl).1
      | skipped generation =>
        obtain ⟨release, hrelease, -⟩ := hbuild.of_ok_release
        exact .skipped release generation hrelease

/-- Without a fault that gives the run up, every change comes to what it asks for. -/
theorem VisitsTrace.settled {set : ChangeSet} {changes : List Change} {visits : List Visit}
    (h : site.VisitsTrace set changes visits actions)
    (hfault : visits.findSome? Visit.fault? = none) : ∀ visit ∈ visits, visit.Settled := by
  intro visit hmem
  obtain ⟨visiting, -, hvisit⟩ := h.of_mem hmem
  exact hvisit.settled (List.findSome?_eq_none_iff.1 hfault visit hmem)

end BuildSite

/-! ### Accounts -/

/-- An outcome that accounts for all changes of a set, with the rows of a batch. -/
structure PublishOutcome.Accounts (o : PublishOutcome) (set : ChangeSet) (batch : Batch) :
    Prop where
  committed : o.state = .committed
  /-- Every release of the set is submitted, skipped or has failed. -/
  releases : (batch.versions.map (·.release) ++
    (o.skipped.map (·.release) ++ o.failed.map (·.release))).Perm set.releases
  /-- No release is two of these, or one of these twice. -/
  nodup : (batch.versions.map (·.release) ++
    (o.skipped.map (·.release) ++ o.failed.map (·.release))).Nodup
  submitted_sorted : Sorted ReleaseId.compare (batch.versions.map (·.release))
  skipped_sorted : Sorted ReleaseId.compare (o.skipped.map (·.release))
  failed_sorted : Sorted ReleaseId.compare (o.failed.map (·.release))
  connectors : o.connectors = (set.inBucket .newConnector).length
  overviews : o.overviews = (set.inBucket .newConnector).length
  /-- What belongs to a new connector is in the connector's own rows. -/
  updates : o.updates = (set.inBucket .modifiedConnector).length +
    (set.pages.filter (!set.isNewConnector ·.connector)).length
  versions : o.versions = batch.versions.length

/-- The number of rows that a request has under a name. -/
def PublishRequest.rowCount? (request : PublishRequest) (name : String) : Option Nat :=
  match request.inputs.member? name with
  | some (.arr rows) => some rows.length
  | _ => none

/-- A request with as many rows of each kind as an outcome says. -/
structure PublishOutcome.Submits (o : PublishOutcome) (request : PublishRequest) : Prop where
  connectors : request.rowCount? "connectorInserts" = some o.connectors
  overviews : request.rowCount? "overviewInserts" = some o.overviews
  updates : request.rowCount? "overviewUpdates" = some o.updates
  versions : request.rowCount? "versionInserts" = some o.versions

theorem Collection.submits (policy : ConflictPolicy) (visits : List Visit) :
    ((ofVisits policy visits).outcome .committed).Submits
      (.ofBatch (.ofVisits visits) policy) where
  connectors := congrArg some (List.length_map _)
  overviews := congrArg some (List.length_map _)
  updates := congrArg some (List.length_map _)
  versions := congrArg some (List.length_map _)

/-- Visits to all that a run has to do account for the change set. -/
theorem Collection.accounts {set : ChangeSet} {files : ChangedFiles}
    (hset : ChangeSet.ofFiles files = .ok set) {visits : List Visit}
    (hchanges : visits.map (·.change) = set.agenda) (hsettled : ∀ visit ∈ visits, visit.Settled)
    (policy : ConflictPolicy) :
    ((ofVisits policy visits).outcome .committed).Accounts set (.ofVisits visits) := by
  have hreleases : visits.filterMap (Change.release? ∘ Visit.change) = set.releases := by
    rw [← List.filterMap_map, hchanges, set.releases_agenda]
  have hperm := Visit.Settled.perm_releases hsettled
  rw [hchanges, set.releases_agenda] at hperm
  -- Each list goes through the visits in their order.
  have hsorted {β : Type} {f : Visit → Option β} {e : β → ReleaseId}
      (h : ∀ visit ∈ visits, ∀ b, f visit = some b → visit.change.release? = some (e b)) :
      Sorted ReleaseId.compare ((visits.filterMap f).map e) :=
    (ChangeSet.releases_sorted hset).sublist (hreleases ▸ map_filterMap_sublist h)
  have hconnectors := Visit.Settled.length_newConnector? hsettled
  rw [hchanges, set.countP_newConnector_agenda] at hconnectors
  have hupdates := Visit.Settled.length_update? hsettled
  rw [hchanges, set.countP_isUpdate_agenda] at hupdates
  exact {
    committed := rfl
    releases := hperm
    nodup := hperm.nodup_iff.2 (Change.releases_nodup (ChangeSet.sorted_of_ofFiles hset))
    submitted_sorted := hsorted fun visit hvisit row hrow =>
      (hsettled visit hvisit).release?_of_version? hrow
    skipped_sorted := hsorted fun _ _ _ => Visit.release?_of_skipped?
    failed_sorted := hsorted fun _ _ _ => Visit.release?_of_failed?
    connectors := (List.length_map _).trans hconnectors
    overviews := (List.length_map _).trans hconnectors
    updates := hupdates
    versions := rfl }

theorem PublishOutcome.nothing_accounts {set : ChangeSet} (h : set.isEmpty = true) :
    nothing.Accounts set .empty := by
  obtain ⟨changes⟩ := set
  obtain rfl := List.isEmpty_iff.1 h
  exact ⟨rfl, .nil, .nil, .nil, .nil, .nil, rfl, rfl, rfl, rfl⟩

/-- **A run accounts for the changes of its diff.**  If a run succeeds, whatever the services
answer, then each release of the change set is submitted, skipped or has failed, and only one of
these; each of the three lists is in the order of connectors and versions.  The run counts the rows
of all connectors that are new, and the updates for those that are modified and for the logos and
the documentation of the others.  It has handed over as many rows of each kind as it counts, at
once, or it has handed over nothing and counts nothing. -/
theorem publish_conserves (site : BuildSite σ) (files : ChangedFiles) (world : σ)
    {outcome : PublishOutcome} (h : (publish site files (.start world)).1 = .ok outcome) :
    ∃ set batch, ChangeSet.ofFiles files = .ok set ∧ outcome.Accounts set batch ∧
      let handed := (publish site files (.start world)).2.calls.filter Call.isPublish
      ((∃ request, handed = [.publish request (.ok ())] ∧
          request = .ofBatch batch site.environment.policy ∧ outcome.Submits request) ∨
        (handed = [] ∧ batch = .empty ∧ outcome.connectors = 0 ∧ outcome.overviews = 0 ∧
          outcome.updates = 0 ∧ outcome.versions = 0)) := by
  obtain ⟨actions, hcalls, -, htrace⟩ := site.publish_calls files world
  rw [hcalls]
  rw [h] at htrace
  generalize (site.visitsOf files (.start world)).1 = visits at htrace
  generalize hresult : (.ok outcome : Except PublishFault PublishOutcome) = result at htrace
  cases htrace with
  | refused => cases hresult
  | @nothing set hset hempty =>
    cases hresult
    exact ⟨set, .empty, hset, PublishOutcome.nothing_accounts hempty,
      .inr ⟨rfl, rfl, rfl, rfl, rfl, rfl⟩⟩
  | @ended set _ _ visiting ending hset hempty hvisits hend =>
    subst hresult
    have haccounts (hfault : visits.findSome? Visit.fault? = none) :=
      Collection.accounts hset (hvisits.changes_eq hfault) (hvisits.settled hfault)
        site.environment.policy
    rw [callsOf_reported, callsOf_append, List.filter_append,
      Call.filter_isPublish_of_isBuilding hvisits.ledger.building]
    cases hend with
    | vacant hfault hnone =>
      have hbatch := Batch.isEmpty_iff.1 hnone
      refine ⟨set, _, hset, haccounts hfault, .inr ⟨rfl, hbatch, ?_⟩⟩
      simp only [Collection.outcome, Collection.ofVisits, hbatch]
      exact ⟨rfl, rfl, rfl, rfl⟩
    | accepted hfault =>
      exact ⟨set, _, hset, haccounts hfault, .inl ⟨_, rfl, rfl, Collection.submits _ visits⟩⟩

section

open Memory

/-- A diff that modifies the documentation of a connector and adds three releases of it. -/
def mixedFiles : ChangedFiles where
  added := [
    "registry/acme/db/releases/v1.0.0/connector-packaging.json",
    "registry/acme/db/releases/v1.1.0/connector-packaging.json",
    "registry/acme/db/releases/v1.2.0/connector-packaging.json"]
  modified := ["registry/acme/db/README.md"]
  deleted := []

/-- The tree with the files of the diff.  The second release is of the generation that is not
published, and the third has no address. -/
def mixedReleases : BuildSite Store where
  environment := .production
  repoRoot := "repo"
  tree :=
    let connector := ["repo", "registry", "acme", "db"]
    let release (version uri : String) (tree : FileTree) := tree.write
      (connector ++ ["releases", version, "connector-packaging.json"])
      (Text.utf8 ("\x7b\"version\": \"" ++ version ++ "\", \"uri\": \"" ++ uri ++ "\"\x7d"))
    (FileTree.empty.write (connector ++ ["README.md"]) (Text.utf8 "docs"))
      |> release "v1.0.0" "u" |> release "v1.1.0" "w" |> release "v1.2.0" ""
  services := (oneRelease [] (theReleases ++ [("w", "version: v2\n")])).services

/-- What the run comes to. -/
def mixedOutcome : PublishOutcome where
  state := .committed
  connectors := 0
  overviews := 0
  updates := 1
  versions := 1
  skipped := [⟨⟨⟨"acme", "db"⟩, "v1.1.0"⟩, "v2"⟩]
  failed := [⟨⟨⟨"acme", "db"⟩, "v1.2.0"⟩, .resolution ⟨⟨"acme", "db"⟩, "v1.2.0"⟩ .noUri⟩]

theorem mixedReleases_conserves :
    (publish mixedReleases mixedFiles (.start [])).1 = .ok mixedOutcome ∧
    ∃ set batch, ChangeSet.ofFiles mixedFiles = .ok set ∧ mixedOutcome.Accounts set batch ∧
      ∃ request, (publish mixedReleases mixedFiles (.start [])).2.calls.filter Call.isPublish =
          [.publish request (.ok ())] ∧
        request = .ofBatch batch .fail ∧ mixedOutcome.Submits request := by
  have hrun : (publish mixedReleases mixedFiles (.start [])).1 = .ok mixedOutcome :=
    Except.toOption_eq_some.1 (by decide +kernel)
  obtain ⟨set, batch, hset, haccounts, hhanded⟩ :=
    publish_conserves mixedReleases mixedFiles [] hrun
  rcases hhanded with hhanded | ⟨-, -, -, -, -, hnone⟩
  · exact ⟨hrun, set, batch, hset, haccounts, hhanded⟩
  · cases hnone

end

end ConnectorCatalog
