import ConnectorCatalog.Proofs.Publish.Conservation
import ConnectorCatalog.Proofs.Publish.Consistency
import ConnectorCatalog.Proofs.Registry.Overview

/-!
# The columns that a run updates

Every update of a run is for the connector of one change and sets columns that the heading of the
change stands for (`OverviewUpdate.IsFor`).  So two updates clash exactly if a logo or documentation
is both added and modified (`ChangeSet.Rewrites`), and an update meets an overview of the same run
exactly if the metadata of a new connector is modified, too (`ChangeSet.Readds`).

**Where nothing is written twice, the overview that a run leaves behind does not depend on the order
of its updates** (`publish_columns`).
-/

namespace ConnectorCatalog

open Keyed Std

variable {σ : Type}

/-! ### What changes ask for -/

/-- The columns of an overview that the changes under a heading are about. -/
def Bucket.columns : Bucket → List OverviewColumn
  | newConnector => []
  | modifiedConnector => [.latestVersion, .title, .description]
  | newLogo => [.logo]
  | modifiedLogo => [.logo]
  | newReadme => [.docs]
  | modifiedReadme => [.docs]
  | newVersion => []

/-- A heading of logos or of documentation. -/
def Bucket.IsPage (bucket : Bucket) : Prop :=
  bucket ≠ newConnector ∧ bucket ≠ modifiedConnector ∧ bucket ≠ newVersion

theorem Bucket.IsPage.isUpdate {c : Change} (h : c.bucket.IsPage) : c.isUpdate = true :=
  Change.isUpdate_iff.2 ⟨h.1, h.2.2⟩

/-- Headings of what is added and of what is modified, about one column. -/
inductive Bucket.Rewrite : Bucket → Bucket → Prop where
  | logo : Rewrite .newLogo .modifiedLogo
  | readme : Rewrite .newReadme .modifiedReadme

theorem Bucket.Rewrite.of_columns {a b : Bucket} (hrank : a.rank < b.rank) {column : OverviewColumn}
    (ha : column ∈ a.columns) (hb : column ∈ b.columns) : Rewrite a b := by
  cases a <;> cases b <;> cases column <;> first
    | exact .logo
    | exact .readme
    | exact absurd hrank (by decide)
    | exact absurd ha (by decide)
    | exact absurd hb (by decide)

theorem Bucket.Rewrite.isPage {a b : Bucket} (h : Rewrite a b) : a.IsPage ∧ b.IsPage ∧ a ≠ b := by
  cases h <;> simp [IsPage]

theorem Bucket.Rewrite.exists_columns {a b : Bucket} (h : Rewrite a b) :
    ∃ column, a.columns = [column] ∧ b.columns = [column] := by
  cases h with
  | logo => exact ⟨.logo, rfl, rfl⟩
  | readme => exact ⟨.docs, rfl, rfl⟩

/-- Of one connector the heading alone orders changes that are no releases. -/
theorem Change.rank_lt_of_compare {c d : Change} (h : compare c d = .lt)
    (hconnector : c.connector = d.connector) (hc : c.isUpdate = true) (hd : d.isUpdate = true) :
    c.bucket.rank < d.bucket.rank := by
  have hversion {e : Change} (he : e.isUpdate = true) : e.version? = none :=
    Option.map_eq_none_iff.1 (Change.release?_eq_none (Change.isUpdate_iff.1 he).2)
  have hsame : Identity.compare d.connector d.connector = .eq := ReflCmp.compare_self
  rw [compare, hconnector, hversion hc, hversion hd, hsame] at h
  simpa [compareVersions, Ordering.then_eq_lt, Nat.compare_eq_lt] using h

/-- An update for the connector of a change, of columns that the change is about. -/
structure OverviewUpdate.IsFor (u : OverviewUpdate) (c : Change) : Prop where
  isUpdate : c.isUpdate = true
  targets_iff : ∀ connector, u.targets connector = true ↔ connector = c.connector
  columns : ∀ column, u.change.Sets column → column ∈ c.bucket.columns
  sets : ∃ column, u.change.Sets column

namespace OverviewUpdate.IsFor

variable {u v : OverviewUpdate} {c d : Change}

/-- The updates of what is added and of what is modified clash. -/
theorem clash (hu : u.IsFor c) (hv : v.IsFor d) (h : c.bucket.Rewrite d.bucket)
    (hconnector : c.connector = d.connector) : Clash c.connector u v := by
  obtain ⟨column, hc, hd⟩ := h.exists_columns
  obtain ⟨a, ha⟩ := hu.sets
  obtain ⟨b, hb⟩ := hv.sets
  obtain rfl : a = column := List.mem_singleton.1 (hc ▸ hu.columns a ha)
  obtain rfl : b = a := List.mem_singleton.1 (hd ▸ hv.columns b hb)
  exact ⟨(hu.targets_iff _).2 rfl, (hv.targets_iff _).2 hconnector, b, ha, hb⟩

/-- The updates of different changes clash only if they are of what is added and modified. -/
theorem rewrite (hu : u.IsFor c) (hv : v.IsFor d) (hlt : Change.compare c d = .lt)
    {connector : Identity} (h : Clash connector u v) :
    c.bucket.Rewrite d.bucket ∧ c.connector = connector ∧ d.connector = connector := by
  obtain rfl := (hu.targets_iff _).1 h.left
  have hconnector := (hv.targets_iff _).1 h.right
  obtain ⟨column, hcolumn, hcolumn'⟩ := h.column
  exact ⟨.of_columns (Change.rank_lt_of_compare hlt hconnector hu.isUpdate hv.isUpdate)
    (hu.columns _ hcolumn) (hv.columns _ hcolumn'), rfl, hconnector.symm⟩

end OverviewUpdate.IsFor

namespace ChangeSet

/-- The set has a change of a connector under a heading. -/
def Has (set : ChangeSet) (bucket : Bucket) (connector : Identity) : Prop :=
  ∃ c ∈ set.changes, c.bucket = bucket ∧ c.connector = connector

/-- The logo or the documentation of a connector that is not new is both added and modified. -/
def Rewrites (set : ChangeSet) (connector : Identity) : Prop :=
  set.isNewConnector connector = false ∧
    ∃ a b, Bucket.Rewrite a b ∧ set.Has a connector ∧ set.Has b connector

/-- The metadata of a new connector is modified, too. -/
def Readds (set : ChangeSet) (connector : Identity) : Prop :=
  set.isNewConnector connector = true ∧ set.Has .modifiedConnector connector

variable {set : ChangeSet} {c : Change}

theorem mem_agenda : c ∈ set.agenda ↔
    c ∈ set.changes ∧ (c.bucket.IsPage → set.isNewConnector c.connector = false) := by
  simp only [agenda, List.mem_filter, isFolded_eq, Change.isUpdate, Bucket.IsPage]
  cases c.bucket <;> simp

end ChangeSet

/-! ### What changes come to -/

theorem Visit.update?_eq_some {visit : Visit} {u : OverviewUpdate} :
    visit.update? = some u ↔ visit.result = .ok (.update u) := by
  unfold update?
  split <;> simp_all

namespace BuildSite

variable {site : BuildSite σ} {isNew : Bool} {actions : List Action}

theorem BuildTrace.isFor {change : Change} {u : OverviewUpdate}
    (h : site.BuildTrace isNew change (.ok (.update u)) actions) : u.IsFor change := by
  have hupdate := h.of_ok_update
  obtain ⟨connector, kind, path⟩ := change
  generalize hres : (.ok (.update u) : Except PublishFault Built) = result at h
  cases h with
  | modifiedConnector hkind h =>
    cases hkind
    obtain ⟨_, rfl, hout⟩ := Except.map_eq_ok.1 hres.symm
    cases hout
    cases h with
    | updated hload hset =>
      refine ⟨hupdate, fun _ => OverviewUpdate.targets_ofConnector, fun column hcolumn => ?_,
        OverviewChange.exists_sets hset⟩
      change column ∈ Bucket.columns .modifiedConnector
      cases column <;> first | cases hcolumn | decide
  | @logo origin _ _ _ hkind h =>
    cases hkind
    obtain ⟨_, rfl, hout⟩ := Except.map_eq_ok.1 hres.symm
    cases hout
    generalize hlogo : (.ok u : Except PublishFault OverviewUpdate) = result at h
    cases h with
    | logo =>
      obtain ⟨url, -, rfl⟩ := Except.map_eq_ok.1 hlogo.symm
      refine ⟨hupdate, fun _ => OverviewUpdate.targets_ofConnector, fun column hcolumn => ?_,
        .logo, rfl⟩
      cases column <;> cases hcolumn
      cases origin <;> exact List.mem_singleton_self _
  | @readme origin _ _ hkind h =>
    cases hkind
    obtain ⟨_, rfl, hout⟩ := Except.map_eq_ok.1 hres.symm
    cases hout
    cases h with
    | updated docs =>
      refine ⟨hupdate, fun _ => OverviewUpdate.targets_ofConnector, fun column hcolumn => ?_,
        .docs, rfl⟩
      cases column <;> cases hcolumn
      cases origin <;> exact List.mem_singleton_self _
  | newConnector =>
    obtain ⟨_, -, hout⟩ := Except.map_eq_ok.1 hres.symm
    cases hout
  | release =>
    obtain ⟨_, -, hout⟩ := Except.map_eq_ok.1 hres.symm
    cases hout

variable {set : ChangeSet} {visits : List Visit}

theorem VisitsTrace.isFor {changes : List Change} (h : site.VisitsTrace set changes visits actions)
    {visit : Visit} (hvisit : visit ∈ visits) {u : OverviewUpdate} (hu : visit.update? = some u) :
    u.IsFor visit.change := by
  obtain ⟨_, -, ⟨hbuild⟩⟩ := h.of_mem hvisit
  rw [Visit.update?_eq_some.1 hu] at hbuild
  exact hbuild.isFor

/-- A run that is not given up updates an overview for every change that asks for it. -/
theorem VisitsTrace.exists_update (h : site.VisitsTrace set set.agenda visits actions)
    (hfault : visits.findSome? Visit.fault? = none) {c : Change} (hc : c ∈ set.agenda)
    (hupdate : c.isUpdate = true) :
    ∃ visit ∈ visits, visit.change = c ∧ ∃ u, visit.update? = some u := by
  rw [← h.changes_eq hfault] at hc
  obtain ⟨visit, hvisit, rfl⟩ := List.mem_map.1 hc
  refine ⟨visit, hvisit, rfl, Option.isSome_iff_exists.1 ?_⟩
  rw [(h.settled hfault visit hvisit).isSome_update?, hupdate]

/-- Updates of a run clash exactly where something is added and modified. -/
theorem VisitsTrace.pairwise_not_clash {files : ChangedFiles}
    (hset : ChangeSet.ofFiles files = .ok set) (h : site.VisitsTrace set set.agenda visits actions)
    (hfault : visits.findSome? Visit.fault? = none) (connector : Identity) :
    ((Batch.ofVisits visits).updates.Pairwise fun u v => ¬OverviewUpdate.Clash connector u v) ↔
      ¬set.Rewrites connector := by
  have hchanges := h.changes_eq hfault
  rw [Batch.ofVisits, List.pairwise_filterMap]
  constructor
  · rintro hpairwise ⟨hnew, a, b, hab, ⟨c, hc, rfl, hcc⟩, ⟨d, hd, rfl, hdc⟩⟩
    obtain ⟨hcpage, hdpage, hne⟩ := hab.isPage
    obtain ⟨v, hv, rfl, u, hu⟩ := h.exists_update hfault
      (ChangeSet.mem_agenda.2 ⟨hc, fun _ => hcc ▸ hnew⟩) hcpage.isUpdate
    obtain ⟨w, hw, rfl, u', hu'⟩ := h.exists_update hfault
      (ChangeSet.mem_agenda.2 ⟨hd, fun _ => hdc ▸ hnew⟩) hdpage.isUpdate
    have hclash := (h.isFor hv hu).clash (h.isFor hw hu') hab (hcc.trans hdc.symm)
    rw [hcc] at hclash
    have : Std.Symm fun v w : Visit => ∀ u, v.update? = some u → ∀ u', w.update? = some u' →
        ¬OverviewUpdate.Clash connector u u' :=
      ⟨fun _ _ hvw u hu u' hu' hclash => hvw u' hu' u hu hclash.symm⟩
    exact hpairwise.forall hv hw (fun heq => hne (heq ▸ rfl)) u hu u' hu' hclash
  · intro hrewrites
    have hsorted := ChangeSet.sorted_agenda hset
    rw [← hchanges, Sorted, List.pairwise_map] at hsorted
    refine hsorted.imp_of_mem fun {v w} hv hw hlt u hu u' hu' hclash => hrewrites ?_
    obtain ⟨hab, hvc, hwc⟩ := (h.isFor hv hu).rewrite (h.isFor hw hu') hlt hclash
    obtain ⟨hvmem, hfree⟩ := ChangeSet.mem_agenda.1 (hchanges ▸ List.mem_map_of_mem hv)
    obtain ⟨hwmem, -⟩ := ChangeSet.mem_agenda.1 (hchanges ▸ List.mem_map_of_mem hw)
    exact ⟨hvc ▸ hfree hab.isPage.1, _, _, hab, ⟨_, hvmem, rfl, hvc⟩, ⟨_, hwmem, rfl, hwc⟩⟩

/-- An overview is inserted and updated exactly where the metadata of a new connector is modified,
too. -/
theorem VisitsTrace.inserted_and_updated (h : site.VisitsTrace set set.agenda visits actions)
    (hfault : visits.findSome? Visit.fault? = none) (connector : Identity) :
    (connector ∈ (Batch.ofVisits visits).overviews.map (·.identity) ∧
      ∃ u ∈ (Batch.ofVisits visits).updates, u.targets connector = true) ↔
      set.Readds connector := by
  rw [h.overviews_eq]
  constructor
  · rintro ⟨hinserted, u, hu, htarget⟩
    obtain ⟨c, hc, hcreated⟩ := List.mem_filterMap.1 (h.connectors_sublist.subset hinserted)
    rw [Change.newConnector?, Option.ite_none_right_eq_some, Option.some_inj] at hcreated
    have hnew := ChangeSet.isNewConnector_iff.2 ⟨c, set.agenda_sublist.subset hc, hcreated⟩
    obtain ⟨v, hv, hvu⟩ := List.mem_filterMap.1 hu
    have hfor := h.isFor hv hvu
    obtain rfl := (hfor.targets_iff _).1 htarget
    obtain ⟨hmem, hfree⟩ := ChangeSet.mem_agenda.1
      (h.changes_prefix.subset (List.mem_map_of_mem hv))
    -- Of the changes of a new connector only those to its metadata and its releases are left.
    obtain ⟨hne, hne'⟩ := Change.isUpdate_iff.1 hfor.isUpdate
    refine ⟨hnew, v.change, hmem, by_contra fun hmetadata => ?_, rfl⟩
    exact absurd hnew (Bool.eq_false_iff.1 (hfree ⟨hne, hmetadata, hne'⟩))
  · rintro ⟨hnew, c, hc, hbucket, rfl⟩
    have hupdate : c.isUpdate = true := Change.isUpdate_iff.2 (by simp [hbucket])
    have hagenda : c ∈ set.agenda :=
      ChangeSet.mem_agenda.2 ⟨hc, fun hpage => absurd hbucket hpage.2.1⟩
    obtain ⟨v, hv, rfl, u, hu⟩ := h.exists_update hfault hagenda hupdate
    exact ⟨h.mem_connectors hfault hnew, u, List.mem_filterMap.2 ⟨v, hv, hu⟩,
      ((h.isFor hv hu).targets_iff _).2 rfl⟩

end BuildSite

/-! ### Whole runs -/

/-- **The updates that a run hands over.**  Two of them set one column of the overview of a
connector exactly if the connector is not new and its logo or its documentation is both added and
modified.  One of them is for an overview that the run inserts exactly if the metadata of the new
connector is modified, too.  Where neither logo nor documentation is written twice, any order of the
updates makes the same of the overview. -/
theorem publish_columns (site : BuildSite σ) (files : ChangedFiles) (world : σ)
    {request : PublishRequest} {answer : Except Causes Unit}
    (h : .publish request answer ∈ (publish site files (.start world)).2.calls) :
    ∃ set, ChangeSet.ofFiles files = .ok set ∧
      let batch := Batch.ofVisits (site.visitsOf files (.start world)).1
      request = .ofBatch batch site.environment.policy ∧ ∀ connector,
        ((batch.updates.Pairwise fun u v => ¬OverviewUpdate.Clash connector u v) ↔
          ¬set.Rewrites connector) ∧
        ((connector ∈ batch.overviews.map (·.identity) ∧
          ∃ u ∈ batch.updates, u.targets connector = true) ↔ set.Readds connector) ∧
        (¬set.Rewrites connector → ∀ updates, updates.Perm batch.updates → ∀ cells,
          OverviewUpdate.appliedTo updates connector cells =
            OverviewUpdate.appliedTo batch.updates connector cells) := by
  obtain ⟨actions, hcalls, -, htrace⟩ := site.publish_calls files world
  rw [hcalls] at h
  generalize (site.visitsOf files (.start world)).1 = visits at htrace ⊢
  generalize (publish site files (.start world)).1 = result at htrace
  obtain ⟨set, visiting, hset, hvisits, -, hfault, hrequest, -⟩ := htrace.of_publish h
  refine ⟨set, hset, hrequest, fun connector => ?_⟩
  have hpairwise := hvisits.pairwise_not_clash hset hfault connector
  exact ⟨hpairwise, hvisits.inserted_and_updated hfault connector, fun hrewrites _ hperm cells =>
    (OverviewUpdate.appliedTo_perm hperm.symm (hpairwise.2 hrewrites) cells).symm⟩

section

open Memory

/-- A diff that adds one logo of a connector and modifies the other, and that both adds and modifies
the metadata of a new connector. -/
def twiceFiles : ChangedFiles where
  added := ["registry/acme/db/logo.svg", "registry/acme/fresh/metadata.json"]
  modified := ["registry/acme/db/logo.png", "registry/acme/fresh/metadata.json"]
  deleted := []

/-- The changes of the diff. -/
def twiceChanges : ChangeSet where
  changes := [
    ⟨⟨"acme", "fresh"⟩, .metadata .added, "registry/acme/fresh/metadata.json"⟩,
    ⟨⟨"acme", "fresh"⟩, .metadata .modified, "registry/acme/fresh/metadata.json"⟩,
    ⟨⟨"acme", "db"⟩, .logo .added .svg, "registry/acme/db/logo.svg"⟩,
    ⟨⟨"acme", "db"⟩, .logo .modified .png, "registry/acme/db/logo.png"⟩]

/-- The tree with the files of the diff, and with those that a new connector needs. -/
def twice : BuildSite Store where
  environment := .production
  repoRoot := "repo"
  tree := (FileTree.empty.write ["repo", "registry", "acme", "db", "logo.svg"] (Text.utf8 "one"))
    |>.write ["repo", "registry", "acme", "db", "logo.png"] (Text.utf8 "two")
    |>.write ["repo", "registry", "acme", "fresh", "logo.png"] (Text.utf8 "three")
    |>.write ["repo", "registry", "acme", "fresh", "README.md"] (Text.utf8 "docs")
    |>.write ["repo", "registry", "acme", "fresh", "metadata.json"] (Text.utf8
      "\x7b\"overview\": \x7b\"namespace\": \"acme\", \"title\": \"Fresh\"\x7d\x7d")
  services := (oneRelease [] []).services

/-- Two updates set the logo of one connector, and the one that comes last counts; another update is
for an overview that the same request inserts. -/
theorem twice_updates : ∃ request answer set,
    .publish request answer ∈ (publish twice twiceFiles (.start [])).2.calls ∧
    ChangeSet.ofFiles twiceFiles = .ok set ∧
    let batch := Batch.ofVisits (twice.visitsOf twiceFiles (.start [])).1
    request = .ofBatch batch .fail ∧
    (¬batch.updates.Pairwise fun u v => ¬OverviewUpdate.Clash ⟨"acme", "db"⟩ u v) ∧
    (OverviewUpdate.appliedTo batch.updates ⟨"acme", "db"⟩ (fun _ => none) .logo =
      some "https://images.example.test/acme-db.png") ∧
    (OverviewUpdate.appliedTo batch.updates.reverse ⟨"acme", "db"⟩ (fun _ => none) .logo =
      some "https://images.example.test/acme-db.svg") ∧
    ⟨"acme", "fresh"⟩ ∈ batch.overviews.map (·.identity) ∧
    ∃ u ∈ batch.updates, u.targets ⟨"acme", "fresh"⟩ = true := by
  obtain ⟨hany, hlast, hreversed⟩ :
      (publish twice twiceFiles (.start [])).2.calls.any Call.isAccepted = true ∧
      let updates := (Batch.ofVisits (twice.visitsOf twiceFiles (.start [])).1).updates
      OverviewUpdate.appliedTo updates ⟨"acme", "db"⟩ (fun _ => none) .logo =
        some "https://images.example.test/acme-db.png" ∧
      OverviewUpdate.appliedTo updates.reverse ⟨"acme", "db"⟩ (fun _ => none) .logo =
        some "https://images.example.test/acme-db.svg" := by
    decide +kernel
  obtain ⟨call, hcall, haccepted⟩ := List.any_eq_true.1 hany
  obtain ⟨request, rfl⟩ := Call.isAccepted_iff.1 haccepted
  have hchanges : ChangeSet.ofFiles twiceFiles = .ok twiceChanges :=
    Except.toOption_eq_some.1 (by decide +kernel)
  obtain ⟨set, hset, hrequest, hcolumns⟩ := publish_columns twice twiceFiles [] hcall
  obtain rfl : twiceChanges = set := Except.ok.inj (hchanges.symm.trans hset)
  have hrewrites : twiceChanges.Rewrites ⟨"acme", "db"⟩ :=
    ⟨by decide, _, _, .logo, ⟨_, .tail _ (.tail _ (.head _)), rfl, rfl⟩,
      ⟨_, .tail _ (.tail _ (.tail _ (.head _))), rfl, rfl⟩⟩
  have hreadds : twiceChanges.Readds ⟨"acme", "fresh"⟩ :=
    ⟨by decide, _, .tail _ (.head _), rfl, rfl⟩
  obtain ⟨hclash, -, -⟩ := hcolumns ⟨"acme", "db"⟩
  obtain ⟨-, hinserted, -⟩ := hcolumns ⟨"acme", "fresh"⟩
  exact ⟨request, .ok (), _, hcall, hset, hrequest, fun hpairwise => hclash.1 hpairwise hrewrites,
    hlast, hreversed, hinserted.2 hreadds⟩

end

end ConnectorCatalog
