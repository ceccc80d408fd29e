import ConnectorCatalog.Proofs.Call
import ConnectorCatalog.Proofs.Publish.Run

/-!
# The rows of a run

Every row of a run goes back to the one visit that built it (`VisitTrace.version`,
`VisitTrace.newConnector`).  Since a run visits the changes of its agenda in order, at most once
each, no release and no connector has two rows (`VisitsTrace.releases_sublist`,
`VisitsTrace.connectors_sublist`).
-/

namespace ConnectorCatalog

/-- If whatever `f` finds leads by `e` to what `g` finds, then so it does in order. -/
theorem map_filterMap_sublist {α β γ : Type} {f : α → Option β} {e : β → γ} {g : α → Option γ}
    {l : List α} (h : ∀ a ∈ l, ∀ b, f a = some b → g a = some (e b)) :
    ((l.filterMap f).map e).Sublist (l.filterMap g) := by
  induction l with
  | nil => exact .slnil
  | cons a rest ih =>
    have hrest := ih fun x hx => h x (List.mem_cons_of_mem _ hx)
    cases hf : f a with
    | none =>
      rw [List.filterMap_cons_none hf]
      exact hrest.trans ((List.sublist_cons_self a rest).filterMap g)
    | some b =>
      rw [List.filterMap_cons_some hf, List.filterMap_cons_some (h a List.mem_cons_self b hf)]
      exact hrest.cons_cons (e b)

theorem filterMap_filter_of_none {α β : Type} {f : α → Option β} {p : α → Bool} {l : List α}
    (h : ∀ a ∈ l, p a = false → f a = none) : (l.filter p).filterMap f = l.filterMap f := by
  induction l with
  | nil => rfl
  | cons a rest ih =>
    have ih := ih fun b hb => h b (List.mem_cons_of_mem _ hb)
    cases hp : p a with
    | false =>
      rw [List.filter_cons_of_neg (by simp [hp]),
        List.filterMap_cons_none (h a List.mem_cons_self hp)]
      exact ih
    | true => rw [List.filter_cons_of_pos hp, List.filterMap_cons, List.filterMap_cons, ih]

theorem Batch.isEmpty_iff {batch : Batch} : batch.isEmpty = true ↔ batch = .empty := by
  obtain ⟨connectors, overviews, updates, versions⟩ := batch
  simp [isEmpty, empty, and_assoc]

/-- The connector of a row. -/
def ConnectorRow.identity (row : ConnectorRow) : Identity := ⟨row.ns, row.name⟩

/-- The connector of a row. -/
def OverviewRow.identity (row : OverviewRow) : Identity := ⟨row.ns, row.name⟩

theorem RowTrace.release_eq {release : ReleaseId} {resolved : ResolvedRelease} {isNew : Bool}
    {row : VersionRow} {actions : List Action}
    (h : RowTrace release resolved isNew (.ok row) actions) : row.release = release := by
  cases h
  rfl

namespace Visit

variable {visit : Visit}

theorem version?_eq_some {row : VersionRow} :
    visit.version? = some row ↔ visit.result = .ok (.release (.built row)) := by
  unfold version?
  split <;> simp_all

theorem newConnector?_eq_some {rows : NewConnectorRows} :
    visit.newConnector? = some rows ↔ visit.result = .ok (.connector rows) := by
  unfold newConnector?
  split <;> simp_all

theorem release?_of_skipped? {s : SkippedRelease} (h : visit.skipped? = some s) :
    visit.change.release? = some s.release := by
  unfold skipped? at h
  split at h
  · next hrelease _ =>
    cases h
    exact hrelease
  · cases h

theorem release?_of_failed? {f : FailedRelease} (h : visit.failed? = some f) :
    visit.change.release? = some f.release := by
  unfold failed? at h
  split at h
  · next hrelease _ =>
    split at h <;> cases h
    exact hrelease
  · cases h

end Visit

namespace BuildSite

variable {σ : Type} {site : BuildSite σ} {isNew : Bool} {visit : Visit} {actions : List Action}

/-! ### One visit -/

theorem BuildTrace.of_ok_release {change : Change} {outcome : ReleaseOutcome}
    (h : site.BuildTrace isNew change (.ok (.release outcome)) actions) :
    ∃ release, change.release? = some release ∧
      site.ReleaseTrace release change.path isNew (.ok outcome) actions := by
  generalize hres : (.ok (.release outcome) : Except PublishFault Built) = result at h
  cases h with
  | release hchange h =>
    obtain ⟨_, rfl, hout⟩ := Except.map_eq_ok.1 hres.symm
    cases hout
    exact ⟨_, hchange, h⟩
  | _ =>
    obtain ⟨_, -, hout⟩ := Except.map_eq_ok.1 hres.symm
    cases hout

theorem BuildTrace.of_ok_connector {change : Change} {rows : NewConnectorRows}
    (h : site.BuildTrace isNew change (.ok (.connector rows)) actions) :
    change.kind = .metadata .added ∧
      site.NewConnectorTrace change.connector change.path (.ok rows) actions := by
  generalize hres : (.ok (.connector rows) : Except PublishFault Built) = result at h
  cases h with
  | newConnector hkind h =>
    obtain ⟨_, rfl, hout⟩ := Except.map_eq_ok.1 hres.symm
    cases hout
    exact ⟨hkind, h⟩
  | _ =>
    obtain ⟨_, -, hout⟩ := Except.map_eq_ok.1 hres.symm
    cases hout

theorem NewConnectorTrace.identity_eq {connector : Identity} {path : String}
    {rows : NewConnectorRows} (h : site.NewConnectorTrace connector path (.ok rows) actions) :
    rows.connector.identity = connector ∧ rows.overview.identity = connector := by
  generalize hres : (.ok rows : Except PublishFault NewConnectorRows) = result at h
  cases h with
  | logo existing hdocs hfound hfree hlogo =>
    obtain ⟨url, -, rfl⟩ := Except.map_eq_ok.1 hres.symm
    exact ⟨rfl, rfl⟩
  | _ => cases hres

theorem VisitTrace.version (h : site.VisitTrace isNew visit actions) {row : VersionRow}
    (hrow : visit.version? = some row) : visit.change.release? = some row.release ∧
      ∃ building, callsOf actions = callsOf building ∧
        site.ReleaseTrace row.release visit.change.path isNew (.ok (.built row)) building := by
  obtain ⟨hbuild⟩ := h
  rw [Visit.version?_eq_some.1 hrow] at hbuild
  obtain ⟨release, hchange, hrelease⟩ := hbuild.of_ok_release
  have heq : row.release = release := by
    cases hrelease with
    | built _ _ _ hrow => exact hrow.release_eq
  subst heq
  exact ⟨hchange, _, by simp, hrelease⟩

theorem VisitTrace.newConnector (h : site.VisitTrace isNew visit actions) {rows : NewConnectorRows}
    (hrows : visit.newConnector? = some rows) :
    visit.change.newConnector? = some rows.connector.identity ∧
      ∃ building, callsOf actions = callsOf building ∧
        site.NewConnectorTrace rows.connector.identity visit.change.path (.ok rows) building := by
  obtain ⟨hbuild⟩ := h
  rw [Visit.newConnector?_eq_some.1 hrows] at hbuild
  obtain ⟨hkind, hconn⟩ := hbuild.of_ok_connector
  rw [hconn.identity_eq.1, Change.newConnector?, if_pos (Change.bucket_eq_newConnector.2 hkind)]
  exact ⟨rfl, _, by simp, hconn⟩

/-- A visit to a connector that is added builds its rows or gives the run up. -/
theorem VisitTrace.exists_newConnector (h : site.VisitTrace isNew visit actions)
    (hkind : visit.change.kind = .metadata .added) (hfault : visit.fault? = none) :
    ∃ rows, visit.newConnector? = some rows := by
  obtain ⟨change, result⟩ := visit
  have hrelease : change.release? = none := by
    rw [Change.release?, Change.version?, hkind]
    rfl
  obtain ⟨hbuild⟩ := h
  cases hbuild with
  | @newConnector result _ _ _ =>
    cases result with
    | ok rows => exact ⟨rows, rfl⟩
    | error fault => simp [Visit.fault?, hrelease] at hfault
  | modifiedConnector h => exact absurd (hkind.symm.trans h) (by simp)
  | logo h => exact absurd (hkind.symm.trans h) (by simp)
  | readme h => exact absurd (hkind.symm.trans h) (by simp)
  | release h => exact absurd (hrelease.symm.trans h) (by simp)

/-! ### All visits -/

variable {set : ChangeSet} {changes : List Change} {visits : List Visit}

theorem VisitsTrace.changes_prefix (h : site.VisitsTrace set changes visits actions) :
    visits.map (·.change) <+: changes := by
  induction h with
  | nil => exact List.prefix_rfl
  | fault visit rest => exact ⟨rest, rfl⟩
  | cons visit _ _ _ ih => exact List.cons_prefix_cons.2 ⟨rfl, ih⟩

/-- A run that is not given up visits all its changes. -/
theorem VisitsTrace.changes_eq (h : site.VisitsTrace set changes visits actions)
    (hfault : visits.findSome? Visit.fault? = none) : visits.map (·.change) = changes := by
  induction h with
  | nil => rfl
  | fault visit rest hvisit =>
    rw [List.findSome?_eq_none_iff] at hfault
    simp [hfault visit List.mem_cons_self] at hvisit
  | cons visit _ _ _ ih =>
    rw [List.findSome?_eq_none_iff] at hfault ih
    exact congrArg _ (ih fun v hv => hfault v (List.mem_cons_of_mem _ hv))

/-- What is done for one visit is done at one go. -/
theorem VisitsTrace.of_mem (h : site.VisitsTrace set changes visits actions) (hv : visit ∈ visits) :
    ∃ visiting, visiting <:+: actions ∧
      site.VisitTrace (set.isNewConnector visit.change.connector) visit visiting := by
  induction h with
  | nil => cases hv
  | fault head rest _ hhead =>
    obtain rfl := List.mem_singleton.1 hv
    exact ⟨_, List.infix_rfl, hhead⟩
  | cons head _ hhead _ ih =>
    rcases List.mem_cons.1 hv with rfl | hv
    · exact ⟨_, (List.prefix_append _ _).isInfix, hhead⟩
    · obtain ⟨visiting, hpart, hvisit⟩ := ih hv
      exact ⟨visiting, hpart.trans (List.suffix_append _ _).isInfix, hvisit⟩

theorem VisitsTrace.releases_sublist (h : site.VisitsTrace set changes visits actions) :
    ((Batch.ofVisits visits).versions.map (·.release)).Sublist
      (changes.filterMap Change.release?) := by
  refine .trans (map_filterMap_sublist (g := Change.release? ∘ Visit.change) ?_) ?_
  · intro visit hv row hrow
    obtain ⟨visiting, -, hvisit⟩ := h.of_mem hv
    exact (hvisit.version hrow).1
  · rw [← List.filterMap_map]
    exact h.changes_prefix.sublist.filterMap Change.release?

theorem VisitsTrace.connectors_sublist (h : site.VisitsTrace set changes visits actions) :
    ((Batch.ofVisits visits).connectors.map (·.identity)).Sublist
      (changes.filterMap Change.newConnector?) := by
  rw [Batch.ofVisits, List.map_map]
  refine .trans (map_filterMap_sublist (g := Change.newConnector? ∘ Visit.change) ?_) ?_
  · intro visit hv rows hrows
    obtain ⟨visiting, -, hvisit⟩ := h.of_mem hv
    exact (hvisit.newConnector hrows).1
  · rw [← List.filterMap_map]
    exact h.changes_prefix.sublist.filterMap Change.newConnector?

/-! ### Whole runs -/

/-- The calls of a run from the start, and the visits that they were made for. -/
theorem publish_calls (site : BuildSite σ) (files : ChangedFiles) (world : σ) : ∃ actions,
    (publish site files (.start world)).2.calls = callsOf actions ∧
    site.services.Leads world actions (publish site files (.start world)).2.world ∧
    site.PublishTrace files (site.visitsOf files (.start world)).1
      (publish site files (.start world)).1 actions := by
  obtain ⟨actions, hlog, hleads, htrace⟩ := site.publish_trace files (.start world)
  refine ⟨actions, ?_, hleads, htrace⟩
  rw [Journal.calls, hlog]
  rfl

end BuildSite

end ConnectorCatalog
