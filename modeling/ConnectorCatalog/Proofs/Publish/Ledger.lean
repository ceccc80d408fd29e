import ConnectorCatalog.Proofs.Publish.Rows

/-!
# The calls of a publish run

A run stores packages while it visits its changes, hands its rows over at most once and deletes
packages only to undo its own puts.

* `VisitsTrace.ledger` : the packages stored on the way are those of the rows that are built, in
  order, and no call there deletes anything or hands rows over.
* `publish_balance` : the calls of a whole run; **a run that fails deletes exactly what it stored**.
-/

namespace ConnectorCatalog

variable {σ : Type}

/-! ### Building -/

theorem Visit.version?_map_connector (change : Change)
    (result : Except PublishFault NewConnectorRows) :
    Visit.version? ⟨change, result.map .connector⟩ = none := by
  cases result <;> rfl

theorem Visit.version?_map_update (change : Change) (result : Except PublishFault OverviewUpdate) :
    Visit.version? ⟨change, result.map .update⟩ = none := by
  cases result <;> rfl

/-- Calls that store the packages of rows, in order, and otherwise change nothing but logos. -/
structure Ledger (rows : List VersionRow) (calls : List Call) : Prop where
  stored : Call.storedKeys calls = rows.map (·.release.packageKey)
  building : ∀ call ∈ calls, call.isBuilding = true

namespace Ledger

variable {rows more : List VersionRow} {calls rest : List Call}

theorem append (h : Ledger rows calls) (hmore : Ledger more rest) :
    Ledger (rows ++ more) (calls ++ rest) where
  stored := by
    rw [List.map_append, ← h.stored, ← hmore.stored]
    exact List.filterMap_append
  building := by
    intro call hcall
    rcases List.mem_append.1 hcall with hcall | hcall
    · exact h.building call hcall
    · exact hmore.building call hcall

theorem lookup {connector : Identity} {result : Except Causes (Option ConnectorInfo)}
    (h : Ledger rows calls) : Ledger rows (.lookup connector result :: calls) :=
  ⟨h.stored, by simpa [Call.isBuilding] using h.building⟩

end Ledger

theorem ResolveTrace.ledger {release : ReleaseId} {uri : String}
    {result : Except PublishFault Resolution} {actions : List Action}
    (h : ResolveTrace release uri result actions) : Ledger [] (callsOf actions) := by
  cases h <;> exact ⟨rfl, by simp [Call.isBuilding]⟩

theorem RowTrace.ledger {release : ReleaseId} {resolved : ResolvedRelease} {isNew : Bool}
    {result : Except PublishFault VersionRow} {actions : List Action}
    (h : RowTrace release resolved isNew result actions) :
    Ledger result.toOption.toList (callsOf actions) := by
  cases h <;> exact ⟨rfl, by simp [Call.isBuilding]⟩

namespace BuildSite

variable {site : BuildSite σ}

theorem ReleaseTrace.ledger {release : ReleaseId} {path : String} {isNew : Bool}
    {result : Except PublishFault ReleaseOutcome} {actions : List Action}
    (h : site.ReleaseTrace release path isNew result actions) (change : Change) :
    Ledger (Visit.version? ⟨change, result.map .release⟩).toList (callsOf actions) := by
  cases h with
  | noDescriptor fault hload => exact ⟨rfl, by simp⟩
  | misplaced fault hload hversion => exact ⟨rfl, by simp⟩
  | unresolved fault hdecl hfetch => exact hfetch.ledger
  | skipped generation hdecl hfetch => exact hfetch.ledger
  | noRow fault hdecl hfetch hrow =>
    rw [callsOf_opened, callsOf_append]
    exact hfetch.ledger.append hrow.ledger
  | built row hdecl hfetch hrow =>
    rw [callsOf_opened, callsOf_append]
    exact hfetch.ledger.append hrow.ledger

theorem LogoTrace.ledger {connector : Identity} {path : String} {format : LogoFormat}
    {result : Except PublishFault String} {actions : List Action}
    (h : site.LogoTrace connector path format result actions) : Ledger [] (callsOf actions) := by
  cases h <;> exact ⟨rfl, by simp [Call.isBuilding]⟩

theorem NewConnectorTrace.ledger {connector : Identity} {path : String}
    {result : Except PublishFault NewConnectorRows} {actions : List Action}
    (h : site.NewConnectorTrace connector path result actions) : Ledger [] (callsOf actions) := by
  cases h with
  | logo existing hdocs hfound hfree hlogo =>
    simp only [openedDocuments, callsOf_append, callsOf_opened, callsOf_called, callsOf_nil]
    exact hlogo.ledger.lookup
  | _ => exact ⟨rfl, by simp [openedDocuments, Call.isBuilding]⟩

theorem BuildTrace.ledger {isNew : Bool} {change : Change} {result : Except PublishFault Built}
    {actions : List Action} (h : site.BuildTrace isNew change result actions) :
    Ledger (Visit.version? ⟨change, result⟩).toList (callsOf actions) := by
  cases h with
  | newConnector hkind h =>
    rw [Visit.version?_map_connector]
    exact h.ledger
  | modifiedConnector hkind h =>
    rw [Visit.version?_map_update]
    cases h <;> exact ⟨rfl, by simp⟩
  | logo hkind h =>
    rw [Visit.version?_map_update]
    cases h with
    | logo hlogo => exact hlogo.ledger
  | readme hkind h =>
    rw [Visit.version?_map_update]
    cases h <;> exact ⟨rfl, by simp⟩
  | release hchange h => exact h.ledger change

theorem VisitTrace.ledger {isNew : Bool} {visit : Visit} {actions : List Action}
    (h : site.VisitTrace isNew visit actions) :
    Ledger visit.version?.toList (callsOf actions) := by
  cases h with
  | intro hbuild =>
    rw [callsOf_reported, callsOf_append, callsOf_map_reported, List.append_nil]
    exact hbuild.ledger

/-- The packages stored on the way are those of the rows that are built. -/
theorem VisitsTrace.ledger {set : ChangeSet} {changes : List Change} {visits : List Visit}
    {actions : List Action} (h : site.VisitsTrace set changes visits actions) :
    Ledger (Batch.ofVisits visits).versions (callsOf actions) := by
  induction h with
  | nil => exact ⟨rfl, by simp⟩
  | fault visit rest hfault hvisit =>
    -- What was done up to the fault counts like any other visit.
    rw [Batch.versions_ofVisits_cons, ← List.append_nil (callsOf _)]
    exact hvisit.ledger.append ⟨rfl, by simp⟩
  | cons visit hfault hvisit hvisits ih =>
    rw [Batch.versions_ofVisits_cons, callsOf_append]
    exact hvisit.ledger.append ih

end BuildSite

/-! ### Ending -/

theorem CleanupTrace.deletedKeys {rows : List VersionRow} {report : CleanupReport}
    {actions : List Action} (h : CleanupTrace rows report actions) :
    Call.deletedKeys (callsOf actions) = rows.map (·.release.packageKey) := by
  induction h with
  | nil => rfl
  | deleted row _ ih => exact congrArg _ ih
  | kept row causes _ ih => exact congrArg _ ih

theorem CleanupTrace.isDelete {rows : List VersionRow} {report : CleanupReport}
    {actions : List Action} (h : CleanupTrace rows report actions) :
    ∀ call ∈ callsOf actions, call.isDelete = true := by
  induction h with
  | nil => simp
  | deleted row _ ih => simpa [Call.isDelete] using ih
  | kept row causes _ ih => simpa [Call.isDelete] using ih

/-- The calls that end a run with visits behind it: rows are handed over once or not at all, and
after that packages are deleted. -/
structure Ending (visits : List Visit) (result : Except PublishFault PublishOutcome)
    (handing deleting : List Call) : Prop where
  once : handing = [] ∨ (visits.findSome? Visit.fault? = none ∧
    ∃ request answer, handing = [.publish request answer])
  deletes : ∀ call ∈ deleting, call.isDelete = true
  undone : ∀ fault, result = .error fault → Call.deletedKeys deleting =
    (Batch.ofVisits visits).versions.map (·.release.packageKey)
  kept : ∀ outcome, result = .ok outcome → deleting = []

theorem EndTrace.ending {policy : ConflictPolicy} {visits : List Visit}
    {result : Except PublishFault PublishOutcome} {actions : List Action}
    (h : EndTrace policy visits result actions) :
    ∃ handing deleting, callsOf actions = handing ++ deleting ∧
      Ending visits result handing deleting := by
  cases h with
  | aborted fault hfault hclean =>
    exact ⟨[], _, by simp, .inl rfl, hclean.isDelete, fun _ _ => hclean.deletedKeys, by simp⟩
  | vacant hfault hempty => exact ⟨[], [], rfl, .inl rfl, by simp, by simp, fun _ _ => rfl⟩
  | accepted hfault hempty =>
    exact ⟨[_], [], rfl, .inr ⟨hfault, _, _, rfl⟩, by simp, by simp, fun _ _ => rfl⟩
  | rejected causes hfault hempty hclean =>
    refine ⟨[.publish (.ofBatch (.ofVisits visits) policy) (.error causes)], _, ?_,
      .inr ⟨hfault, _, _, rfl⟩, hclean.isDelete, fun _ _ => hclean.deletedKeys, by simp⟩
    rw [callsOf_reported, callsOf_called, callsOf_append, callsOf_reported, callsOf_nil,
      List.append_nil]
    rfl

/-- Rows are handed over when no visit has given the run up, and their acceptance is its success. -/
theorem EndTrace.of_publish {policy : ConflictPolicy} {visits : List Visit}
    {result : Except PublishFault PublishOutcome} {actions : List Action}
    (h : EndTrace policy visits result actions) {request : PublishRequest}
    {answer : Except Causes Unit} (hcall : .publish request answer ∈ callsOf actions) :
    visits.findSome? Visit.fault? = none ∧ request = .ofBatch (.ofVisits visits) policy ∧
      (answer = .ok () → ∃ outcome, result = .ok outcome) := by
  -- Cleaning up hands no rows over.
  have hnot : ∀ {rows report deletes}, CleanupTrace rows report deletes →
      .publish request answer ∉ callsOf deletes := by
    intro rows report deletes hclean hmem
    have := hclean.isDelete _ hmem
    cases this
  cases h with
  | aborted fault hfault hclean => simp [hnot hclean] at hcall
  | vacant hfault hempty => simp at hcall
  | accepted hfault hempty =>
    have hsame : request = .ofBatch (.ofVisits visits) policy ∧ answer = .ok () := by
      simpa using hcall
    exact ⟨hfault, hsame.1, fun _ => ⟨_, rfl⟩⟩
  | rejected causes hfault hempty hclean =>
    have hsame : request = .ofBatch (.ofVisits visits) policy ∧ answer = .error causes := by
      simpa [hnot hclean] using hcall
    refine ⟨hfault, hsame.1, fun hok => ?_⟩
    rw [hsame.2] at hok
    cases hok

/-- A run that succeeds has its rows accepted, unless there are none. -/
theorem EndTrace.of_ok {policy : ConflictPolicy} {visits : List Visit} {outcome : PublishOutcome}
    {actions : List Action} (h : EndTrace policy visits (.ok outcome) actions) :
    visits.findSome? Visit.fault? = none ∧
      outcome = (Collection.ofVisits policy visits).outcome .committed ∧
      (Batch.ofVisits visits = .empty ∧ callsOf actions = [] ∨
        callsOf actions = [.publish (.ofBatch (.ofVisits visits) policy) (.ok ())]) := by
  cases h with
  | vacant hfault hempty => exact ⟨hfault, rfl, .inl ⟨Batch.isEmpty_iff.1 hempty, rfl⟩⟩
  | accepted hfault => exact ⟨hfault, rfl, .inr rfl⟩

namespace Ending

variable {visits : List Visit} {result : Except PublishFault PublishOutcome}
  {handing deleting : List Call}

theorem storedKeys_eq_nil (h : Ending visits result handing deleting) :
    Call.storedKeys (handing ++ deleting) = [] := by
  rw [Call.storedKeys_append, Call.storedKeys_of_isDelete h.deletes, List.append_nil]
  rcases h.once with rfl | ⟨-, request, answer, rfl⟩ <;> rfl

theorem deletedKeys_eq (h : Ending visits result handing deleting) :
    Call.deletedKeys (handing ++ deleting) = Call.deletedKeys deleting := by
  rw [Call.deletedKeys_append]
  rcases h.once with rfl | ⟨-, request, answer, rfl⟩ <;> rfl

/-- Rows are handed over before anything is deleted. -/
theorem pairwise (h : Ending visits result handing deleting) : (handing ++ deleting).Pairwise
    fun call later => call.isPublish = true → later.isDelete = true := by
  have hdeletes : deleting.Pairwise fun call later =>
      call.isPublish = true → later.isDelete = true :=
    List.pairwise_of_forall_mem_list fun _ _ later hlater _ => h.deletes later hlater
  rcases h.once with rfl | ⟨-, request, answer, rfl⟩
  · exact hdeletes
  · exact List.pairwise_cons.2 ⟨fun later hlater _ => h.deletes later hlater, hdeletes⟩

end Ending

/-! ### Whole runs -/

theorem BuildSite.VisitsTrace.keys_nodup {site : BuildSite σ} {files : ChangedFiles}
    {set : ChangeSet} (hset : ChangeSet.ofFiles files = .ok set) {visits : List Visit}
    {actions : List Action} (h : site.VisitsTrace set set.agenda visits actions) :
    ((Batch.ofVisits visits).versions.map (·.release.packageKey)).Nodup := by
  have hsub := h.releases_sublist
  have hnodup := (Change.releases_nodup (ChangeSet.sorted_agenda hset)).sublist hsub
  -- Keys tell releases apart only if no part of a name holds a slash.
  have hplain : ∀ r ∈ (Batch.ofVisits visits).versions.map (·.release), r.IsPlain := by
    intro r hr
    obtain ⟨c, hc, hcr⟩ := List.mem_filterMap.1 (hsub.subset hr)
    exact (ChangeSet.placed_of_ofFiles hset (set.agenda_sublist.subset hc)).isPlain hcr
  have hkeys : (Batch.ofVisits visits).versions.map (·.release.packageKey) =
      ((Batch.ofVisits visits).versions.map (·.release)).map ReleaseId.packageKey := by
    rw [List.map_map]
    rfl
  rw [hkeys, List.Nodup, List.pairwise_map]
  exact hnodup.imp_of_mem fun hr hs hne heq =>
    hne (ReleaseId.packageKey_injective (hplain _ hr) (hplain _ hs) heq)

/-- The calls of a run: it first builds rows, then hands them over, and then undoes what has to be
undone. -/
structure Phases (files : ChangedFiles) (visits : List Visit)
    (result : Except PublishFault PublishOutcome) (building handing deleting : List Call) :
    Prop where
  ledger : Ledger (Batch.ofVisits visits).versions building
  nodup : (Call.storedKeys building).Nodup
  visited : handing ≠ [] → ∃ set, ChangeSet.ofFiles files = .ok set ∧
    visits.map (·.change) = set.agenda
  ending : Ending visits result handing deleting

theorem BuildSite.PublishTrace.phases {site : BuildSite σ} {files : ChangedFiles}
    {visits : List Visit} {result : Except PublishFault PublishOutcome} {actions : List Action}
    (h : site.PublishTrace files visits result actions) : ∃ building handing deleting,
    callsOf actions = building ++ (handing ++ deleting) ∧
      Phases files visits result building handing deleting := by
  have hnothing : ∀ result, Ending [] result [] [] := fun _ =>
    ⟨.inl rfl, by simp, fun _ _ => rfl, fun _ _ => rfl⟩
  cases h with
  | refused fault hset =>
    exact ⟨[], [], [], rfl, ⟨rfl, by simp⟩, List.nodup_nil, by simp, hnothing _⟩
  | nothing hset hempty =>
    exact ⟨[], [], [], rfl, ⟨rfl, by simp⟩, List.nodup_nil, by simp, hnothing _⟩
  | ended hset hempty hvisits hend =>
    obtain ⟨handing, deleting, hcalls, hending⟩ := hend.ending
    refine ⟨_, handing, deleting, ?_, hvisits.ledger, ?_, ?_, hending⟩
    · rw [callsOf_reported, callsOf_append, hcalls]
    · rw [hvisits.ledger.stored]
      exact hvisits.keys_nodup hset
    · intro hne
      exact ⟨_, hset, hvisits.changes_eq (hending.once.resolve_left hne).1⟩

theorem publish_phases (site : BuildSite σ) (files : ChangedFiles) (world : σ) :
    ∃ building handing deleting,
      (publish site files (.start world)).2.calls = building ++ (handing ++ deleting) ∧
      Phases files (site.visitsOf files (.start world)).1 (publish site files (.start world)).1
        building handing deleting := by
  obtain ⟨actions, hcalls, -, htrace⟩ := site.publish_calls files world
  rw [hcalls]
  exact htrace.phases

/-- A run that hands rows over has visited all its changes, and hands over what has come of them. -/
theorem BuildSite.PublishTrace.of_publish {site : BuildSite σ} {files : ChangedFiles}
    {visits : List Visit} {result : Except PublishFault PublishOutcome} {actions : List Action}
    (h : site.PublishTrace files visits result actions) {request : PublishRequest}
    {answer : Except Causes Unit} (hcall : .publish request answer ∈ callsOf actions) :
    ∃ set visiting, ChangeSet.ofFiles files = .ok set ∧
      site.VisitsTrace set set.agenda visits visiting ∧ callsOf visiting <+: callsOf actions ∧
      visits.findSome? Visit.fault? = none ∧
      request = .ofBatch (.ofVisits visits) site.environment.policy ∧
      (answer = .ok () → ∃ outcome, result = .ok outcome) := by
  cases h with
  | refused fault hset => cases hcall
  | nothing hset hempty => cases hcall
  | @ended set _ _ visiting ending hset hempty hvisits hend =>
    rw [callsOf_reported, callsOf_append] at hcall ⊢
    have hending := (List.mem_append.1 hcall).resolve_left fun hmem => by
      have := hvisits.ledger.building _ hmem
      cases this
    exact ⟨set, visiting, hset, hvisits, List.prefix_append _ _, hend.of_publish hending⟩

namespace Phases

variable {files : ChangedFiles} {visits : List Visit}
  {result : Except PublishFault PublishOutcome} {building handing deleting : List Call}

theorem filter_isPublish (h : Phases files visits result building handing deleting) :
    (building ++ (handing ++ deleting)).filter Call.isPublish = handing := by
  rw [List.filter_append, List.filter_append,
    Call.filter_isPublish_of_isBuilding h.ledger.building,
    Call.filter_isPublish_of_isDelete h.ending.deletes]
  rcases h.ending.once with rfl | ⟨-, request, answer, rfl⟩ <;> rfl

theorem pairwise (h : Phases files visits result building handing deleting) :
    (building ++ (handing ++ deleting)).Pairwise
      fun call later => call.isPublish = true → later.isDelete = true := by
  have hbuilding : ∀ call ∈ building, ∀ later : Call,
      call.isPublish = true → later.isDelete = true := by
    intro call hcall _ hpublish
    rw [Call.isPublish_of_isBuilding (h.ledger.building call hcall)] at hpublish
    cases hpublish
  exact List.pairwise_append.2 ⟨List.pairwise_of_forall_mem_list fun call hcall later _ =>
    hbuilding call hcall later, h.ending.pairwise, fun call hcall later _ =>
    hbuilding call hcall later⟩

theorem storedKeys_eq (h : Phases files visits result building handing deleting) :
    Call.storedKeys (building ++ (handing ++ deleting)) = Call.storedKeys building := by
  rw [Call.storedKeys_append, h.ending.storedKeys_eq_nil, List.append_nil]

theorem deletedKeys_of_error {fault : PublishFault}
    (h : Phases files visits (.error fault) building handing deleting) :
    Call.deletedKeys (building ++ (handing ++ deleting)) = Call.storedKeys building := by
  rw [Call.deletedKeys_append, Call.deletedKeys_of_isBuilding h.ledger.building,
    h.ending.deletedKeys_eq, h.ending.undone fault rfl, h.ledger.stored]
  rfl

theorem isDelete_of_ok {outcome : PublishOutcome}
    (h : Phases files visits (.ok outcome) building handing deleting) :
    ∀ call ∈ building ++ (handing ++ deleting), call.isDelete = false := by
  intro call hcall
  rw [h.ending.kept outcome rfl, List.append_nil] at hcall
  rcases List.mem_append.1 hcall with hcall | hcall
  · exact Call.isDelete_of_isBuilding (h.ledger.building call hcall)
  · rcases h.ending.once with rfl | ⟨-, request, answer, rfl⟩
    · cases hcall
    · rw [List.mem_singleton.1 hcall]
      rfl

end Phases

/-- **Puts and deletes balance, and rows are handed over once at most.**  Whatever the services
answer: rows are handed over only when every change has been visited and none has failed of a fault
that concerns more than its release, and afterwards nothing but deletes follows.  A run that fails
has asked to delete exactly the packages that it has stored, each once and in the same order; any
other run deletes nothing. -/
theorem publish_balance (site : BuildSite σ) (files : ChangedFiles) (world : σ) :
    let run := publish site files (.start world)
    let calls := run.2.calls
    let visits := (site.visitsOf files (.start world)).1
    (calls.filter Call.isPublish).length ≤ 1 ∧
    ((∃ call ∈ calls, call.isPublish = true) → ∃ set, ChangeSet.ofFiles files = .ok set ∧
      visits.map (·.change) = set.agenda ∧
      ∀ visit ∈ visits, ∀ fault, visit.result = .error fault → fault.isReleaseScoped = true) ∧
    calls.Pairwise (fun call later => call.isPublish = true → later.isDelete = true) ∧
    (∀ fault, run.1 = .error fault →
      Call.deletedKeys calls = Call.storedKeys calls ∧ (Call.storedKeys calls).Nodup) ∧
    (∀ outcome, run.1 = .ok outcome → ∀ call ∈ calls, call.isDelete = false) := by
  obtain ⟨building, handing, deleting, hcalls, hphases⟩ := publish_phases site files world
  simp only [hcalls]
  refine ⟨?_, ?_, hphases.pairwise, ?_, ?_⟩
  · rw [hphases.filter_isPublish]
    rcases hphases.ending.once with rfl | ⟨-, request, answer, rfl⟩
    · exact Nat.zero_le 1
    · exact Nat.le_refl 1
  · rintro ⟨call, hcall, hpublish⟩
    have hmem := List.mem_filter.2 ⟨hcall, hpublish⟩
    rw [hphases.filter_isPublish] at hmem
    have hne : handing ≠ [] := List.ne_nil_of_mem hmem
    obtain ⟨set, hset, hchanges⟩ := hphases.visited hne
    obtain ⟨hnone, -⟩ := hphases.ending.once.resolve_left hne
    refine ⟨set, hset, hchanges, fun visit hvisit fault hfault => ?_⟩
    have hscope := List.findSome?_eq_none_iff.1 hnone visit hvisit
    by_cases h : fault.isReleaseScoped = true
    · exact h
    · rw [Visit.fault?_eq_some hfault (Bool.eq_false_iff.2 h)] at hscope
      cases hscope
  · intro fault hfault
    rw [hfault] at hphases
    rw [hphases.deletedKeys_of_error, hphases.storedKeys_eq]
    exact ⟨rfl, hphases.nodup⟩
  · intro outcome hok
    rw [hok] at hphases
    exact hphases.isDelete_of_ok

end ConnectorCatalog
