import ConnectorCatalog.Proofs.Memory
import ConnectorCatalog.Proofs.Omission
import ConnectorCatalog.Proofs.Publish.Rows
import ConnectorCatalog.Proofs.Publish.Steady

/-!
# Releases that are left out

A release that a run leaves out, because of its generation or because it cannot be got hold of,
leaves no trace but its own fetch: with services that keep no state, the run would come to the same
and make the same other calls without the packaging file of that release (`publish_without`).
-/

namespace ConnectorCatalog

open Run

variable {σ : Type}

/-- Whether a call fetches a release. -/
def Call.isFetchOf (release : ReleaseId) : Call → Bool
  | .fetch _ fetched _ => fetched = release
  | _ => false

/-- A release that has come to nothing, without giving the run up. -/
inductive LeftOut : Except PublishFault ReleaseOutcome → Prop where
  | skipped (generation : String) : LeftOut (.ok (.skipped generation))
  | failed {fault : PublishFault} : fault.isReleaseScoped = true → LeftOut (.error fault)

instance : DecidablePred LeftOut
  | .ok (.skipped generation) => isTrue (.skipped generation)
  | .ok (.built _) => isFalse nofun
  | .error fault => decidable_of_iff (fault.isReleaseScoped = true) ⟨.failed, fun | .failed h => h⟩

/-- A visit that nothing has come of, without giving the run up. -/
structure Visit.Idle (visit : Visit) : Prop where
  fault : visit.fault? = none
  newConnector : visit.newConnector? = none
  update : visit.update? = none
  version : visit.version? = none

theorem LeftOut.idle {result : Except PublishFault ReleaseOutcome} (h : LeftOut result)
    {change : Change} {release : ReleaseId} (hrelease : change.release? = some release) :
    Visit.Idle ⟨change, result.map .release⟩ := by
  cases h with
  | skipped generation => exact ⟨rfl, rfl, rfl, rfl⟩
  | failed hscope => exact ⟨by simp [Except.map, Visit.fault?, hrelease, hscope], rfl, rfl, rfl⟩

/-! ### What is done for a release that is left out -/

/-- Once a release is at hand, every fault gives the run up. -/
theorem RowTrace.isReleaseScoped_eq_false {release : ReleaseId} {resolved : ResolvedRelease}
    {isNew : Bool} {fault : PublishFault} {actions : List Action}
    (h : RowTrace release resolved isNew (.error fault) actions) :
    fault.isReleaseScoped = false := by
  cases h with
  | @unknown _ _ _ info _ htenancy =>
    cases info with
    | some info => cases htenancy
    | none =>
      cases isNew <;> cases htenancy
      rfl
  | _ => rfl

theorem ResolveTrace.isFetchOf {release : ReleaseId} {uri : String}
    {result : Except PublishFault Resolution} {actions : List Action}
    (h : ResolveTrace release uri result actions) :
    ∀ call ∈ callsOf actions, call.isFetchOf release = true := by
  cases h with
  | noUri => exact fun call hcall => absurd hcall List.not_mem_nil
  | notFetched => simp [Call.isFetchOf]
  | fetched => simp [Call.isFetchOf]

namespace BuildSite

variable {site : BuildSite σ} {release : ReleaseId} {change : Change}

/-- All that is asked for a release that is left out is the release itself. -/
theorem ReleaseTrace.isFetchOf {path : String} {isNew : Bool}
    {result : Except PublishFault ReleaseOutcome} {actions : List Action}
    (h : site.ReleaseTrace release path isNew result actions) (hleft : LeftOut result) :
    ∀ call ∈ callsOf actions, call.isFetchOf release = true := by
  cases h with
  | noDescriptor => simp
  | misplaced => simp
  | unresolved fault hdecl hfetch => exact hfetch.isFetchOf
  | skipped generation hdecl hfetch => exact hfetch.isFetchOf
  | noRow fault hdecl hfetch hrow =>
    cases hleft with
    | failed hscope => exact absurd hscope (by simp [hrow.isReleaseScoped_eq_false])
  | built => cases hleft

/-! ### Leaving visits out -/

variable {set : ChangeSet} {wanted : Change → Bool} {counts : Call → Bool}

/-- A release that is left out does not change how the others are visited. -/
theorem visits_without (changes : List Change) :
    site.visits (set.without release) changes = site.visits set changes := by
  induction changes with
  | nil => rfl
  | cons change rest ih => simp only [visits, ChangeSet.isNewConnector_without, ih]

theorem does_visits_of_fault {visit : Visit} {actions : List Action} (hfault : visit.fault?.isSome)
    (hvisit : Does (site.visit (set.isNewConnector visit.change.connector) visit.change) visit
      actions)
    (rest : List Change) : Does (site.visits set (visit.change :: rest)) [visit] actions := by
  rw [← List.append_nil actions]
  refine hvisit.bind ?_
  rw [if_pos hfault]
  exact .pure _

theorem does_visits_cons {visit : Visit} {visits : List Visit} {rest : List Change}
    {actions more : List Action} (hfault : visit.fault? = none)
    (hvisit : Does (site.visit (set.isNewConnector visit.change.connector) visit.change) visit
      actions)
    (hrest : Does (site.visits set rest) visits more) :
    Does (site.visits set (visit.change :: rest)) (visit :: visits) (actions ++ more) := by
  refine hvisit.bind ?_
  rw [if_neg (by simp [hfault])]
  exact hrest.map (visit :: ·)

variable [Nonempty σ] (h : site.services.Stateless)

include h

/-- A visit to a release that is left out comes to nothing, and fetches that release at most. -/
theorem does_visit_of_leftOut (isNew : Bool) (hrelease : change.release? = some release)
    {journal : Journal σ}
    (hleft : LeftOut ((site.release release change.path isNew).run journal).1) :
    ∃ visit actions, Does (site.visit isNew change) visit actions ∧ visit.change = change ∧
      visit.Idle ∧ (callsOf actions).filter (!·.isFetchOf release) = [] := by
  -- What is known from one journal holds from every other.
  obtain ⟨result, actions, hdoes⟩ := steady_release h release change.path isNew
  obtain ⟨actions', hlog, -, htrace⟩ := site.yields_release release change.path isNew journal
  obtain ⟨hresult, rfl⟩ := hdoes.eq hlog
  rw [hresult] at hleft htrace
  have hbuild : Does (site.build isNew change).run (result.map .release) actions := by
    obtain ⟨connector, kind, path⟩ := change
    obtain ⟨rfl, rfl⟩ := Change.release?_eq_some hrelease
    exact hdoes.mapTask Built.release
  let visit : Visit := ⟨change, result.map .release⟩
  refine ⟨visit, _, (Does.note _).bind (hbuild.bind ((Does.reports visit.events).bind (.pure _))),
    rfl, hleft.idle hrelease, ?_⟩
  have hcalls := htrace.isFetchOf hleft
  simpa [List.filter_eq_nil_iff] using hcalls

theorem does_visit (set : ChangeSet) (change : Change) : ∃ visit actions, visit.change = change ∧
    Does (site.visit (set.isNewConnector visit.change.connector) visit.change) visit actions := by
  obtain ⟨visit, actions, hvisit⟩ := steady_visit h (set.isNewConnector change.connector) change
  obtain ⟨world⟩ := ‹Nonempty σ›
  have hchange : visit.change = change := by
    rw [← (hvisit (.start world)).1]
    rfl
  subst hchange
  exact ⟨visit, actions, rfl, hvisit⟩

/-- If visits to the changes that are not wanted come to nothing and make no call that counts, then
the others are visited as without them. -/
theorem does_visits_filter {changes : List Change} (hidle : ∀ change ∈ changes,
      wanted change = false → ∃ visit actions,
        Does (site.visit (set.isNewConnector change.connector) change) visit actions ∧
        visit.change = change ∧ visit.Idle ∧ (callsOf actions).filter counts = []) :
    ∃ visits actions actions', Does (site.visits set changes) visits actions ∧
      Does (site.visits set (changes.filter wanted)) (visits.filter (wanted ·.change)) actions' ∧
      (callsOf actions').filter counts = (callsOf actions).filter counts ∧
      ∀ visit ∈ visits, wanted visit.change = false → visit.Idle := by
  induction changes with
  | nil => exact ⟨[], [], [], .pure _, .pure _, rfl, fun _ hvisit => nomatch hvisit⟩
  | cons change rest ih =>
    obtain ⟨visits, actions, actions', hrest, hrest', hcalls, hvisits⟩ :=
      ih fun c hc => hidle c (List.mem_cons_of_mem _ hc)
    cases hwanted : wanted change with
    | false =>
      -- Only the run over all changes comes by here, and goes on.
      obtain ⟨visit, visiting, hvisit, rfl, hnothing, hnone⟩ :=
        hidle change List.mem_cons_self hwanted
      refine ⟨visit :: visits, visiting ++ actions, actions',
        does_visits_cons hnothing.fault hvisit hrest, ?_, ?_, ?_⟩
      · simpa [hwanted] using hrest'
      · simp [hnone, hcalls]
      · exact List.forall_mem_cons.2 ⟨fun _ => hnothing, hvisits⟩
    | true =>
      obtain ⟨visit, visiting, rfl, hvisit⟩ := does_visit h set change
      have hhead : wanted visit.change = false → visit.Idle := by simp [hwanted]
      have hkeep (visits : List Visit) : (visit :: visits).filter (wanted ·.change) =
          visit :: visits.filter (wanted ·.change) := List.filter_cons_of_pos hwanted
      by_cases hfault : visit.fault?.isSome
      · -- Both runs are given up here.
        refine ⟨[visit], visiting, visiting, does_visits_of_fault hfault hvisit rest, ?_, rfl,
          List.forall_mem_singleton.2 hhead⟩
        rw [List.filter_cons_of_pos hwanted, hkeep]
        exact does_visits_of_fault hfault hvisit _
      · have hfault := Option.not_isSome_iff_eq_none.1 hfault
        refine ⟨visit :: visits, visiting ++ actions, visiting ++ actions',
          does_visits_cons hfault hvisit hrest, ?_, ?_, List.forall_mem_cons.2 ⟨hhead, hvisits⟩⟩
        · rw [List.filter_cons_of_pos hwanted, hkeep]
          exact does_visits_cons hfault hvisit hrest'
        · simp [hcalls]

end BuildSite

/-! ### Ending without them -/

/-- The outcome without a release that is left out. -/
def PublishOutcome.without (o : PublishOutcome) (release : ReleaseId) : PublishOutcome :=
  { o with
    skipped := o.skipped.filter (·.release != release)
    failed := o.failed.filter (·.release != release) }

/-- The collection without a release that is left out. -/
def Collection.without (c : Collection) (release : ReleaseId) : Collection :=
  { c with
    skipped := c.skipped.filter (·.release != release)
    failed := c.failed.filter (·.release != release) }

theorem submit_without (services : Services σ) (c : Collection) (release : ReleaseId) :
    submit services (c.without release) = do
      return Except.map (·.without release) (← submit services c) := by
  unfold submit
  simp only [bind_assoc]
  refine bind_congr fun _ => bind_congr fun answer => ?_
  obtain ⟨_ | report, ⟨state, policy, batch, cleanup⟩⟩ := answer
  · cases cleanup <;> rfl
  · rfl

section

variable {α : Type} {visits : List Visit} {release : ReleaseId}

theorem filterMap_filter_release {f : Visit → Option α} {releaseOf : α → ReleaseId}
    (h : ∀ {visit a}, f visit = some a → visit.change.release? = some (releaseOf a)) :
    (visits.filter (·.change.release? != some release)).filterMap f =
      (visits.filterMap f).filter (releaseOf · != release) := by
  rw [List.filterMap_filter, List.filter_filterMap]
  congr 1
  funext visit
  cases hf : f visit with
  | none => simp
  | some a =>
    rw [h hf]
    by_cases hsame : releaseOf a = release <;> simp [hsame, Option.filter]

variable (hidle : ∀ visit ∈ visits, (visit.change.release? != some release) = false → visit.Idle)

include hidle

theorem Collection.ofVisits_without (policy : ConflictPolicy) :
    ofVisits policy (visits.filter (·.change.release? != some release)) =
      (ofVisits policy visits).without release := by
  have hconnectors := filterMap_filter_of_none fun visit hv hp => (hidle visit hv hp).newConnector
  have hupdates := filterMap_filter_of_none fun visit hv hp => (hidle visit hv hp).update
  have hversions := filterMap_filter_of_none fun visit hv hp => (hidle visit hv hp).version
  rw [ofVisits, Batch.ofVisits, hconnectors, hupdates, hversions,
    filterMap_filter_release Visit.release?_of_skipped?,
    filterMap_filter_release Visit.release?_of_failed?]
  rfl

/-- Without visits that nothing has come of, a run ends alike. -/
theorem BuildSite.finish_without (site : BuildSite σ) :
    site.finish (visits.filter (·.change.release? != some release)) = do
      return Except.map (·.without release) (← site.finish visits) := by
  have hfaults := filterMap_filter_of_none fun visit hv hp => (hidle visit hv hp).fault
  unfold finish
  rw [← List.head?_filterMap, hfaults, List.head?_filterMap, Collection.ofVisits_without hidle]
  cases visits.findSome? Visit.fault? with
  | none => exact submit_without ..
  | some fault => rfl

end

/-! ### Whole runs -/

theorem Run.Does.calls {α : Type} {run : Run σ α} {a : α} {actions : List Action}
    (h : Does run a actions) (world : σ) : (run (.start world)).2.calls = callsOf actions := by
  rw [Journal.calls, (h _).2]
  rfl

theorem BuildSite.does_finish_nil (site : BuildSite σ) : Does (site.finish []) (.ok .nothing)
    [.reported (Batch.ofVisits []).event, .reported (.committed 0)] :=
  (Does.note _).bind ((Does.pure _).bind ((Does.note _).bind (.pure _)))

/-- What a run over a change set comes to, and its calls, are those of its visits and its end. -/
theorem BuildSite.does_publishChanges [Nonempty σ] {site : BuildSite σ} {set : ChangeSet}
    {visits : List Visit} {result : Except PublishFault PublishOutcome}
    {visiting ending : List Action} (hvisits : Does (site.visits set set.agenda) visits visiting)
    (hend : Does (site.finish visits) result ending) :
    ∃ actions, Does (publishChanges site set) result actions ∧
      callsOf actions = callsOf visiting ++ callsOf ending := by
  rw [publishChanges_eq]
  by_cases hempty : set.isEmpty
  · -- There is nothing to visit, and a run that went on would come to the same.
    have hagenda : set.agenda = [] := by
      rw [ChangeSet.agenda, List.isEmpty_iff.1 hempty, List.filter_nil]
    rw [hagenda] at hvisits
    obtain ⟨rfl, rfl⟩ := (Does.pure []).unique hvisits
    obtain ⟨rfl, rfl⟩ := site.does_finish_nil.unique hend
    rw [if_pos hempty]
    exact ⟨_, (Does.note _).bind (.pure _), rfl⟩
  · rw [if_neg hempty]
    exact ⟨_, (Does.note _).bind (hvisits.bind hend), by simp⟩

/-- **A release that is left out leaves the others alone.**  With services that keep no state, a run
whose diff lacks the packaging file of a release that would be left out comes to the same but for
the mention of that release, and makes the same calls in the same order but for its fetch. -/
theorem publish_without {site : BuildSite σ} (hstateless : site.services.Stateless)
    {files : ChangedFiles} {set : ChangeSet} (hset : ChangeSet.ofFiles files = .ok set)
    {change : Change} (hchange : change ∈ set.changes) {release : ReleaseId}
    (hrelease : change.release? = some release) {journal : Journal σ}
    (hleft : LeftOut ((site.release release change.path
      (set.isNewConnector release.connector)).run journal).1) (world : σ) :
    let whole := publish site files (.start world)
    let rest := publish site (files.without change.path) (.start world)
    rest.1 = whole.1.map (·.without release) ∧
      rest.2.calls.filter (!·.isFetchOf release) = whole.2.calls.filter (!·.isFetchOf release) := by
  have : Nonempty σ := ⟨world⟩
  -- The only change that is left out is the given one.
  have hidle : ∀ c ∈ set.agenda, (c.release? != some release) = false → ∃ visit actions,
      Does (site.visit (set.isNewConnector c.connector) c) visit actions ∧ visit.change = c ∧
        visit.Idle ∧ (callsOf actions).filter (!·.isFetchOf release) = [] := by
    intro c hc hsame
    have hmem : c ∈ set.changes := (List.mem_filter.1 hc).1
    have hsame : c.release? = some release := by simpa using hsame
    obtain rfl := ChangeSet.eq_of_release?_eq hset hmem hchange hrelease hsame
    rw [(Change.release?_eq_some hrelease).2]
    exact BuildSite.does_visit_of_leftOut hstateless _ hrelease hleft
  obtain ⟨visits, actions, actions', hvisits, hvisits', hcalls, hnothing⟩ :=
    BuildSite.does_visits_filter hstateless hidle
  -- Both runs end by the same visits, but for those that nothing has come of.
  obtain ⟨result, ending, hend⟩ := BuildSite.steady_finish hstateless visits
  have hend' := hend.map (Except.map (·.without release))
  rw [← BuildSite.finish_without hnothing] at hend'
  rw [← ChangeSet.agenda_without, ← BuildSite.visits_without] at hvisits'
  obtain ⟨all, hwhole, hall⟩ := BuildSite.does_publishChanges hvisits hend
  obtain ⟨all', hrest, hall'⟩ := BuildSite.does_publishChanges hvisits' hend'
  have hpublish : publish site files = publishChanges site set := by rw [publish, hset]
  have hpublish' : publish site (files.without change.path) =
      publishChanges site (set.without release) := by
    rw [publish, ChangeSet.ofFiles_without hset hchange hrelease]
  rw [hpublish, hpublish']
  refine ⟨?_, ?_⟩
  · rw [(hrest _).1, (hwhole _).1]
  · rw [hrest.calls, hwhole.calls, hall, hall', List.filter_append, List.filter_append, hcalls]

open Memory

/-- The change that adds the one release of a tree. -/
def theChange : Change := ⟨theRelease.connector, .release theRelease.version, thePath⟩

/-- The run whose only release cannot be fetched comes to what a run without changes comes to. -/
theorem oneRelease_without :
    let whole := publish (oneRelease [] []) theFiles (.start [])
    let rest := publish (oneRelease [] []) (theFiles.without thePath) (.start [])
    whole.2.calls.any (·.isFetchOf theRelease) = true ∧
      rest.1 = whole.1.map (·.without theRelease) ∧
      rest.2.calls.filter (!·.isFetchOf theRelease) =
        whole.2.calls.filter (!·.isFetchOf theRelease) := by
  have hset : ChangeSet.ofFiles theFiles = .ok ⟨[theChange]⟩ :=
    Except.toOption_eq_some.1 (by decide +kernel)
  have hleft : LeftOut (((oneRelease [] []).release theRelease thePath
      (ChangeSet.isNewConnector ⟨[theChange]⟩ theRelease.connector)).run (.start [])).1 := by
    decide +kernel
  have hfetched : (publish (oneRelease [] []) theFiles (.start [])).2.calls.any
      (·.isFetchOf theRelease) = true := by decide +kernel
  have hchange : theChange ∈ [theChange] := List.mem_singleton_self theChange
  exact ⟨hfetched, publish_without (stateless _) hset hchange rfl hleft []⟩

end ConnectorCatalog
