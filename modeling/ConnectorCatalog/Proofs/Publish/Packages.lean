import ConnectorCatalog.Proofs.Memory
import ConnectorCatalog.Proofs.Publish.Ledger

/-!
# Packages over several runs

Runs follow one another on one store (`Chain`).  A run that fails deletes what it has stored, also
when it has only replaced what an earlier run had stored and the registry had accepted.

* `Episode.of_removes` : a run removes a package only if it has stored it and failed.
* `package_isSome_iff` : **an accepted package is still there exactly if every later run that
  removed it was followed by one that stored it for good.**
-/

namespace ConnectorCatalog

variable {σ : Type}

/-- A run of a diff in a world. -/
structure Episode (σ : Type) where
  site : BuildSite σ
  files : ChangedFiles
  before : σ

namespace Episode

variable (e : Episode σ)

/-- What the run comes to and the journal that it leaves. -/
def run : Except PublishFault PublishOutcome × Journal σ := publish e.site e.files (.start e.before)

/-- The calls of the run. -/
def calls : List Call := e.run.2.calls

/-- The world that the run leaves. -/
def after : σ := e.run.2.world

/-- The rows that the run builds. -/
def batch : Batch := .ofVisits (e.site.visitsOf e.files (.start e.before)).1

/-- The registry accepts rows of the run, and the row of a version is among them. -/
def Accepts (row : VersionRow) : Prop :=
  .publish (.ofBatch e.batch e.site.environment.policy) (.ok ()) ∈ e.calls ∧
    row ∈ e.batch.versions

/-- The run stores a package. -/
def Stores (key : String) : Prop := key ∈ Call.storedKeys e.calls

/-- The run deletes a package. -/
def Removes (key : String) : Prop := key ∈ Call.removedKeys e.calls

/-- The run stores a package for good. -/
def Keeps (key : String) : Prop := e.Stores key ∧ ¬e.Removes key

variable {e : Episode σ} {key : String} {contents : σ → String → Option String}

theorem contents_after (hstores : e.site.services.Stores contents) :
    contents e.after = Call.effects e.calls (contents e.before) := by
  obtain ⟨actions, hcalls, hleads, -⟩ := e.site.publish_calls e.files e.before
  rw [calls, run, hcalls]
  exact hleads.contents_eq hstores

/-- A run removes a package only if it has stored it and failed. -/
theorem of_removes (h : e.Removes key) : e.Stores key ∧ ∃ fault, e.run.1 = .error fault := by
  obtain ⟨building, handing, deleting, hcalls, hphases⟩ :=
    publish_phases e.site e.files e.before
  have hdelete := Call.mem_removedKeys.1 h
  rw [calls, run, hcalls] at hdelete
  rw [Stores, calls, run, hcalls, hphases.storedKeys_eq]
  generalize (publish e.site e.files (.start e.before)).1 = result at hphases ⊢
  cases result with
  | ok outcome => exact absurd (hphases.isDelete_of_ok _ hdelete) (by simp [Call.isDelete])
  | error fault =>
    rw [← hphases.deletedKeys_of_error]
    exact ⟨List.mem_filterMap.2 ⟨_, hdelete, rfl⟩, fault, rfl⟩

/-- The runs that remove a package are those that have stored it, have failed, and can delete it. -/
theorem removes_iff : e.Removes key ↔
    e.Stores key ∧ (∃ fault, e.run.1 = .error fault) ∧ .delete key (.ok ()) ∈ e.calls := by
  constructor
  · intro h
    obtain ⟨hstores, hfault⟩ := of_removes h
    exact ⟨hstores, hfault, Call.mem_removedKeys.1 h⟩
  · exact fun ⟨_, _, hdelete⟩ => Call.mem_removedKeys.2 hdelete

theorem contents_of_removes (hstores : e.site.services.Stores contents) (h : e.Removes key) :
    contents e.after key = none := by
  obtain ⟨building, handing, deleting, hcalls, hphases⟩ :=
    publish_phases e.site e.files e.before
  have hcalls : e.calls = building ++ (handing ++ deleting) := hcalls
  rw [Removes, hcalls, Call.removedKeys_append] at h
  rw [contents_after hstores, hcalls, Call.effects_append]
  refine Call.effects_eq_none (by simp [hphases.ending.storedKeys_eq_nil])
    ((List.mem_append.1 h).resolve_left fun hmem => ?_)
  have hbuilding := hphases.ledger.building _ (Call.mem_removedKeys.1 hmem)
  cases hbuilding

theorem contents_of_keeps (hstores : e.site.services.Stores contents) (h : e.Keeps key) :
    (contents e.after key).isSome = true := by
  rw [contents_after hstores]
  exact Call.isSome_effects h.1 h.2

theorem contents_of_neither (hstores : e.site.services.Stores contents) (hkeeps : ¬e.Keeps key)
    (hremoves : ¬e.Removes key) : contents e.after key = contents e.before key := by
  rw [contents_after hstores]
  exact Call.effects_of_not_mem (fun h => hkeeps ⟨h, hremoves⟩) hremoves

theorem keeps_of_accepts {row : VersionRow} (h : e.Accepts row) :
    e.Keeps row.release.packageKey := by
  obtain ⟨actions, hcalls, -, htrace⟩ := e.site.publish_calls e.files e.before
  have hcalls : e.calls = callsOf actions := hcalls
  obtain ⟨hpublish, hrow⟩ := h
  rw [hcalls] at hpublish
  obtain ⟨set, visiting, -, hvisits, hpart, -, -, hok⟩ := htrace.of_publish hpublish
  obtain ⟨outcome, hok⟩ := hok rfl
  refine ⟨?_, fun hremoves => ?_⟩
  · have hstored : row.release.packageKey ∈ Call.storedKeys (callsOf visiting) := by
      rw [hvisits.ledger.stored]
      exact List.mem_map.2 ⟨row, hrow, rfl⟩
    rw [Stores, hcalls]
    exact (hpart.filterMap Call.storedKey?).subset hstored
  · -- Only a run that fails removes anything.
    obtain ⟨-, fault, hfault⟩ := of_removes hremoves
    rw [run, hok] at hfault
    cases hfault

/-- Rows that are accepted are the rows of the run. -/
theorem accepts_of_any (haccepted : e.calls.any Call.isAccepted = true) {row : VersionRow}
    (hrow : row ∈ e.batch.versions) : e.Accepts row := by
  obtain ⟨call, hcall, haccepted⟩ := List.any_eq_true.1 haccepted
  obtain ⟨request, rfl⟩ := Call.isAccepted_iff.1 haccepted
  obtain ⟨actions, hcalls, -, htrace⟩ := e.site.publish_calls e.files e.before
  have hcalls : e.calls = callsOf actions := hcalls
  refine ⟨?_, hrow⟩
  rw [hcalls] at hcall ⊢
  obtain ⟨-, -, -, -, -, -, rfl, -⟩ := htrace.of_publish hcall
  exact hcall

end Episode

/-! ### Runs in a row -/

/-- Runs that follow one another, each in the world that the one before has left. -/
inductive Chain : σ → List (Episode σ) → σ → Prop where
  | nil (world : σ) : Chain world [] world
  | cons (e : Episode σ) {rest : List (Episode σ)} {final : σ} :
    Chain e.after rest final → Chain e.before (e :: rest) final

/-- Every run that removes a package is followed by one that stores it for good. -/
def Restored (key : String) : List (Episode σ) → Prop
  | [] => True
  | e :: rest => (e.Removes key → ∃ later ∈ rest, later.Keeps key) ∧ Restored key rest

theorem Chain.of_append {start final : σ} {earlier later : List (Episode σ)} {e : Episode σ}
    (h : Chain start (earlier ++ e :: later) final) : Chain e.after later final := by
  induction earlier generalizing start with
  | nil =>
    cases h with
    | cons _ hrest => exact hrest
  | cons x rest ih =>
    cases h with
    | cons _ hrest => exact ih hrest

/-- What is there in the end was there before or has been stored, and has been restored whenever a
run removed it. -/
theorem Chain.contents_isSome {contents : σ → String → Option String} {start final : σ}
    {runs : List (Episode σ)} (h : Chain start runs final)
    (hstores : ∀ e ∈ runs, e.site.services.Stores contents) (key : String) :
    (contents final key).isSome = true ↔ Restored key runs ∧
      ((contents start key).isSome = true ∨ ∃ e ∈ runs, e.Keeps key) := by
  induction h with
  | nil world => simp [Restored]
  | cons e _ ih =>
    have hrest := ih fun x hx => hstores x (List.mem_cons_of_mem _ hx)
    have he := hstores e List.mem_cons_self
    rw [hrest, Restored]
    -- The first run removes the package, stores it for good, or leaves it as it was.
    by_cases hremoves : e.Removes key
    · have hnone : (contents e.after key).isSome = false := by
        rw [Episode.contents_of_removes he hremoves]
        rfl
      constructor
      · rintro ⟨hrestored, hkept⟩
        obtain ⟨x, hx, hxkeeps⟩ := hkept.resolve_left (by simp [hnone])
        exact ⟨⟨fun _ => ⟨x, hx, hxkeeps⟩, hrestored⟩,
          .inr ⟨x, List.mem_cons_of_mem _ hx, hxkeeps⟩⟩
      · rintro ⟨⟨hkept, hrestored⟩, -⟩
        exact ⟨hrestored, .inr (hkept hremoves)⟩
    · by_cases hkeeps : e.Keeps key
      · simp [Episode.contents_of_keeps he hkeeps, hremoves, hkeeps]
      · simp [Episode.contents_of_neither he hkeeps hremoves, hremoves, hkeeps]

/-- **Which packages are still there.**  After runs in a row, a package whose version the registry
has accepted is there exactly if every later run that removed it was followed by one that stored it
for good.  What removes it are just the runs that have stored it again, have failed, and could
delete it. -/
theorem package_isSome_iff {contents : σ → String → Option String} {start final : σ}
    {earlier later : List (Episode σ)} {e : Episode σ}
    (hchain : Chain start (earlier ++ e :: later) final)
    (hstores : ∀ x ∈ e :: later, x.site.services.Stores contents) {row : VersionRow}
    (haccepts : e.Accepts row) :
    let key := row.release.packageKey
    ((contents final key).isSome = true ↔ Restored key later) ∧
      ∀ x : Episode σ, x.Removes key ↔
        x.Stores key ∧ (∃ fault, x.run.1 = .error fault) ∧ .delete key (.ok ()) ∈ x.calls := by
  have hlater := hchain.of_append.contents_isSome
    (fun x hx => hstores x (List.mem_cons_of_mem _ hx)) row.release.packageKey
  have hstart := Episode.contents_of_keeps (hstores e List.mem_cons_self)
    (Episode.keeps_of_accepts haccepts)
  refine ⟨?_, fun x => Episode.removes_iff⟩
  rw [hlater, hstart]
  simp

/-! ### A package that is lost -/

open Memory

/-- A run that publishes a release. -/
def firstRun : Episode Store := ⟨oneRelease [] theReleases, theFiles, []⟩

/-- The same run again, with a registry that rejects what it has accepted before. -/
def secondRun : Episode Store :=
  ⟨oneRelease ["permission denied"] theReleases, theFiles, firstRun.after⟩

/-- The version that the first run publishes. -/
def theRow : VersionRow where
  ns := "acme"
  name := "db"
  version := "v1.0.0"
  image := none
  packageUrl := objectUrl theRelease.packageKey
  isMultitenant := false
  kind := .managedBuild

theorem firstRun_accepts : firstRun.Accepts theRow := by
  have haccepted : firstRun.calls.any Call.isAccepted = true := by decide +kernel
  have hversions : firstRun.batch.versions = [theRow] := by decide +kernel
  refine Episode.accepts_of_any haccepted ?_
  rw [hversions]
  exact List.mem_singleton_self _

/-- The package of a version that has been accepted is lost with the second run. -/
theorem secondRun_loses_package : firstRun.Accepts theRow ∧
    (contents secondRun.after theRow.release.packageKey).isSome = false := by
  have hsecond : Chain firstRun.after [secondRun] secondRun.after := by
    -- Unfolding the definition alone does not make the first run be computed.
    have hbefore : secondRun.before = firstRun.after := by simp only [secondRun]
    rw [← hbefore]
    exact .cons secondRun (.nil _)
  have hchain : Chain [] ([] ++ firstRun :: [secondRun]) secondRun.after := .cons firstRun hsecond
  have hstores : ∀ x ∈ firstRun :: [secondRun], x.site.services.Stores contents := by
    intro x hx
    rcases List.mem_cons.1 hx with rfl | hx
    · exact stores _
    · rw [List.mem_singleton.1 hx]
      exact stores _
  obtain ⟨hkept, -⟩ := package_isSome_iff hchain hstores firstRun_accepts
  refine ⟨firstRun_accepts, Bool.eq_false_iff.2 fun hsome => ?_⟩
  have hremoved : Call.removedKeys secondRun.calls = [theRow.release.packageKey] := by
    decide +kernel
  have hremoves : secondRun.Removes theRow.release.packageKey := by
    rw [Episode.Removes, hremoved]
    exact List.mem_singleton_self _
  -- No run comes after the second that could store the package again.
  obtain ⟨⟨later, hlater, -⟩, -⟩ := (hkept.1 hsome).imp_left fun h => h hremoves
  cases hlater

end ConnectorCatalog
