import ConnectorCatalog.Proofs.Publish.Run
import ConnectorCatalog.Proofs.Steady

/-!
# Publish runs with services that keep no state

With such services every part of a publish run is steady: building the rows of a change, visiting
it, and ending the run.
-/

namespace ConnectorCatalog

open Run

variable {σ : Type}

namespace BuildSite

variable {site : BuildSite σ}

/-! ### Reading -/

theorem steady_readDocument {α : Type} (noun : String) (parse? : String → Option α)
    (connector : Identity) (path : String) :
    Steady (site.readDocument noun parse? connector path).run := by
  refine ((Steady.note _).bind fun _ => .pure _).perform.bindTask fun content => ?_
  split
  · exact .returnTask _
  · exact .throwTask _

theorem steady_readText (connector : Identity) (path : String) :
    Steady (site.readText connector path).run := by
  refine ((Steady.note _).bind fun _ => .pure _).perform.bindTask fun content => ?_
  split
  · exact .returnTask _
  · exact .throwTask _

theorem steady_readme (connector : Identity) (path : String) :
    Steady (site.readme connector path).run :=
  (steady_readText _ _).bindTask fun _ => .returnTask _

theorem steady_modifiedConnector (connector : Identity) (path : String) :
    Steady (site.modifiedConnector connector path).run := by
  refine (steady_readDocument _ _ _ _).bindTask fun metadata => ?_
  by_cases hempty : (overviewChange metadata.overview).isEmpty
  · simp only [hempty, if_true, Task.throw_bind]
    exact .throwTask _
  · simp only [hempty]
    exact .returnTask _

/-! ### Connectors -/

variable [Nonempty σ] (h : site.services.Stateless)

include h

theorem steady_lookup (connector : Identity) : Steady (site.lookup connector).run :=
  (Steady.call (h.lookup connector)).require

theorem steady_uploadLogo (connector : Identity) (path : String) (format : LogoFormat) :
    Steady (site.uploadLogo connector path format).run := by
  refine ((Steady.note _).bind fun _ => .pure _).perform.bindTask fun content => ?_
  split
  · exact .throwTask _
  · exact (Steady.call (h.upload _ _ _)).require

theorem steady_newConnector (connector : Identity) (path : String) :
    Steady (site.newConnector connector path).run := by
  refine (steady_readDocument _ _ _ _).bindTask fun metadata => ?_
  refine (Steady.liftTask _).bindTask fun _ => ?_
  refine (steady_readText _ _).bindTask fun docs => ?_
  split
  · exact .throwTask _
  · refine (steady_lookup h _).bindTask fun existing => ?_
    by_cases htaken : existing.isSome && site.environment = .production
    · rw [if_pos htaken, Task.throw_bind]
      exact .throwTask _
    · rw [if_neg htaken]
      exact (steady_uploadLogo h _ _ _).bindTask fun _ => .returnTask _

theorem steady_logo (connector : Identity) (path : String) (format : LogoFormat) :
    Steady (site.logo connector path format).run :=
  (steady_uploadLogo h _ _ _).bindTask fun _ => .returnTask _

/-! ### Releases -/

theorem steady_resolveRelease (release : ReleaseId) (uri : String) :
    Steady (resolveRelease site.services release uri).run := by
  unfold resolveRelease
  by_cases huri : Text.trim uri = ""
  · simp only [huri, if_true, Task.throw_bind]
    exact .throwTask _
  · simp only [huri, if_false]
    exact (Steady.call (h.fetch _ _)).require.bindTask fun _ => .liftTask _

theorem steady_versionRow (release : ReleaseId) (resolved : ResolvedRelease) (isNew : Bool) :
    Steady (site.versionRow release resolved isNew).run := by
  unfold versionRow
  split
  · exact .throwTask _
  · refine Steady.bindTask ((steady_lookup h _).bindTask fun info => ?_) fun _ => ?_
    · split
      · exact .returnTask _
      · split
        · exact .returnTask _
        · exact .throwTask _
    · exact (Steady.call (h.put _ _)).require.bindTask fun _ => .returnTask _

theorem steady_release (release : ReleaseId) (path : String) (isNew : Bool) :
    Steady (site.release release path isNew).run := by
  refine (steady_readDocument _ _ _ _).bindTask fun descriptor => ?_
  refine (Steady.liftTask _).bindTask fun _ => ?_
  refine (steady_resolveRelease h _ _).bindTask fun resolution => ?_
  split
  · exact .returnTask _
  · exact (steady_versionRow h _ _ _).bindTask fun _ => .returnTask _

/-! ### Visits -/

theorem steady_build (isNew : Bool) (change : Change) : Steady (site.build isNew change).run := by
  unfold build
  split
  · exact (steady_newConnector h _ _).bindTask fun _ => .returnTask _
  · exact (steady_modifiedConnector _ _).bindTask fun _ => .returnTask _
  · exact (steady_logo h _ _ _).bindTask fun _ => .returnTask _
  · exact (steady_readme _ _).bindTask fun _ => .returnTask _
  · exact (steady_release h _ _ _).bindTask fun _ => .returnTask _

theorem steady_visit (isNew : Bool) (change : Change) : Steady (site.visit isNew change) :=
  (Steady.note _).bind fun _ => (steady_build h isNew change).bind fun _ =>
    (Steady.reports _).bind fun _ => .pure _

end BuildSite

/-! ### Ending -/

namespace Transaction

variable {services : Services σ} [Nonempty σ] (h : services.Stateless)

include h

theorem steady_deletePackages (rows : List VersionRow) :
    Steady (deletePackages services rows) := by
  induction rows with
  | nil => exact .pure _
  | cons row rest ih =>
    refine (Steady.call (h.delete _)).bind fun answer => ?_
    cases answer with
    | ok _ => exact ih.bind fun _ => .pure _
    | error causes => exact ih.bind fun _ => .pure _

theorem steady_rollBack (t : Transaction) : Steady (t.rollBack services) :=
  (steady_deletePackages h _).bind fun _ => .pure _

theorem steady_commit (t : Transaction) : Steady (t.commit services) := by
  unfold commit
  by_cases hopen : t.state ≠ .collecting
  · simp only [if_pos hopen]
    exact .pure _
  by_cases hempty : t.batch.isEmpty
  · simp only [if_neg hopen, if_pos hempty]
    exact .pure _
  · simp only [if_neg hopen, if_neg hempty]
    refine (Steady.call (h.publish _)).bind fun answer => ?_
    cases answer with
    | ok _ => exact .pure _
    | error causes => exact (steady_rollBack h t).bind fun _ => .pure _

theorem steady_abort (t : Transaction) : Steady (t.abort services) := by
  unfold abort
  split
  · exact (steady_rollBack h t).bind fun _ => .pure _
  · exact .pure _

theorem steady_submit (c : Collection) : Steady (submit services c) := by
  refine (Steady.note _).bind fun _ => (steady_commit h _).bind fun answer => ?_
  obtain ⟨_ | report, ⟨state, policy, batch, cleanup⟩⟩ := answer
  · cases cleanup with
    | none => exact .pure _
    | some report => exact (Steady.note _).bind fun _ => .pure _
  · exact (Steady.note _).bind fun _ => .pure _

end Transaction

theorem BuildSite.steady_finish [Nonempty σ] {site : BuildSite σ} (h : site.services.Stateless)
    (visits : List Visit) : Steady (site.finish visits) := by
  unfold finish
  cases visits.findSome? Visit.fault? with
  | none => exact Transaction.steady_submit h _
  | some fault =>
    exact (Transaction.steady_abort h _).bind fun _ => (Steady.note _).bind fun _ => .pure _

end ConnectorCatalog
