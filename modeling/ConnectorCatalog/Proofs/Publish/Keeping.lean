import ConnectorCatalog.Proofs.Publish.Consistency

/-!
# Builders keep things last

What a builder asks a service to keep, a logo or a package, stays there if the builder then fails.
So it asks last, when nothing else can fail any more (`KeepsLast`): **no builder leaves anything
behind but what the row that it comes to refers to** (`builders_keep_last`).
-/

namespace ConnectorCatalog

open Run

/-- Whether a call asks for something to be kept. -/
def Call.isKeeping : Call → Bool
  | .upload _ _ _ _ | .put _ _ _ => true
  | _ => false

namespace PublishFault

/-- Whether a fault says that a logo was not taken. -/
def isImageUpload : PublishFault → Bool
  | imageUpload _ _ _ => true
  | _ => false

/-- Whether a fault says that a package was not taken. -/
def isStorage : PublishFault → Bool
  | storage _ _ _ => true
  | _ => false

end PublishFault

/-- No call but the last asks for anything to be kept, and no call at all if the result is a fault
other than that of being refused. -/
structure KeepsLast {α : Type} (isRefusal : PublishFault → Bool) (result : Except PublishFault α)
    (calls : List Call) : Prop where
  last : ∀ call ∈ calls.dropLast, call.isKeeping = false
  before : ∀ fault, result = .error fault → isRefusal fault = false →
    ∀ call ∈ calls, call.isKeeping = false

namespace KeepsLast

variable {α β : Type} {isRefusal : PublishFault → Bool} {result : Except PublishFault α}
  {calls more : List Call}

theorem of_nothing (h : ∀ call ∈ calls, call.isKeeping = false) :
    KeepsLast isRefusal result calls :=
  ⟨fun call hcall => h call (List.dropLast_subset calls hcall), fun _ _ _ => h⟩

/-- A single call asks last; if it is refused, that is the fault. -/
theorem of_asked {call : Call} (h : ∀ fault, result = .error fault → isRefusal fault = true) :
    KeepsLast isRefusal result [call] where
  last := by simp
  before fault hfault hother := by
    rw [h fault hfault] at hother
    cases hother

theorem behind (h : ∀ call ∈ calls, call.isKeeping = false) (hmore : KeepsLast isRefusal result more) :
    KeepsLast isRefusal result (calls ++ more) where
  last := by
    rw [List.dropLast_append]
    split
    · exact fun call hcall => h call (List.dropLast_subset calls hcall)
    · exact List.forall_mem_append.2 ⟨h, hmore.last⟩
  before fault hfault hother := List.forall_mem_append.2 ⟨h, hmore.before fault hfault hother⟩

theorem map {f : α → β} (h : KeepsLast isRefusal result calls) :
    KeepsLast isRefusal (result.map f) calls where
  last := h.last
  before fault hfault := by
    cases result with
    | ok a => cases hfault
    | error e => exact h.before fault (congrArg Except.error (Except.error.inj hfault))

end KeepsLast

/-! ### Builders -/

variable {σ : Type} {actions : List Action}

theorem ResolveTrace.not_isKeeping {release : ReleaseId} {uri : String}
    {result : Except PublishFault Resolution} (h : ResolveTrace release uri result actions) :
    ∀ call ∈ callsOf actions, call.isKeeping = false := by
  cases h <;> simp [Call.isKeeping]

theorem RowTrace.keepsLast {release : ReleaseId} {resolved : ResolvedRelease} {isNew : Bool}
    {result : Except PublishFault VersionRow} (h : RowTrace release resolved isNew result actions) :
    KeepsLast PublishFault.isStorage result (callsOf actions) := by
  have hlookup (answer : Except Causes (Option ConnectorInfo)) :
      ∀ call ∈ [Call.lookup release.connector answer], call.isKeeping = false := by
    simp [Call.isKeeping]
  cases h with
  | noPackaging _ _ => exact .of_nothing (by simp)
  | noAnswer causes _ => exact .of_nothing (hlookup (.error causes))
  | @unknown _ _ _ info _ _ => exact .of_nothing (hlookup (.ok info))
  | @notStored causes _ _ info _ _ _ =>
    refine .behind (hlookup (.ok info)) (.of_asked ?_)
    rintro _ ⟨⟩
    rfl
  | @stored url _ _ info _ _ _ =>
    refine .behind (hlookup (.ok info)) (.of_asked ?_)
    rintro _ ⟨⟩

namespace BuildSite

variable {site : BuildSite σ} {connector : Identity} {path : String}

theorem LogoTrace.keepsLast {format : LogoFormat} {result : Except PublishFault String}
    (h : site.LogoTrace connector path format result actions) :
    KeepsLast PublishFault.isImageUpload result (callsOf actions) := by
  cases h with
  | unreadable _ _ => exact .of_nothing (by simp)
  | uploaded content answer _ =>
    refine .of_asked fun fault hfault => ?_
    obtain ⟨causes, -, rfl⟩ := Except.mapError_eq_error.1 hfault
    rfl

theorem NewConnectorTrace.keepsLast {result : Except PublishFault NewConnectorRows}
    (h : site.NewConnectorTrace connector path result actions) :
    KeepsLast PublishFault.isImageUpload result (callsOf actions) := by
  have hlookup (answer : Except Causes (Option ConnectorInfo)) :
      ∀ call ∈ [Call.lookup connector answer], call.isKeeping = false := by
    simp [Call.isKeeping]
  cases h with
  | noMetadata _ _ => exact .of_nothing (by simp)
  | misplaced _ _ _ => exact .of_nothing (by simp)
  | noDocs _ _ _ _ => exact .of_nothing (by simp [openedDocuments])
  | noLogo _ _ => exact .of_nothing (by simp [openedDocuments])
  | noAnswer causes _ _ => exact .of_nothing (hlookup (.error causes))
  | inProduction info _ _ _ => exact .of_nothing (hlookup (.ok (some info)))
  | logo existing _ _ _ hlogo =>
    exact .behind (hlookup (.ok existing)) hlogo.keepsLast.map

theorem ReleaseTrace.keepsLast {release : ReleaseId} {isNew : Bool}
    {result : Except PublishFault ReleaseOutcome}
    (h : site.ReleaseTrace release path isNew result actions) :
    KeepsLast PublishFault.isStorage result (callsOf actions) := by
  cases h with
  | noDescriptor _ _ => exact .of_nothing (by simp)
  | misplaced _ _ _ => exact .of_nothing (by simp)
  | unresolved _ _ hfetch => exact .of_nothing hfetch.not_isKeeping
  | skipped _ _ hfetch => exact .of_nothing hfetch.not_isKeeping
  | noRow fault _ hfetch hrow =>
    rw [callsOf_opened, callsOf_append]
    exact .behind hfetch.not_isKeeping (hrow.keepsLast.map (f := ReleaseOutcome.built))
  | built row _ hfetch hrow =>
    rw [callsOf_opened, callsOf_append]
    exact .behind hfetch.not_isKeeping (hrow.keepsLast.map (f := ReleaseOutcome.built))

theorem ReleaseTrace.calls_of_skipped {release : ReleaseId} {isNew : Bool} {generation : String}
    (h : site.ReleaseTrace release path isNew (.ok (.skipped generation)) actions) :
    ∃ uri fetched, callsOf actions = [.fetch uri release (.ok fetched)] := by
  cases h with
  | @skipped _ descriptor _ _ hfetch =>
    obtain ⟨-, fetched, -, rfl⟩ := hfetch.of_ok
    exact ⟨Text.trim descriptor.uri, fetched, rfl⟩

theorem findLogo?_path {dir logo : String} {format : LogoFormat}
    (h : site.findLogo? dir = some (logo, format)) :
    logo = Path.append dir ("logo." ++ format.extension) := by
  obtain ⟨other, -, hother⟩ := List.exists_of_findSome?_eq_some h
  simp only [Option.ite_none_right_eq_some, Option.some.injEq, Prod.mk.injEq] at hother
  obtain ⟨-, rfl, rfl⟩ := hother
  rfl

end BuildSite

/-- **A builder keeps something outside only as its last step, for the row that it comes to.**
Whatever the services answer:

* for a new connector and for a logo, no call but the last uploads or stores anything, and no call
  does if the builder fails of anything but the upload; where it comes to rows, the last call has
  uploaded the connector's own logo under its public id, and the rows carry the address that it gave;
* for a release, no call but the last uploads or stores anything, and no call does if the builder
  fails of anything but the storage; a release that is skipped has only been fetched; where the
  builder comes to a row, the package that was fetched has been stored under the release's own key,
  and the row carries the address that this gave;
* for other metadata and for documentation no service is called. -/
theorem builders_keep_last {σ : Type} (site : BuildSite σ) :
    (∀ connector path, Yields site.services (fun result actions =>
      KeepsLast PublishFault.isImageUpload result (callsOf actions) ∧
      ∀ rows, result = .ok rows → ∃ existing format content,
        site.tree.readBytes (Path.append (site.connectorDir connector)
          ("logo." ++ format.extension)) = .ok content ∧
        callsOf actions = [.lookup connector (.ok existing),
          .upload content connector.logoPublicId format (.ok rows.overview.logo)])
      (site.newConnector connector path).run) ∧
    (∀ connector path format, Yields site.services (fun result actions =>
      KeepsLast PublishFault.isImageUpload result (callsOf actions) ∧
      ∀ update, result = .ok update → ∃ content url,
        site.tree.readBytes (site.locate path) = .ok content ∧
        callsOf actions = [.upload content connector.logoPublicId format (.ok url)] ∧
        update = .ofConnector connector { OverviewChange.none with logo := some url })
      (site.logo connector path format).run) ∧
    (∀ release path isNew, Yields site.services (fun result actions =>
      KeepsLast PublishFault.isStorage result (callsOf actions) ∧
      (∀ generation, result = .ok (.skipped generation) →
        ∃ uri fetched, callsOf actions = [.fetch uri release (.ok fetched)]) ∧
      ∀ row, result = .ok (.built row) → ∃ uri fetched info,
        callsOf actions = [.fetch uri release (.ok fetched),
          .lookup release.connector (.ok info),
          .put release.packageKey fetched.package (.ok row.packageUrl)])
      (site.release release path isNew).run) ∧
    (∀ connector path, Yields site.services (fun _ actions => callsOf actions = [])
      (site.modifiedConnector connector path).run) ∧
    (∀ connector path, Yields site.services (fun _ actions => callsOf actions = [])
      (site.readme connector path).run) := by
  refine ⟨fun connector path => ?_, fun connector path format => ?_, fun release path isNew => ?_,
    fun connector path => ?_, fun connector path => ?_⟩
  · refine (site.yields_newConnector connector path).mono fun result actions h =>
      ⟨h.keepsLast, ?_⟩
    rintro rows rfl
    obtain ⟨existing, logo, format, content, hcalls, hfound, hread, -⟩ := h.calls
    rw [BuildSite.findLogo?_path hfound] at hread
    exact ⟨existing, format, content, hread, hcalls⟩
  · refine (site.yields_logo connector path format).mono fun result actions h => ?_
    cases h with
    | logo hlogo =>
      refine ⟨hlogo.keepsLast.map, fun update hupdate => ?_⟩
      obtain ⟨url, rfl, rfl⟩ := Except.map_eq_ok.1 hupdate
      obtain ⟨content, hread, hcalls⟩ := hlogo.calls
      exact ⟨content, url, hread, hcalls, rfl⟩
  · refine (site.yields_release release path isNew).mono fun result actions h =>
      ⟨h.keepsLast, ?_, ?_⟩
    · rintro generation rfl
      exact h.calls_of_skipped
    · rintro row rfl
      obtain ⟨uri, fetched, info, hcalls, -, -⟩ := h.calls
      exact ⟨uri, fetched, info, hcalls⟩
  · refine (site.yields_modifiedConnector connector path).mono fun result actions h => ?_
    cases h <;> rfl
  · refine (site.yields_readme connector path).mono fun result actions h => ?_
    cases h <;> rfl

end ConnectorCatalog
