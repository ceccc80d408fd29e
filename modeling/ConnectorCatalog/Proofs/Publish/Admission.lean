import ConnectorCatalog.Preflight.Rules
import ConnectorCatalog.Proofs.Memory
import ConnectorCatalog.Proofs.Publish.Builder
import ConnectorCatalog.Proofs.Text.Blank

/-!
# Validation and publishing agree on packaging descriptors

A validation lists everything that is wrong with a packaging descriptor; a publish run stops at the
first fault, which it finds on its way to the archive.  Both look at the same: the run's fault about
the version is the finding about it (`checkVersion_eq`), and no address is left where the finding is
that there is none.  So **the run asks the archive for exactly those releases whose descriptors are
without finding** (`release_admitted_iff`).
-/

namespace ConnectorCatalog

open Run

/-! ### What is found -/

/-- The fault that a finding about the version of a descriptor is in a publish run. -/
def Finding.versionFault? : Finding → Option ConsistencyFault
  | invalidVersion fault => some (.invalidVersion fault)
  | otherVersion declared directory => some (.otherVersion declared directory)
  | _ => none

theorem Finding.field_of_versionFault? {finding : Finding} {fault : ConsistencyFault}
    (h : finding.versionFault? = some fault) : fault.field = "version" := by
  unfold versionFault? at h
  split at h <;> cases h <;> rfl

namespace PackagingDescriptor

variable {descriptor : PackagingDescriptor} {directory : String}

/-- The first finding about the version of a descriptor, as a fault. -/
def versionFault? (descriptor : PackagingDescriptor) (directory : String) :
    Option ConsistencyFault :=
  (descriptor.findings directory).findSome? Finding.versionFault?

theorem versionFault?_eq (descriptor : PackagingDescriptor) (directory : String) :
    descriptor.versionFault? directory =
      (versionFinding? descriptor.version directory).bind Finding.versionFault? := by
  have huri : (uriFinding? descriptor.uri).toList.findSome? Finding.versionFault? = none := by
    unfold uriFinding?
    split <;> rfl
  rw [versionFault?, findings, List.findSome?_append, huri, Option.or_none]
  cases versionFinding? descriptor.version directory <;> simp

theorem versionFinding?_eq_none (h : descriptor.versionFault? directory = none) :
    versionFinding? descriptor.version directory = none := by
  rw [versionFault?_eq, Option.bind_eq_none_iff] at h
  refine Option.eq_none_iff_forall_ne_some.2 fun finding hfinding => ?_
  have hnone := h finding hfinding
  unfold versionFinding? at hfinding
  split at hfinding
  · cases hfinding
    cases hnone
  · split at hfinding <;> cases hfinding
    cases hnone

theorem findings_eq_nil_iff : descriptor.findings directory = [] ↔
    descriptor.versionFault? directory = none ∧ Text.trim descriptor.uri ≠ "" := by
  have huri : (uriFinding? descriptor.uri).toList = [] ↔ Text.trim descriptor.uri ≠ "" := by
    rw [uriFinding?, ne_eq, Text.trim_eq_empty_iff]
    cases Text.isAllBlank descriptor.uri <;> simp
  constructor
  · intro h
    rw [versionFault?, h]
    rw [findings, List.append_eq_nil_iff] at h
    exact ⟨rfl, huri.1 h.2⟩
  · rintro ⟨hversion, h⟩
    rw [findings, versionFinding?_eq_none hversion, huri.2 h]
    rfl

end PackagingDescriptor

section

variable {release : ReleaseId} {descriptor : PackagingDescriptor}

/-- **A run checks the version of a descriptor as a validation does.** -/
theorem checkVersion_eq (release : ReleaseId) (descriptor : PackagingDescriptor) :
    checkVersion release descriptor.version =
      match descriptor.versionFault? release.version with
      | some fault => .error (.consistency release.connector (some release.version) fault)
      | none => .ok () := by
  rw [PackagingDescriptor.versionFault?_eq, PackagingDescriptor.versionFinding?, checkVersion]
  cases ReleaseVersion.parse descriptor.version with
  | error fault => rfl
  | ok version =>
    by_cases h : descriptor.version = release.version
    · simp [h]
    · simp [h, Finding.versionFault?]

theorem checkVersion_eq_ok_iff : checkVersion release descriptor.version = .ok () ↔
    descriptor.versionFault? release.version = none := by
  rw [checkVersion_eq]
  cases descriptor.versionFault? release.version <;> simp

theorem checkVersion_eq_error_iff {fault : PublishFault} :
    checkVersion release descriptor.version = .error fault ↔
      ∃ found, descriptor.versionFault? release.version = some found ∧
        .consistency release.connector (some release.version) found = fault := by
  rw [checkVersion_eq]
  cases descriptor.versionFault? release.version <;> simp

end

/-! ### What is fetched -/

variable {σ : Type} {actions : List Action} {release : ReleaseId}

theorem ResolveTrace.of_noUri {uri : String} {result : Except PublishFault Resolution}
    (h : ResolveTrace release uri result actions) (huri : Text.trim uri = "") :
    result = .error (.resolution release .noUri) ∧ actions = [] := by
  cases h with
  | noUri _ => exact ⟨rfl, rfl⟩
  | notFetched _ hother => exact absurd huri hother
  | fetched _ hother => exact absurd huri hother

theorem ResolveTrace.of_uri {uri : String} {result : Except PublishFault Resolution}
    (h : ResolveTrace release uri result actions) (huri : Text.trim uri ≠ "") :
    ∃ answer, actions = [.called (.fetch (Text.trim uri) release answer)] := by
  cases h with
  | noUri hnone => exact absurd hnone huri
  | notFetched causes _ => exact ⟨.error causes, rfl⟩
  | fetched fetched _ => exact ⟨.ok fetched, rfl⟩

theorem RowTrace.filter_isFetch {resolved : ResolvedRelease} {isNew : Bool}
    {result : Except PublishFault VersionRow} (h : RowTrace release resolved isNew result actions) :
    (callsOf actions).filter Call.isFetch = [] := by
  cases h <;> rfl

namespace BuildSite

variable {site : BuildSite σ} {path : String} {isNew : Bool} {descriptor : PackagingDescriptor}
  {result : Except PublishFault ReleaseOutcome}

/-- Building the row of a release whose descriptor can be read ends with the check of the version,
or begins with getting hold of the release. -/
theorem ReleaseTrace.begins (h : site.ReleaseTrace release path isNew result actions)
    (hload : PackagingDescriptor.load site.tree (site.locate path) = .ok descriptor) :
    (∃ fault, checkVersion release descriptor.version = .error fault ∧ result = .error fault ∧
      callsOf actions = []) ∨
    ∃ resolution fetch rest, checkVersion release descriptor.version = .ok () ∧
      ResolveTrace release descriptor.uri resolution fetch ∧
      callsOf actions = callsOf fetch ++ rest ∧ rest.filter Call.isFetch = [] ∧
      ∀ fault, resolution = .error fault → result = .error fault ∧ rest = [] := by
  cases h with
  | noDescriptor fault hfault => cases hfault.symm.trans hload
  | misplaced fault hload' hversion =>
    obtain rfl := Except.ok.inj (hload'.symm.trans hload)
    exact .inl ⟨fault, hversion, rfl, rfl⟩
  | unresolved fault hdeclares hfetch =>
    obtain rfl := Except.ok.inj (hdeclares.load.symm.trans hload)
    refine .inr ⟨_, _, [], hdeclares.version, hfetch, (List.append_nil _).symm, rfl, ?_⟩
    rintro _ ⟨⟩
    exact ⟨rfl, rfl⟩
  | skipped generation hdeclares hfetch =>
    obtain rfl := Except.ok.inj (hdeclares.load.symm.trans hload)
    exact .inr ⟨_, _, [], hdeclares.version, hfetch, (List.append_nil _).symm, rfl, nofun⟩
  | noRow fault hdeclares hfetch hrow =>
    obtain rfl := Except.ok.inj (hdeclares.load.symm.trans hload)
    exact .inr ⟨_, _, _, hdeclares.version, hfetch, callsOf_append _ _, hrow.filter_isFetch, nofun⟩
  | built row hdeclares hfetch hrow =>
    obtain rfl := Except.ok.inj (hdeclares.load.symm.trans hload)
    exact .inr ⟨_, _, _, hdeclares.version, hfetch, callsOf_append _ _, hrow.filter_isFetch, nofun⟩

end BuildSite

/-- **A run asks for exactly the releases whose descriptors a validation has nothing to say about.**
Whatever the services answer, of a release whose packaging descriptor can be read:

* if there is no finding, the archive is asked once, for this release at its address without the
  blanks around it;
* otherwise no service is called, and the release fails: of its version, and for the reason that was
  found, if a finding is about the version, and else of having no address. -/
theorem release_admitted_iff (site : BuildSite σ) (release : ReleaseId) (path : String)
    (isNew : Bool) {descriptor : PackagingDescriptor}
    (hload : PackagingDescriptor.load site.tree (site.locate path) = .ok descriptor) :
    Yields site.services (fun result actions =>
      (descriptor.findings release.version = [] ↔ ∃ answer,
        (callsOf actions).filter Call.isFetch =
          [.fetch (Text.trim descriptor.uri) release answer]) ∧
      (descriptor.findings release.version ≠ [] → callsOf actions = [] ∧
        match (descriptor.findings release.version).findSome? Finding.versionFault? with
        | some fault => fault.field = "version" ∧
          result = .error (.consistency release.connector (some release.version) fault)
        | none => ResolutionFault.noUri.field = "uri" ∧
          result = .error (.resolution release .noUri)))
      (site.release release path isNew).run := by
  refine (site.yields_release release path isNew).mono fun result actions h => ?_
  rw [PackagingDescriptor.findings_eq_nil_iff, ← PackagingDescriptor.versionFault?]
  rcases h.begins hload with ⟨fault, hversion, rfl, hcalls⟩ |
    ⟨resolution, fetch, rest, hversion, hfetch, hcalls, hrest, hended⟩
  · -- The version is found to be wrong.
    obtain ⟨found, hfound, rfl⟩ := checkVersion_eq_error_iff.1 hversion
    obtain ⟨finding, -, hfinding⟩ := List.exists_of_findSome?_eq_some hfound
    simp [hcalls, hfound, Finding.field_of_versionFault? hfinding]
  · have hfound := checkVersion_eq_ok_iff.1 hversion
    rw [hfound, hcalls, List.filter_append, hrest, List.append_nil]
    by_cases huri : Text.trim descriptor.uri = ""
    · -- There is no address, so the archive is not asked.
      obtain ⟨rfl, rfl⟩ := hfetch.of_noUri huri
      obtain ⟨rfl, rfl⟩ := hended _ rfl
      exact ⟨by simp [huri], fun _ => ⟨rfl, rfl, rfl⟩⟩
    · obtain ⟨answer, rfl⟩ := hfetch.of_uri huri
      refine ⟨iff_of_true ⟨rfl, huri⟩ ⟨answer, rfl⟩, fun hfindings => ?_⟩
      exact absurd (PackagingDescriptor.findings_eq_nil_iff.2 ⟨hfound, huri⟩) hfindings

section

open Memory

/-- A packaging descriptor with blanks around its address. -/
def paddedDescriptor : PackagingDescriptor where
  version := "v1.0.0"
  uri := " u\n"
  checksum := ⟨"", ""⟩
  sourceHash := ""
  testConfig := ""

/-- A tree that holds the descriptor in the place of the one release. -/
def paddedAddress : BuildSite Store :=
  { oneRelease [] theReleases with
    tree := FileTree.empty.write
      ["repo", "registry", "acme", "db", "releases", "v1.0.0", "connector-packaging.json"]
      (Text.utf8 "\x7b\"version\": \"v1.0.0\", \"uri\": \" u\\n\"\x7d") }

/-- The release is asked for at its address without the blanks around it; in the directory of
another version it is not asked for at all. -/
theorem paddedAddress_admitted :
    PackagingDescriptor.load paddedAddress.tree (paddedAddress.locate thePath) =
      .ok paddedDescriptor ∧
    (paddedDescriptor.findings "v1.0.0" = [] ∧ ∃ answer,
      ((paddedAddress.release theRelease thePath false).run (.start [])).2.calls.filter
        Call.isFetch = [.fetch "u" theRelease answer]) ∧
    (paddedDescriptor.findings "v2.0.0" = [.otherVersion "v1.0.0" "v2.0.0"] ∧
      ((paddedAddress.release ⟨⟨"acme", "db"⟩, "v2.0.0"⟩ thePath false).run (.start [])).1 =
        .error (.consistency ⟨"acme", "db"⟩ (some "v2.0.0") (.otherVersion "v1.0.0" "v2.0.0"))) := by
  have hload : PackagingDescriptor.load paddedAddress.tree (paddedAddress.locate thePath) =
      .ok paddedDescriptor := Except.toOption_eq_some.1 (by decide +kernel)
  have hnone : paddedDescriptor.findings "v1.0.0" = [] := by decide +kernel
  have hother : paddedDescriptor.findings "v2.0.0" = [.otherVersion "v1.0.0" "v2.0.0"] := by
    decide +kernel
  obtain ⟨actions, hlog, -, hadmitted, -⟩ :=
    release_admitted_iff paddedAddress theRelease thePath false hload (.start [])
  obtain ⟨_, -, -, -, hrefused⟩ :=
    release_admitted_iff paddedAddress ⟨⟨"acme", "db"⟩, "v2.0.0"⟩ thePath false hload (.start [])
  refine ⟨hload, ⟨hnone, ?_⟩, hother, ?_⟩
  · obtain ⟨answer, hcalls⟩ := hadmitted.1 hnone
    have htrim : Text.trim paddedDescriptor.uri = "u" := by decide +kernel
    rw [htrim] at hcalls
    exact ⟨answer, by rw [Journal.calls, hlog]; exact hcalls⟩
  · have h := (hrefused (by rw [hother]; exact List.cons_ne_nil _ _)).2
    rw [hother] at h
    exact h.2

end

end ConnectorCatalog
