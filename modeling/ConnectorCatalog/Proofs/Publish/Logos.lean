import ConnectorCatalog.Proofs.Memory
import ConnectorCatalog.Proofs.Publish.Footprint
import ConnectorCatalog.Proofs.Publish.Ledger

/-!
# The logos that a run uploads

A run uploads a logo of its own connector for some of its changes, one after the other
(`BuildSite.Uploaded`).  The uploads of different connectors carry one public id exactly if one
namespace reaches over a hyphen into the other connector's name (`publish_uploads`), and then the
image host keeps the later logo for both connectors.
-/

namespace ConnectorCatalog

variable {σ : Type}

/-- Whether a call uploads a logo. -/
def Call.isUpload : Call → Bool
  | .upload _ _ _ _ => true
  | _ => false

/-- The public id that a call uploads a logo under. -/
def Call.publicId? : Call → Option String
  | .upload _ publicId _ _ => some publicId
  | _ => none

namespace BuildSite

variable (site : BuildSite σ)

/-- A call uploads a logo that is read for a change. -/
def UploadsFor (change : Change) (call : Call) : Prop :=
  ∃ format content answer, .logo format ∈ change.kind.items ∧
    site.tree.readBytes (site.pathOf change.connector (.logo format)) = .ok content ∧
    call = .upload content change.connector.logoPublicId format answer

/-- The uploads among calls are made for some of the changes, one after the other. -/
def Uploaded (changes : List Change) (calls : List Call) : Prop :=
  ∃ uploading : List Change, uploading.Sublist changes ∧
    List.Forall₂ site.UploadsFor uploading (calls.filter Call.isUpload)

variable {site} {changes more : List Change} {calls rest : List Call}

theorem Uploaded.none (h : calls.filter Call.isUpload = []) : site.Uploaded changes calls :=
  ⟨[], List.nil_sublist _, by rw [h]; exact .nil⟩

theorem Uploaded.append (h : site.Uploaded changes calls) (hmore : site.Uploaded more rest) :
    site.Uploaded (changes ++ more) (calls ++ rest) := by
  obtain ⟨uploading, hsublist, huploads⟩ := h
  obtain ⟨later, hsublist', huploads'⟩ := hmore
  refine ⟨uploading ++ later, hsublist.append hsublist', ?_⟩
  rw [List.filter_append]
  exact List.rel_append huploads huploads'

theorem Uploaded.mono (h : site.Uploaded changes calls) (hsublist : changes.Sublist more) :
    site.Uploaded more calls := by
  obtain ⟨uploading, huploading, huploads⟩ := h
  exact ⟨uploading, huploading.trans hsublist, huploads⟩

end BuildSite

/-! ### Builders -/

variable {actions : List Action}

theorem ResolveTrace.filter_isUpload {release : ReleaseId} {uri : String}
    {result : Except PublishFault Resolution} (h : ResolveTrace release uri result actions) :
    (callsOf actions).filter Call.isUpload = [] := by
  cases h <;> rfl

theorem RowTrace.filter_isUpload {release : ReleaseId} {resolved : ResolvedRelease} {isNew : Bool}
    {result : Except PublishFault VersionRow} (h : RowTrace release resolved isNew result actions) :
    (callsOf actions).filter Call.isUpload = [] := by
  cases h <;> rfl

namespace BuildSite

variable {site : BuildSite σ}

theorem ReleaseTrace.filter_isUpload {release : ReleaseId} {path : String} {isNew : Bool}
    {result : Except PublishFault ReleaseOutcome}
    (h : site.ReleaseTrace release path isNew result actions) :
    (callsOf actions).filter Call.isUpload = [] := by
  cases h with
  | noDescriptor _ _ => rfl
  | misplaced _ _ _ => rfl
  | unresolved _ _ hfetch => exact hfetch.filter_isUpload
  | skipped _ _ hfetch => exact hfetch.filter_isUpload
  | noRow _ _ hfetch hrow =>
    rw [callsOf_opened, callsOf_append, List.filter_append, hfetch.filter_isUpload,
      hrow.filter_isUpload]
    rfl
  | built _ _ hfetch hrow =>
    rw [callsOf_opened, callsOf_append, List.filter_append, hfetch.filter_isUpload,
      hrow.filter_isUpload]
    rfl

variable {change : Change}

theorem LogoTrace.uploads {format : LogoFormat} {result : Except PublishFault String}
    (h : site.LogoTrace change.connector (site.pathOf change.connector (.logo format)) format result
      actions) (hitem : .logo format ∈ change.kind.items) :
    site.Uploaded [change] (callsOf actions) := by
  cases h with
  | unreadable _ _ => exact .none rfl
  | uploaded content answer hread =>
    exact ⟨[change], .refl _, .cons ⟨format, content, answer, hitem, hread, rfl⟩ .nil⟩

theorem BuildTrace.uploads {isNew : Bool} {result : Except PublishFault Built}
    (h : site.BuildTrace isNew change result actions) (hplaced : change.Placed) :
    site.Uploaded [change] (callsOf actions) := by
  cases h with
  | newConnector hkind h =>
    cases h with
    | logo existing _ hfound _ hlogo =>
      obtain ⟨hitem, rfl⟩ := site.findLogo?_eq_some hplaced hkind hfound
      -- The connector is looked up before its logo is uploaded.
      have hlookup : site.Uploaded [] [.lookup change.connector (.ok existing)] := .none rfl
      rw [openedDocuments, callsOf_append, callsOf_called]
      exact hlookup.append (hlogo.uploads hitem)
    | _ => exact .none rfl
  | modifiedConnector hkind h => cases h <;> exact .none rfl
  | logo hkind h =>
    cases h with
    | logo hlogo =>
      have hitem := change.kind.item_mem_items
      have hpath := site.locate_path hplaced
      rw [hkind] at hitem hpath
      rw [hpath] at hlogo
      exact hlogo.uploads (hkind ▸ hitem)
  | readme hkind h => cases h <;> exact .none rfl
  | release hchange h => exact .none h.filter_isUpload

/-! ### Runs -/

theorem VisitTrace.uploads {isNew : Bool} {visit : Visit}
    (h : site.VisitTrace isNew visit actions) (hplaced : visit.change.Placed) :
    site.Uploaded [visit.change] (callsOf actions) := by
  cases h with
  | intro hbuild =>
    rw [callsOf_reported, callsOf_append, callsOf_map_reported, List.append_nil]
    exact hbuild.uploads hplaced

theorem VisitsTrace.uploads {set : ChangeSet} {changes : List Change} {visits : List Visit}
    (h : site.VisitsTrace set changes visits actions)
    (hplaced : ∀ change ∈ changes, change.Placed) : site.Uploaded changes (callsOf actions) := by
  induction h with
  | nil => exact .none rfl
  | fault visit rest _ hvisit =>
    -- The changes behind the fault are not visited.
    exact (hvisit.uploads (hplaced _ List.mem_cons_self)).mono (by simp)
  | cons visit _ hvisit _ ih =>
    rw [callsOf_append]
    exact (hvisit.uploads (hplaced _ List.mem_cons_self)).append
      (ih fun c hc => hplaced c (List.mem_cons_of_mem _ hc))

end BuildSite

theorem EndTrace.filter_isUpload {policy : ConflictPolicy} {visits : List Visit}
    {result : Except PublishFault PublishOutcome} (h : EndTrace policy visits result actions) :
    (callsOf actions).filter Call.isUpload = [] := by
  obtain ⟨handing, deleting, hcalls, hending⟩ := h.ending
  have hhanding : handing.filter Call.isUpload = [] := by
    obtain rfl | ⟨-, _, _, rfl⟩ := hending.once <;> rfl
  -- After the rows are handed over, packages are deleted and nothing else is done.
  have hdeleting : deleting.filter Call.isUpload = [] := by
    refine List.filter_eq_nil_iff.2 fun call hcall hupload => ?_
    have hdelete := hending.deletes call hcall
    cases call with
    | upload _ _ _ _ => cases hdelete
    | _ => cases hupload
  rw [hcalls, List.filter_append, hhanding, hdeleting, List.append_nil]

theorem BuildSite.PublishTrace.uploads {site : BuildSite σ} {files : ChangedFiles}
    {set : ChangeSet} {visits : List Visit} {result : Except PublishFault PublishOutcome}
    (h : site.PublishTrace files visits result actions) (hset : ChangeSet.ofFiles files = .ok set) :
    site.Uploaded set.agenda (callsOf actions) := by
  cases h with
  | refused _ _ => exact .none rfl
  | nothing _ _ => exact .none rfl
  | ended hset' _ hvisits hend =>
    obtain rfl := Except.ok.inj (hset.symm.trans hset')
    have hplaced : ∀ change ∈ set.agenda, change.Placed := fun c hc =>
      ChangeSet.placed_of_ofFiles hset (set.agenda_sublist.subset hc)
    rw [callsOf_reported, callsOf_append, ← List.append_nil set.agenda]
    exact (hvisits.uploads hplaced).append (.none hend.filter_isUpload)

/-- **The logos of different connectors are uploaded under one public id exactly if one namespace
reaches over a hyphen into the other connector's name.**  The uploads of a run are made for some of
its changes, one after the other; each carries a logo of the connector of its change, and the public
id of this connector.  Such ids agree for the same connector and for connectors that overlap, and for
no others. -/
theorem publish_uploads (site : BuildSite σ) (files : ChangedFiles) (world : σ) {set : ChangeSet}
    (h : ChangeSet.ofFiles files = .ok set) :
    site.Uploaded set.agenda (publish site files (.start world)).2.calls ∧
    ∀ a b : Identity, a.logoPublicId = b.logoPublicId ↔ a = b ∨ a.Overlaps b ∨ b.Overlaps a := by
  refine ⟨?_, fun _ _ => Identity.logoPublicId_eq_iff⟩
  obtain ⟨actions, hcalls, -, htrace⟩ := site.publish_calls files world
  rw [hcalls]
  exact htrace.uploads h

section

open Memory

/-- A diff that modifies the logos of two connectors, whose names meet at different hyphens. -/
def twoLogoFiles : ChangedFiles where
  added := []
  modified := ["registry/a/b-c/logo.png", "registry/a-b/c/logo.png"]
  deleted := []

/-- The changes of the diff. -/
def twoLogoChanges : ChangeSet where
  changes := [⟨⟨"a", "b-c"⟩, .logo .modified .png, "registry/a/b-c/logo.png"⟩,
    ⟨⟨"a-b", "c"⟩, .logo .modified .png, "registry/a-b/c/logo.png"⟩]

/-- The tree with the two logos. -/
def twoLogos : BuildSite Store where
  environment := .production
  repoRoot := "repo"
  tree := (FileTree.empty.write ["repo", "registry", "a", "b-c", "logo.png"] (Text.utf8 "one")).write
    ["repo", "registry", "a-b", "c", "logo.png"] (Text.utf8 "two")
  services := (oneRelease [] []).services

/-- Both connectors are different, and the second logo is uploaded over the first. -/
theorem twoLogos_share_id : ChangeSet.ofFiles twoLogoFiles = .ok twoLogoChanges ∧
    twoLogos.Uploaded twoLogoChanges.agenda
      (publish twoLogos twoLogoFiles (.start [])).2.calls ∧
    (publish twoLogos twoLogoFiles (.start [])).2.calls.filterMap Call.publicId? =
      ["a-b-c", "a-b-c"] ∧
    (⟨"a", "b-c"⟩ : Identity).logoPublicId = (⟨"a-b", "c"⟩ : Identity).logoPublicId := by
  have hset : ChangeSet.ofFiles twoLogoFiles = .ok twoLogoChanges :=
    Except.toOption_eq_some.1 (by decide +kernel)
  obtain ⟨huploads, hids⟩ := publish_uploads twoLogos twoLogoFiles [] hset
  refine ⟨hset, huploads, by decide +kernel, (hids _ _).2 (.inr (.inl ⟨"b", ?_, ?_⟩))⟩ <;> decide

end

end ConnectorCatalog
