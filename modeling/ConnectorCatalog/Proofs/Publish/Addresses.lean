import ConnectorCatalog.Proofs.Publish.Consistency
import ConnectorCatalog.Proofs.Storage.Address
import ConnectorCatalog.Proofs.Version.Chars
import ConnectorCatalog.Remote

/-!
# The addresses that a run records

A run records for each of its versions the address under which the store says that its package is
found.  The package is put and deleted at an address that names it by bucket and key; **the recorded
address names it only if nothing in the bucket, the namespace and the name of the connector needs to
be escaped** (`recorded_addresses`): nothing in the name of a release ever does.
-/

namespace ConnectorCatalog

open Text
open Http (Network)

variable {σ : Type}

/-! ### Keys -/

open Address

/-- The name of a release stands for itself in a path. -/
theorem ReleaseVersion.isLiteral_of_parse {text : String} {version : Version}
    (h : parse text = .ok version) : IsLiteral text := by
  have hchars : ∀ c ∈ text.toList, endsPath c = false ∧ c ≠ '%' := by
    intro c hc
    have hchar := isVersionChar_of_parse h c hc
    constructor
    · rw [← Bool.not_eq_true]
      intro hends
      rcases (Bool.or_eq_true ..).mp hends with hmark | hmark <;>
        · rw [beq_iff_eq.1 hmark] at hchar
          exact absurd hchar (by decide)
    · rintro rfl
      exact absurd hchar (by decide)
  exact ⟨fun c hc => (hchars c hc).1, fun hmem => (hchars '%' hmem).2 rfl⟩

theorem ReleaseId.isLiteral_packageKey (release : ReleaseId) : IsLiteral release.packageKey ↔
    IsLiteral release.connector.ns ∧ IsLiteral release.connector.name ∧
      IsLiteral release.version := by
  have hstart : IsLiteral "packages/" := by decide
  have hslash : IsLiteral "/" := by decide
  have hend : IsLiteral "/package.tgz" := by decide
  rw [packageKey]
  simp only [isLiteral_append, hstart, hslash, hend, true_and, and_true, and_assoc]

/-! ### What the store answers -/

namespace Remote

theorem putFile_fst (storage : StorageClient) (network : Network σ) (now : Moment)
    (key path : String) (machine : Machine σ) :
    (putFile network storage now key path machine).1 =
      match machine.files.readBytes path with
      | .error fault => .error ["Failed to read package: " ++ path, fault.message]
      | .ok content => ((storage.put network now key content).run machine.network).1 := by
  have hrun : putFile network storage now key path machine =
      (match machine.files.readBytes path with
      | .error fault => throw ["Failed to read package: " ++ path, fault.message]
      | .ok content => Archive.onNetwork (storage.put network now key content) :
      Work σ String) machine := rfl
  rw [hrun]
  cases machine.files.readBytes path <;> rfl

theorem put_eq_ok {remote : Remote} {network : Network σ} {now : Moment} {key path url : String}
    {machine : Machine σ}
    (h : ((remote.services network now).put key path machine).1 = .ok url) :
    url = remote.storage.settings.publicUrl key := by
  have hput := putFile_fst remote.storage network now key path machine
  split at hput
  · cases hput.symm.trans h
  · exact StorageClient.put_eq_ok (hput.symm.trans h)

end Remote

/-! ### Runs -/

/-- **Which recorded addresses name their packages.**  Requests go to addresses that name the bucket
and the key, whatever these are.  What the store gives for a key, and what a run then submits with a
version, names the same object exactly if nothing in the bucket and the key needs to be escaped. -/
theorem recorded_addresses (remote : Remote) (network : Network σ) (now : Moment)
    (site : BuildSite (Machine σ)) (hput : site.services.put = (remote.services network now).put)
    {origin : String} (hserved : remote.storage.settings.ServedAt origin) (files : ChangedFiles)
    (machine : Machine σ) :
    let bucket := remote.storage.settings.bucket
    let batch := Batch.ofVisits (site.visitsOf files (.start machine)).1
    (∀ key content,
      objectAt? (remote.storage.putRequest now key content).url = some (bucket, key) ∧
      objectAt? (remote.storage.deleteRequest now key).url = some (bucket, key)) ∧
    (∀ key path machine url, (site.services.put key path machine).1 = .ok url →
      (objectAt? url = some (bucket, key) ↔
        IsSegment bucket ∧ IsLiteral bucket ∧ IsLiteral key)) ∧
    (∀ request answer, .publish request answer ∈ (publish site files (.start machine)).2.calls →
      request = .ofBatch batch site.environment.policy ∧
      ∀ row ∈ batch.versions,
        (objectAt? row.packageUrl = some (bucket, row.release.packageKey) ↔
          (IsSegment bucket ∧ IsLiteral bucket) ∧ IsLiteral row.ns ∧ IsLiteral row.name)) := by
  intro bucket batch
  have hanswer : ∀ key path machine url, (site.services.put key path machine).1 = .ok url →
      (objectAt? url = some (bucket, key) ↔
        IsSegment bucket ∧ IsLiteral bucket ∧ IsLiteral key) := by
    intro key path machine url hok
    rw [hput] at hok
    rw [Remote.put_eq_ok hok]
    exact hserved.objectAt?_publicUrl_iff
  refine ⟨fun key content => ⟨hserved.objectAt?_objectUrl key, hserved.objectAt?_objectUrl key⟩,
    hanswer, fun request answer hcall => ?_⟩
  obtain ⟨actions, hcalls, hleads, htrace⟩ := site.publish_calls files machine
  rw [hcalls] at hcall
  obtain ⟨set, visiting, hset, hvisits, hpart, hfault, hrequest, -⟩ := htrace.of_publish hcall
  refine ⟨hrequest, fun row hrow => ?_⟩
  have hgrounded := hvisits.grounded hset hfault hpart.isInfix hrow
  -- The address of the row is what the store has said when the package was put.
  obtain ⟨uri, fetched, info, hmade, -⟩ := hgrounded.stored
  have hmem : .put row.release.packageKey fetched.package (.ok row.packageUrl) ∈ callsOf actions :=
    hmade.subset (by simp)
  obtain ⟨before, after, hstored⟩ := hleads.exists_answers hmem
  -- The name of the release needs no escape.
  obtain ⟨rest, version, htext, hparse⟩ := hgrounded.version
  have hread : ReleaseVersion.parse row.version = .ok version := by
    rw [ReleaseVersion.parse, htext]
    simp only [hparse]
  have hversion : IsLiteral row.version := ReleaseVersion.isLiteral_of_parse hread
  rw [hanswer _ _ _ _ (congrArg Prod.fst hstored), ReleaseId.isLiteral_packageKey, ← and_assoc]
  exact and_congr_right fun _ => and_congr_right fun _ => and_iff_left hversion

section

/-- A network on which every request is answered by an empty document. -/
def quietNetwork : Network Unit := fun _ => return .ok ⟨200, Text.utf8 "\x7b\x7d"⟩

/-- Services on this network. -/
def quietRemote : Remote where
  images := ⟨⟨"images", none⟩, "key", "secret"⟩
  registry := ⟨"https://registry.test", "publisher", "key"⟩
  storage := ⟨⟨"packages", "https://storage.test", "auto", none⟩, "id", "key"⟩
  scratchDir := "scratch"

/-- The packaging file of a release whose namespace is written with a mark that ends a path. -/
def markedPath : String := "registry/a?b/db/releases/v1.0.0/connector-packaging.json"

/-- A machine that holds the release and its package. -/
def markedMachine : Machine Unit where
  files := (FileTree.empty.write
      ["repo", "registry", "a?b", "db", "releases", "v1.0.0", "connector-packaging.json"]
      (Text.utf8 "\x7b\"version\": \"v1.0.0\", \"uri\": \"u\"\x7d"))
    |>.write ["scratch", "package.tgz"] (Text.utf8 "package")
  network := ()

/-- A site where the package is at hand and the connector registered. -/
def markedSite : BuildSite (Machine Unit) where
  environment := .production
  repoRoot := "repo"
  tree := markedMachine.files
  services := { quietRemote.services quietNetwork default with
    lookup := fun _ machine => (.ok (some ⟨false⟩), machine)
    fetch := fun _ _ machine => (.ok ⟨"packagingDefinition:\n  type: ManagedDockerBuild\n",
      "scratch/package.tgz", "scratch"⟩, machine) }

/-- A run submits an address that does not name the package that it has put. -/
theorem recorded_address_astray : ∃ request answer row,
    .publish request answer ∈ (publish markedSite ⟨[markedPath], [], []⟩
      (.start markedMachine)).2.calls ∧
    row ∈ (Batch.ofVisits (markedSite.visitsOf ⟨[markedPath], [], []⟩
      (.start markedMachine)).1).versions ∧
    (∀ content, objectAt? (quietRemote.storage.putRequest default row.release.packageKey
      content).url = some ("packages", row.release.packageKey)) ∧
    objectAt? row.packageUrl ≠ some ("packages", row.release.packageKey) := by
  have hserved : quietRemote.storage.settings.ServedAt "https://storage.test" :=
    ⟨⟨"https", "storage.test", by decide, by decide, by decide, by decide, by decide⟩,
      ⟨0, by decide⟩, rfl⟩
  obtain ⟨hrequests, -, hrows⟩ := recorded_addresses quietRemote quietNetwork default markedSite
    rfl hserved ⟨[markedPath], [], []⟩ markedMachine
  have hany : (publish markedSite ⟨[markedPath], [], []⟩ (.start markedMachine)).2.calls.any
      Call.isPublish = true := by decide +kernel
  obtain ⟨call, hcall, hpublish⟩ := List.any_eq_true.1 hany
  obtain ⟨request, answer, rfl⟩ : ∃ request answer, call = .publish request answer := by
    cases call with
    | publish request answer => exact ⟨request, answer, rfl⟩
    | _ => cases hpublish
  have hmarked : (Batch.ofVisits (markedSite.visitsOf ⟨[markedPath], [], []⟩
      (.start markedMachine)).1).versions.any (·.ns == "a?b") = true := by decide +kernel
  obtain ⟨row, hrow, hns⟩ := List.any_eq_true.1 hmarked
  refine ⟨request, answer, row, hcall, hrow, fun content => (hrequests _ content).1, ?_⟩
  intro hnames
  obtain ⟨-, hliteral, -⟩ := ((hrows request answer hcall).2 row hrow).1 hnames
  rw [beq_iff_eq.1 hns] at hliteral
  exact absurd hliteral (by decide)

end

end ConnectorCatalog
