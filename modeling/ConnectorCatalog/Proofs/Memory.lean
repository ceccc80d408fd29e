import ConnectorCatalog.Memory
import ConnectorCatalog.Proofs.Keyed
import ConnectorCatalog.Proofs.Steady
import ConnectorCatalog.Proofs.Store
import ConnectorCatalog.Proofs.Text.Order
import ConnectorCatalog.Publish.Build

/-!
# The services in memory

What the services in memory keep under a key is what was put there last (`Memory.stores`), and what
they answer does not depend on what they keep (`Memory.stateless`).

`Memory.oneRelease` is a small registry tree for examples.
-/

namespace ConnectorCatalog.Memory

open Std Text

/-- What is kept under a key. -/
def contents (store : Store) (key : String) : Option String := store.lookup key

variable {store : Store} {key k path : String}

theorem contents_cons (entry : String × String) :
    contents (entry :: store) k = if k = entry.1 then some entry.2 else contents store k := by
  obtain ⟨other, value⟩ := entry
  by_cases h : k = other
  · simp [contents, h]
  · simp [contents, h, List.lookup_cons, beq_eq_false_iff_ne.2 h]

theorem contents_keep :
    contents (keep key path store) k = if k = key then some path else contents store k := by
  have hkeep : keep key path store =
      Keyed.insert (Keyed.byKey compareTexts) (key, path) store := rfl
  rw [contents, hkeep, Keyed.lookup_insert]
  rfl

theorem contents_filter :
    contents (store.filter (·.1 != key)) k = if k = key then none else contents store k := by
  induction store with
  | nil => simp [contents]
  | cons entry rest ih =>
    rw [List.filter_cons]
    by_cases h : entry.1 = key
    · simp only [h, bne_self_eq_false, Bool.false_eq_true, if_false, ih, contents_cons]
      split <;> rfl
    · simp only [bne_iff_ne.2 h, if_true, contents_cons, ih]
      by_cases hk : k = entry.1
      · rw [if_pos hk, if_neg (hk ▸ h), if_pos hk]
      · rw [if_neg hk, if_neg hk]

theorem stores (setup : Setup) : (services setup).Stores contents := by
  intro before after call h
  cases call with
  | put key path result =>
    have h : (services setup).put key path before = (result, after) := h
    simp only [services] at h
    split at h <;> obtain ⟨rfl, rfl⟩ := Prod.mk.inj h
    · rfl
    · exact funext fun k => contents_keep
  | delete key result =>
    have h : (services setup).delete key before = (result, after) := h
    simp only [services] at h
    split at h <;> obtain ⟨rfl, rfl⟩ := Prod.mk.inj h
    · rfl
    · exact funext fun k => contents_filter
  | upload content publicId format result =>
    have h : (services setup).upload content publicId format before = (result, after) := h
    simp only [services] at h
    split at h <;> obtain ⟨-, rfl⟩ := Prod.mk.inj h <;> rfl
  | lookup connector result =>
    have h : (services setup).lookup connector before = (result, after) := h
    simp only [services] at h
    split at h <;> obtain ⟨-, rfl⟩ := Prod.mk.inj h <;> rfl
  | fetch uri release result =>
    obtain ⟨-, rfl⟩ := Prod.mk.inj h
    rfl
  | publish request result =>
    have h : (services setup).publish request before = (result, after) := h
    simp only [services] at h
    split at h <;> obtain ⟨-, rfl⟩ := Prod.mk.inj h <;> rfl

/-- The services in memory answer by the arguments alone. -/
theorem stateless (setup : Setup) : (services setup).Stateless where
  upload _ publicId format _ _ := by
    simp only [services]
    split <;> rfl
  lookup connector _ _ := by
    simp only [services]
    split <;> rfl
  fetch _ _ _ _ := rfl
  put key path _ _ := by
    simp only [services]
    split <;> rfl
  delete key _ _ := by
    simp only [services]
    split <;> rfl
  publish _ _ _ := by
    simp only [services]
    split <;> rfl

/-! ### A tree with one release -/

/-- The one release of the tree. -/
def theRelease : ReleaseId := ⟨⟨"acme", "db"⟩, "v1.0.0"⟩

/-- The packaging file of the release. -/
def thePath : String := "registry/acme/db/releases/v1.0.0/connector-packaging.json"

/-- The diff that adds the release. -/
def theFiles : ChangedFiles := ⟨[thePath], [], []⟩

/-- A tree with one release, whose connector is registered. -/
def oneRelease (publishFailure : Causes) (releases : List (String × String)) : BuildSite Store where
  environment := .production
  repoRoot := "repo"
  tree := FileTree.empty.write
    ["repo", "registry", "acme", "db", "releases", "v1.0.0", "connector-packaging.json"]
    (Text.utf8 "\x7b\"version\": \"v1.0.0\", \"uri\": \"u\"\x7d")
  services := services {
    connectors := [(⟨"acme", "db"⟩, ⟨false⟩)]
    failingLookups := []
    publishFailure
    failingPuts := []
    failingDeletes := []
    imagesFail := false
    releases }

/-- The release can be fetched at its address. -/
def theReleases : List (String × String) :=
  [("u", "packagingDefinition:\n  type: ManagedDockerBuild\n")]

end ConnectorCatalog.Memory
