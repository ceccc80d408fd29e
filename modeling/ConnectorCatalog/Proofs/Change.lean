import ConnectorCatalog.Proofs.Classify
import ConnectorCatalog.Proofs.Identity
import ConnectorCatalog.Proofs.Keyed
import ConnectorCatalog.Proofs.Version.Order

/-!
# Changes in the order of reports

`Change.compare` is transitive and finds two changes equal exactly if they agree in bucket,
connector and version (`Change.compare_eq_iff`).  In a list that strictly increases every release
and every new connector is there once only (`releases_nodup`, `newConnectors_nodup`), and the
releases strictly increase, too (`releases_sorted`).
-/

namespace ConnectorCatalog

open Std Text

namespace Bucket

theorem rank_injective {a b : Bucket} (h : a.rank = b.rank) : a = b := by
  cases a <;> cases b <;> first | rfl | cases h

end Bucket

/-- The order of releases: by connector, then by version. -/
def ReleaseId.compare (a b : ReleaseId) : Ordering :=
  (Identity.compare a.connector b.connector).then (ReleaseVersion.compare a.version b.version)

namespace Change

/-! ### The order -/

instance : TransCmp compareVersions where
  eq_swap {v w} := by
    cases v <;> cases w <;> simp only [compareVersions, Ordering.swap_lt, Ordering.swap_gt,
      Ordering.swap_eq]
    exact OrientedCmp.eq_swap
  isLE_trans {u v w} huv hvw := by
    cases u <;> cases v <;> cases w <;> simp only [compareVersions] at *
    all_goals first | exact TransCmp.isLE_trans huv hvw | contradiction | rfl

instance : LawfulEqCmp compareVersions where
  compare_self := ReflCmp.compare_self
  eq_of_compare {v w} h := by
    cases v <;> cases w <;> simp only [compareVersions, reduceCtorEq] at h ⊢
    rw [LawfulEqCmp.eq_of_compare h]

instance : TransCmp compare :=
  have := transCmp_on (fun c : Change => c.bucket.rank) Ord.compare
  have := transCmp_on Change.connector Identity.compare
  have := transCmp_on Change.version? compareVersions
  inferInstanceAs (TransCmp (compareLex
    (fun a b : Change => Ord.compare a.bucket.rank b.bucket.rank) <|
    compareLex (fun a b => Identity.compare a.connector b.connector)
    fun a b => compareVersions a.version? b.version?))

/-- Changes compare equal exactly if they ask for the same operation. -/
theorem compare_eq_iff {a b : Change} : compare a b = .eq ↔
    a.bucket = b.bucket ∧ a.connector = b.connector ∧ a.version? = b.version? := by
  simp only [compare, Ordering.then_eq_eq, LawfulEqCmp.compare_eq_iff_eq]
  refine and_congr ?_ Iff.rfl
  constructor
  · intro h
    exact Bucket.rank_injective h
  · intro h
    exact congrArg Bucket.rank h

/-! ### What a change is about -/

/-- The release that a change makes. -/
def release? (c : Change) : Option ReleaseId := c.version?.map (ReleaseId.mk c.connector)

/-- The connector that a change creates. -/
def newConnector? (c : Change) : Option Identity :=
  if c.bucket = .newConnector then some c.connector else none

theorem version?_eq_some {c : Change} {version : String} (h : c.version? = some version) :
    c.kind = .release version := by
  unfold version? ChangeKind.version? at h
  split at h <;> simp_all

theorem release?_eq_some {c : Change} {r : ReleaseId} (h : c.release? = some r) :
    c.kind = .release r.version ∧ c.connector = r.connector := by
  obtain ⟨version, hv, rfl⟩ := Option.map_eq_some_iff.1 h
  exact ⟨version?_eq_some hv, rfl⟩

theorem isSome_release? (c : Change) :
    c.release?.isSome = decide (c.bucket = .newVersion) := by
  obtain ⟨connector, kind, path⟩ := c
  cases kind with
  | metadata origin => cases origin <;> rfl
  | logo origin format => cases origin <;> rfl
  | readme origin => cases origin <;> rfl
  | release version => rfl

theorem release?_eq_none {c : Change} (h : c.bucket ≠ .newVersion) : c.release? = none := by
  rw [← Option.not_isSome_iff_eq_none, isSome_release?]
  simpa using h

theorem bucket_of_release? {c : Change} {r : ReleaseId} (h : c.release? = some r) :
    c.bucket = .newVersion := by
  rw [Change.bucket, (Change.release?_eq_some h).1]
  rfl

theorem release?_congr {a b : Change} (h : compare a b = .eq) : a.release? = b.release? := by
  obtain ⟨-, hconn, hversion⟩ := compare_eq_iff.1 h
  rw [release?, release?, hconn, hversion]

theorem bucket_eq_newConnector {c : Change} :
    c.bucket = .newConnector ↔ c.kind = .metadata .added := by
  rcases c with ⟨connector, kind, path⟩
  cases kind with
  | metadata origin => cases origin <;> simp [bucket, ChangeKind.bucket]
  | logo origin format => cases origin <;> simp [bucket, ChangeKind.bucket]
  | readme origin => cases origin <;> simp [bucket, ChangeKind.bucket]
  | release version => simp [bucket, ChangeKind.bucket]

theorem Placed.isPlain {c : Change} (h : c.Placed) {r : ReleaseId} (hr : c.release? = some r) :
    r.IsPlain := by
  obtain ⟨hkind, hconn⟩ := release?_eq_some hr
  have hseg := h.segments_path
  simp only [hkind, hconn, ChangeKind.item, RegistryItem.segments] at hseg
  have hall : ∀ s ∈ ["registry", r.connector.ns, r.connector.name, "releases", r.version,
      packagingFile], IsSegment s := fun s hs => isSegment_of_mem_segments (hseg ▸ hs)
  exact ⟨hall _ (by simp), hall _ (by simp), hall _ (by simp)⟩

theorem Placed.path_eq {c d : Change} (hc : c.Placed) (hd : d.Placed)
    (hconn : c.connector = d.connector) (hitem : c.kind.item = d.kind.item) : c.path = d.path := by
  apply segments_injective
  rw [hc.segments_path, hd.segments_path, hconn, hitem]

/-! ### Lists that increase -/

variable {changes : List Change}

theorem releases_nodup (h : Keyed.Sorted compare changes) : (changes.filterMap release?).Nodup := by
  refine h.nodup_filterMap fun a b r ha hb => ?_
  obtain ⟨hka, hca⟩ := release?_eq_some ha
  obtain ⟨hkb, hcb⟩ := release?_eq_some hb
  exact compare_eq_iff.2
    ⟨by rw [bucket, bucket, hka, hkb], hca.trans hcb.symm, by rw [version?, version?, hka, hkb]⟩

theorem releases_sorted (h : Keyed.Sorted compare changes) :
    Keyed.Sorted ReleaseId.compare (changes.filterMap release?) := by
  rw [Keyed.Sorted, List.pairwise_filterMap]
  refine h.imp fun {a b} hlt r ha s hb => ?_
  obtain ⟨hka, hca⟩ := release?_eq_some ha
  obtain ⟨hkb, hcb⟩ := release?_eq_some hb
  -- Both stand in one bucket, so the connectors and the versions decide.
  rw [compare, bucket, bucket, version?, version?, hka, hkb, hca, hcb] at hlt
  exact hlt

theorem newConnectors_nodup (h : Keyed.Sorted compare changes) :
    (changes.filterMap newConnector?).Nodup := by
  refine h.nodup_filterMap fun a b connector ha hb => ?_
  simp only [newConnector?, Option.ite_none_right_eq_some, Option.some.injEq] at ha hb
  have hka := bucket_eq_newConnector.1 ha.1
  have hkb := bucket_eq_newConnector.1 hb.1
  exact compare_eq_iff.2
    ⟨ha.1.trans hb.1.symm, ha.2.trans hb.2.symm, by rw [version?, version?, hka, hkb]⟩

end Change

end ConnectorCatalog
