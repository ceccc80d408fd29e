import ConnectorCatalog.Identity
import ConnectorCatalog.Proofs.Text.Order
import ConnectorCatalog.Proofs.Text.Segment

/-!
# Connectors and releases are known by their texts

Identities are ordered totally.  The public id of a logo is put together with a hyphen, which
namespaces and names may hold themselves; so different connectors can have one public id
(`logoPublicId_eq_iff`).

The key of a package is cut at its slashes into the parts of the release (`segments_packageKey`), so
different releases whose parts hold no slash have different keys (`packageKey_injective`).
-/

namespace ConnectorCatalog

open Std Text

namespace Identity

instance : TransCmp compare :=
  have := transCmp_on Identity.ns compareTexts
  have := transCmp_on Identity.name compareTexts
  inferInstanceAs (TransCmp (compareLex (fun a b : Identity => compareTexts a.ns b.ns)
    fun a b => compareTexts a.name b.name))

instance : LawfulEqCmp compare where
  compare_self := ReflCmp.compare_self
  eq_of_compare {a b} h := by
    obtain ⟨ns, name⟩ := a
    obtain ⟨ns', name'⟩ := b
    simp only [compare, Ordering.then_eq_eq, LawfulEqCmp.compare_eq_iff_eq] at h
    rw [h.1, h.2]

/-! ### Public ids of logos -/

/-- The namespace of `b` reaches over the hyphen into the name of `a`. -/
def Overlaps (a b : Identity) : Prop :=
  ∃ middle, b.ns = a.ns ++ "-" ++ middle ∧ a.name = middle ++ "-" ++ b.name

variable {a b : Identity}

theorem Overlaps.logoPublicId_eq (h : a.Overlaps b) : a.logoPublicId = b.logoPublicId := by
  obtain ⟨middle, hns, hname⟩ := h
  rw [logoPublicId, logoPublicId, hns, hname]
  simp only [String.append_assoc]

/-- Two ways to cut a public id leave the same parts, or move a piece from one to the other. -/
theorem eq_or_overlaps {more : List Char} (hns : b.ns.toList = a.ns.toList ++ more)
    (hname : '-' :: a.name.toList = more ++ '-' :: b.name.toList) : a = b ∨ a.Overlaps b := by
  cases more with
  | nil =>
    left
    have hns : a.ns = b.ns := String.toList_injective (by simp [hns])
    have hname : a.name = b.name := String.toList_injective (List.cons.inj hname).2
    cases a
    cases b
    cases hns
    cases hname
    rfl
  | cons hyphen middle =>
    right
    obtain ⟨rfl, htail⟩ := List.cons.inj hname
    have htail : a.name.toList = middle ++ '-' :: b.name.toList := htail
    refine ⟨String.ofList middle, ?_, ?_⟩ <;> apply String.toList_injective
    · simp [hns]
    · simp [htail]

/-- **A public id does not tell which of its hyphens ends the namespace.** -/
theorem logoPublicId_eq_iff :
    a.logoPublicId = b.logoPublicId ↔ a = b ∨ a.Overlaps b ∨ b.Overlaps a := by
  constructor
  · intro h
    have hchars : a.ns.toList ++ '-' :: a.name.toList = b.ns.toList ++ '-' :: b.name.toList := by
      simpa [logoPublicId] using congrArg String.toList h
    rcases List.append_eq_append_iff.1 hchars with ⟨more, hns, hname⟩ | ⟨more, hns, hname⟩
    · exact (eq_or_overlaps hns hname).imp_right .inl
    · exact (eq_or_overlaps hns hname).imp Eq.symm .inr
  · rintro (rfl | h | h)
    · rfl
    · exact h.logoPublicId_eq
    · exact h.logoPublicId_eq.symm

end Identity

namespace ReleaseId

/-- The release has parts without slashes. -/
structure IsPlain (r : ReleaseId) : Prop where
  ns : IsSegment r.connector.ns
  name : IsSegment r.connector.name
  version : IsSegment r.version

theorem segments_packageKey {r : ReleaseId} (h : r.IsPlain) : segments r.packageKey =
    ["packages", r.connector.ns, r.connector.name, r.version, "package.tgz"] := by
  have hkey : r.packageKey = "packages" ++ "/" ++ (r.connector.ns ++ "/" ++
      (r.connector.name ++ "/" ++ (r.version ++ "/" ++ "package.tgz"))) := by
    have hstart : "packages/" = "packages" ++ "/" := by decide
    have hend : "/package.tgz" = "/" ++ "package.tgz" := by decide
    simp only [packageKey, hstart, hend, String.append_assoc]
  rw [hkey, segments_append (by decide), segments_append h.ns, segments_append h.name,
    segments_append h.version, segments_of_isSegment (by decide)]

/-- **Different releases have different packages.** -/
theorem packageKey_injective {r s : ReleaseId} (hr : r.IsPlain) (hs : s.IsPlain)
    (h : r.packageKey = s.packageKey) : r = s := by
  have hseg := congrArg segments h
  rw [segments_packageKey hr, segments_packageKey hs] at hseg
  obtain ⟨⟨ns, name⟩, version⟩ := r
  obtain ⟨⟨ns', name'⟩, version'⟩ := s
  simp only [List.cons.injEq] at hseg
  obtain ⟨-, rfl, rfl, rfl, -⟩ := hseg
  rfl

end ReleaseId

end ConnectorCatalog
