import ConnectorCatalog.Text.Order

/-!
# Texts are ordered totally

The comparisons of texts are total orders: they are transitive, `a` and `b` compare the other way
round as `b` and `a`, and what compares equal is equal.  The facts are instances of the classes of
the standard library, so that its lemmas on comparisons apply:

* `Std.TransCmp` and `Std.LawfulEqCmp` for `Text.compareTexts` and `Text.compareNames`;
* `Text.transCmp_on` for orders by a key.

A list is sorted in one way by such an order (`Text.eq_sortBy`).
-/

namespace ConnectorCatalog

namespace Text

open Std

variable {α β : Type}

/-! ### Orders from orders -/

theorem transCmp_on (key : α → β) (cmp : β → β → Ordering) [TransCmp cmp] :
    TransCmp fun a b => cmp (key a) (key b) where
  eq_swap := OrientedCmp.eq_swap
  isLE_trans := TransCmp.isLE_trans

/-! ### Lists -/

theorem compareLists_eq (cmp : α → α → Ordering) : compareLists cmp = List.compareLex cmp := by
  funext a b
  induction a generalizing b with
  | nil => cases b <;> rfl
  | cons x a ih =>
    cases b with
    | nil => rfl
    | cons y b => rw [List.compareLex_cons_cons, ← ih b]; rfl

instance (cmp : α → α → Ordering) [TransCmp cmp] : TransCmp (compareLists cmp) := by
  rw [compareLists_eq]; infer_instance

instance (cmp : α → α → Ordering) [LawfulEqCmp cmp] : LawfulEqCmp (compareLists cmp) := by
  rw [compareLists_eq]; infer_instance

/-! ### Sorting -/

theorem mem_sortBy {cmp : α → α → Ordering} {l : List α} {a : α} : a ∈ sortBy cmp l ↔ a ∈ l :=
  List.mem_mergeSort

section

variable {cmp : α → α → Ordering} [TransCmp cmp] {l l' : List α}

theorem pairwise_sortBy : (sortBy cmp l).Pairwise fun a b => (cmp a b).isLE = true := by
  have hle : ∀ a b : α, (cmp a b != .gt) = (cmp a b).isLE := fun a b => by
    cases cmp a b <;> rfl
  have hsorted : (sortBy cmp l).Pairwise fun a b => (cmp a b != .gt) = true := by
    refine List.pairwise_mergeSort (fun a b c hab hbc => ?_) (fun a b => ?_) l
    · rw [hle] at hab hbc ⊢
      exact TransCmp.isLE_trans hab hbc
    · have hswap : cmp a b = (cmp b a).swap := OrientedCmp.eq_swap
      rw [hle, hle, hswap]
      cases cmp b a <;> rfl
  exact hsorted.imp fun {a b} h => hle a b ▸ h

/-- Where no two members compare equal, there is one way to sort. -/
theorem eq_sortBy [LawfulEqCmp cmp] (h : l.Perm l')
    (hsorted : l.Pairwise fun a b => (cmp a b).isLE = true) : l = sortBy cmp l' := by
  refine List.Perm.eq_of_pairwise (fun a b _ _ hab hba => ?_) hsorted pairwise_sortBy
    (h.trans (List.mergeSort_perm _ _).symm)
  exact LawfulEqCmp.eq_of_compare (OrientedCmp.isLE_antisymm hab hba)

end

/-! ### Texts -/

instance transCmp_toNat : TransCmp fun c d : Char => Ord.compare c.toNat d.toNat :=
  transCmp_on Char.toNat Ord.compare

instance lawfulEqCmp_toNat : LawfulEqCmp fun c d : Char => Ord.compare c.toNat d.toNat where
  compare_self := ReflCmp.compare_self
  eq_of_compare h := Char.toNat_inj.1 (LawfulEqCmp.eq_of_compare h)

instance : TransCmp compareChars := inferInstanceAs (TransCmp (compareLists _))

instance : LawfulEqCmp compareChars := inferInstanceAs (LawfulEqCmp (compareLists _))

instance : TransCmp compareTexts := transCmp_on String.toList compareChars

instance : LawfulEqCmp compareTexts where
  compare_self := ReflCmp.compare_self
  eq_of_compare {a b} h := by
    have h : compareChars a.toList b.toList = .eq := h
    exact String.toList_injective (LawfulEqCmp.eq_of_compare h)

instance : TransCmp compareNames := inferInstanceAs (TransCmp (compareLists _))

instance : LawfulEqCmp compareNames := inferInstanceAs (LawfulEqCmp (compareLists _))

end Text

end ConnectorCatalog
