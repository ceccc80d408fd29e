import Mathlib.Tactic.SplitIfs
import ConnectorCatalog.Proofs.Text.Order
import ConnectorCatalog.Proofs.Text.Utf8

/-!
# The order of texts is that of their bytes

UTF-8 keeps the order of characters: the bytes of a lesser character are less, whatever follows
(`compareBytes_of_lt`).  So texts are ordered by character as their bytes are ordered by value
(`compareBytes_utf8`).
-/

namespace ConnectorCatalog.Text

open Std

/-- Bytes one after the other, by value. -/
def compareBytes (a b : Bytes) : Ordering :=
  compareLists (fun x y => Ord.compare x.toNat y.toNat) a b

instance : TransCmp compareBytes :=
  have := transCmp_on UInt8.toNat Ord.compare
  inferInstanceAs (TransCmp (compareLists _))

theorem compareBytes_cons_eq_lt {x y : UInt8} {a b : Bytes} :
    compareBytes (x :: a) (y :: b) = .lt ↔
      x.toNat < y.toNat ∨ x.toNat = y.toNat ∧ compareBytes a b = .lt := by
  rw [compareBytes, compareLists, Ordering.then_eq_lt, Nat.compare_eq_lt, Nat.compare_eq_eq]
  rfl

theorem toNat_lt_of_isValid (c : Char) : c.val.toNat < 1114112 := by
  rcases c.valid with h | ⟨-, h⟩
  · exact Nat.lt_trans h (by decide)
  · exact h

/-- A lesser number is less where their digits to the base 64 first differ. -/
theorem lt_by_digits {v w : Nat} (h : v < w) (hw : w < 1114112) :
    v / 262144 % 8 < w / 262144 % 8 ∨ v / 262144 % 8 = w / 262144 % 8 ∧
    (v / 4096 % 64 < w / 4096 % 64 ∨ v / 4096 % 64 = w / 4096 % 64 ∧
    (v / 64 % 64 < w / 64 % 64 ∨ v / 64 % 64 = w / 64 % 64 ∧ v % 64 < w % 64)) := by
  have hcut (n : Nat) : n / 64 / 64 = n / 4096 ∧ n / 4096 / 64 = n / 262144 := by omega
  have hfirst : v / 262144 % 8 = v / 262144 ∧ w / 262144 % 8 = w / 262144 := by omega
  have hv := hcut v
  have hw := hcut w
  omega

/-- **The bytes of a lesser character are less, whatever follows.** -/
theorem compareBytes_of_lt {c d : Char} (h : c.toNat < d.toNat) (rest more : Bytes) :
    compareBytes (String.utf8EncodeChar c ++ rest) (String.utf8EncodeChar d ++ more) = .lt := by
  have hd := toNat_lt_of_isValid d
  have h : c.val.toNat < d.val.toNat := h
  have hdigits := lt_by_digits h hd
  have hbyte {n : Nat} (hn : n < 256) : (UInt8.ofNat n).toNat = n := Nat.mod_eq_of_lt hn
  unfold String.utf8EncodeChar
  generalize c.val.toNat = v at *
  generalize d.val.toNat = w at *
  dsimp only
  -- The first byte tells how many there are, so only encodings of one length come down to the rest.
  split_ifs
  all_goals
    simp (disch := omega) only [List.cons_append, List.nil_append, compareBytes_cons_eq_lt, hbyte]
    omega

theorem compareBytes_append (common a b : Bytes) :
    compareBytes (common ++ a) (common ++ b) = compareBytes a b := by
  induction common with
  | nil => rfl
  | cons x common ih =>
    have hself : Ord.compare x.toNat x.toNat = .eq := Nat.compare_eq_eq.2 rfl
    rw [compareBytes, List.cons_append, List.cons_append, compareLists, hself, Ordering.eq_then]
    exact ih

theorem compareBytes_flatMap (cs ds : List Char) :
    compareBytes (cs.flatMap String.utf8EncodeChar) (ds.flatMap String.utf8EncodeChar) =
      compareChars cs ds := by
  induction cs generalizing ds with
  | nil =>
    cases ds with
    | nil => rfl
    | cons d ds =>
      obtain ⟨x, more, hbytes⟩ := List.exists_cons_of_ne_nil (String.utf8EncodeChar_ne_nil (c := d))
      rw [List.flatMap_cons, hbytes]
      rfl
  | cons c cs ih =>
    cases ds with
    | nil =>
      obtain ⟨x, more, hbytes⟩ := List.exists_cons_of_ne_nil (String.utf8EncodeChar_ne_nil (c := c))
      rw [List.flatMap_cons, hbytes]
      rfl
    | cons d ds =>
      rw [List.flatMap_cons, List.flatMap_cons, compareChars, compareLists]
      cases hcmp : Ord.compare c.toNat d.toNat with
      | lt => exact compareBytes_of_lt (Nat.compare_eq_lt.1 hcmp) _ _
      | eq =>
        obtain rfl := Char.toNat_inj.1 (Nat.compare_eq_eq.1 hcmp)
        rw [compareBytes_append, ih]
        rfl
      | gt =>
        exact OrientedCmp.gt_of_lt (compareBytes_of_lt (Nat.compare_eq_gt.1 hcmp) _ _)

/-- **Texts are ordered as their bytes are.** -/
theorem compareBytes_utf8 (a b : String) : compareBytes (utf8 a) (utf8 b) = compareTexts a b := by
  rw [utf8_eq, utf8_eq, compareBytes_flatMap, compareTexts]

end ConnectorCatalog.Text
