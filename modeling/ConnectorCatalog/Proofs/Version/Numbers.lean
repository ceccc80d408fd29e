import Mathlib.Algebra.Group.Nat.Defs
import Mathlib.Data.List.Induction
import ConnectorCatalog.Proofs.Version.Order

/-!
# Numbers in versions

Digits that are compared by length and then one by one are compared as numbers, unless there are
zeros in front (`compareNumbers_eq`).  With zeros in front, numbers of one value are ordered by
length (`comparePaddedNumbers_eq`).  Either way only equal digits compare equal.

A numeral is the one text that is written for its number (`IsNumeral.toDigits_decimal`).
-/

namespace ConnectorCatalog.Version

open Std Text

/-- Nothing but digits. -/
abbrev AreDigits (cs : List Char) : Prop := isNumeric cs = true

variable {a b cs : List Char} {c : Char}

/-! ### Values -/

theorem isDigit_iff : isDigit c = true ↔ 48 ≤ c.toNat ∧ c.toNat ≤ 57 := by
  rw [isDigit, Bool.and_eq_true, decide_eq_true_iff, decide_eq_true_iff]
  exact Iff.rfl

theorem areDigits_cons : AreDigits (c :: cs) ↔ isDigit c = true ∧ AreDigits cs := by
  simp only [AreDigits, isNumeric, List.all_cons, Bool.and_eq_true]

theorem decimal_cons (c : Char) (cs : List Char) :
    decimal (c :: cs) = 10 ^ cs.length * (c.toNat - 48) + decimal cs := by
  have hvalue (digits : List Char) : decimal digits = Nat.ofDigitChars 10 digits 0 := rfl
  rw [hvalue, hvalue, Nat.ofDigitChars_cons, Nat.ofDigitChars_eq_ofDigitChars_zero, Nat.mul_zero,
    Nat.zero_add]
  rfl

theorem decimal_lt (h : AreDigits cs) : decimal cs < 10 ^ cs.length := by
  induction cs with
  | nil => exact Nat.one_pos
  | cons c cs ih =>
    obtain ⟨hc, hcs⟩ := areDigits_cons.1 h
    have hdigit : c.toNat - 48 ≤ 9 := by
      rw [isDigit_iff] at hc
      omega
    have hfirst := Nat.mul_le_mul_left (10 ^ cs.length) hdigit
    have hrest := ih hcs
    rw [decimal_cons, List.length_cons, Nat.pow_succ]
    omega

/-- A first digit other than zero makes a number as great as its length allows. -/
theorem le_decimal (h : AreDigits (c :: cs)) (hc : c ≠ '0') :
    10 ^ cs.length ≤ decimal (c :: cs) := by
  obtain ⟨hdigit, -⟩ := areDigits_cons.1 h
  have hne : c.toNat ≠ 48 := fun heq => hc (Char.toNat_inj.1 heq)
  rw [isDigit_iff] at hdigit
  have hfirst := Nat.mul_le_mul_left (10 ^ cs.length) (by omega : 1 ≤ c.toNat - 48)
  rw [decimal_cons]
  omega

theorem decimal_dropWhile (cs : List Char) : decimal (cs.dropWhile (· == '0')) = decimal cs := by
  induction cs with
  | nil => rfl
  | cons c cs ih =>
    rw [List.dropWhile_cons]
    split
    · rename_i hc
      rw [beq_iff_eq] at hc
      subst hc
      rw [ih, decimal_cons]
      exact (Nat.zero_add _).symm
    · rfl

theorem areDigits_dropWhile (h : AreDigits cs) : AreDigits (cs.dropWhile (· == '0')) :=
  List.all_eq_true.2 fun c hc => List.all_eq_true.1 h c (List.dropWhile_sublist _ |>.subset hc)

/-! ### Comparing -/

theorem compare_add_left (k m n : Nat) : Ord.compare (k + m) (k + n) = Ord.compare m n := by
  simp only [Nat.compare_eq_ite_lt, Nat.add_lt_add_iff_left]

/-- As many digits are compared one by one as their numbers are. -/
theorem compareChars_eq (ha : AreDigits a) (hb : AreDigits b) (h : a.length = b.length) :
    compareChars a b = Ord.compare (decimal a) (decimal b) := by
  induction a generalizing b with
  | nil =>
    obtain rfl := List.length_eq_zero_iff.1 h.symm
    rfl
  | cons c a ih =>
    cases b with
    | nil => cases h
    | cons d b =>
      obtain ⟨hc, ha⟩ := areDigits_cons.1 ha
      obtain ⟨hd, hb⟩ := areDigits_cons.1 hb
      have hlength : a.length = b.length := Nat.succ.inj h
      have hlta := decimal_lt ha
      have hltb := decimal_lt hb
      rw [isDigit_iff] at hc hd
      rw [compareChars, compareLists, decimal_cons, decimal_cons, hlength]
      rw [hlength] at hlta
      -- The first digit outweighs the rest.
      rcases Nat.lt_trichotomy c.toNat d.toNat with hcd | hcd | hcd
      · have hfirst := Nat.mul_le_mul_left (10 ^ b.length) (by omega : c.toNat - 48 + 1 ≤ d.toNat - 48)
        rw [Nat.mul_add, Nat.mul_one] at hfirst
        rw [Nat.compare_eq_lt.2 hcd, Nat.compare_eq_lt.2 (by omega)]
        rfl
      · rw [Nat.compare_eq_eq.2 hcd, Ordering.eq_then, hcd, compare_add_left]
        exact ih ha hb hlength
      · have hfirst := Nat.mul_le_mul_left (10 ^ b.length) (by omega : d.toNat - 48 + 1 ≤ c.toNat - 48)
        rw [Nat.mul_add, Nat.mul_one] at hfirst
        rw [Nat.compare_eq_gt.2 hcd, Nat.compare_eq_gt.2 (by omega)]
        rfl

/-- Of numbers without zeros in front the longer is greater. -/
theorem decimal_lt_of_length_lt (ha : AreDigits a) (hb : AreDigits b) (h : a.length < b.length)
    (hzero : b.head? ≠ some '0') : decimal a < decimal b := by
  cases b with
  | nil => exact absurd h (Nat.not_lt_zero _)
  | cons c b =>
    have hc : c ≠ '0' := fun hc => hzero (congrArg some hc)
    calc decimal a < 10 ^ a.length := decimal_lt ha
      _ ≤ 10 ^ b.length := Nat.pow_le_pow_right (by decide) (Nat.le_of_lt_succ h)
      _ ≤ decimal (c :: b) := le_decimal hb hc

/-- **Digits are compared as their numbers, if the longer ones have no zeros in front.** -/
theorem compareNumbers_eq (ha : AreDigits a) (hb : AreDigits b)
    (hzero : a.length < b.length → b.head? ≠ some '0')
    (hzero' : b.length < a.length → a.head? ≠ some '0') :
    compareNumbers a b = Ord.compare (decimal a) (decimal b) := by
  rw [compareNumbers]
  rcases Nat.lt_trichotomy a.length b.length with hlt | heq | hgt
  · rw [Nat.compare_eq_lt.2 hlt,
      Nat.compare_eq_lt.2 (decimal_lt_of_length_lt ha hb hlt (hzero hlt))]
    rfl
  · rw [Nat.compare_eq_eq.2 heq, Ordering.eq_then, compareChars_eq ha hb heq]
  · rw [Nat.compare_eq_gt.2 hgt,
      Nat.compare_eq_gt.2 (decimal_lt_of_length_lt hb ha hgt (hzero' hgt))]
    rfl

theorem head?_dropWhile_ne (cs : List Char) : (cs.dropWhile (· == '0')).head? ≠ some '0' := by
  intro h
  have hhead := List.head?_dropWhile_not (· == '0') cs
  rw [h] at hhead
  simp at hhead

/-- **With zeros in front digits are compared as their numbers, those of one number by length.** -/
theorem comparePaddedNumbers_eq (ha : AreDigits a) (hb : AreDigits b) :
    comparePaddedNumbers a b =
      (Ord.compare (decimal a) (decimal b)).then (Ord.compare a.length b.length) := by
  rw [comparePaddedNumbers, compareNumbers_eq (areDigits_dropWhile ha) (areDigits_dropWhile hb)
    (fun _ => head?_dropWhile_ne b) (fun _ => head?_dropWhile_ne a), decimal_dropWhile,
    decimal_dropWhile]

/-- A number as it is written: digits, and no zero in front of others. -/
structure IsNumeral (cs : List Char) : Prop where
  digits : AreDigits cs
  nonempty : cs ≠ []
  eq_zero : cs.head? = some '0' → cs = ['0']

theorem IsNumeral.head?_ne (h : IsNumeral b) (ha : a ≠ []) (hlt : a.length < b.length) :
    b.head? ≠ some '0' := by
  intro hzero
  rw [h.eq_zero hzero] at hlt
  exact ha (List.length_eq_zero_iff.1 (Nat.lt_one_iff.1 hlt))

theorem IsNumeral.compareNumbers_eq (ha : IsNumeral a) (hb : IsNumeral b) :
    compareNumbers a b = Ord.compare (decimal a) (decimal b) :=
  Version.compareNumbers_eq ha.digits hb.digits (hb.head?_ne ha.nonempty) (ha.head?_ne hb.nonempty)

theorem IsNumeral.toDigits_decimal (h : IsNumeral cs) : Nat.toDigits 10 (decimal cs) = cs := by
  obtain ⟨hdigits, hne, hzero⟩ := h
  induction cs using List.reverseRecOn with
  | nil => exact absurd rfl hne
  | append_singleton init c ih =>
    rw [AreDigits, isNumeric, List.all_append, Bool.and_eq_true, List.all_cons, Bool.and_eq_true]
      at hdigits
    obtain ⟨hinit, hc, -⟩ := hdigits
    rw [isDigit_iff] at hc
    have hlast : Nat.toDigits 10 (c.toNat - 48) = [c] := by
      rw [Nat.toDigits_of_lt_base (by omega), List.singleton_inj]
      apply Char.toNat_inj.1
      rw [Nat.toNat_digitChar_of_lt_ten (by omega)]
      omega
    have hvalue : decimal (init ++ [c]) = 10 * decimal init + (c.toNat - 48) := List.foldl_append ..
    cases init with
    | nil =>
      rw [hvalue]
      exact (congrArg (Nat.toDigits 10) (Nat.zero_add _)).trans hlast
    | cons d init =>
      have hd : d ≠ '0' := by
        rintro rfl
        exact absurd (congrArg List.length (hzero rfl)) (by simp)
      have hpos := le_decimal hinit hd
      have hinit := ih hinit (List.cons_ne_nil _ _) fun hhead => absurd (Option.some_inj.1 hhead) hd
      rw [hvalue, ← Nat.toDigits_append_toDigits (by decide)
        (Nat.lt_of_lt_of_le (Nat.pow_pos (by decide)) hpos) (by omega), hinit, hlast]

/-! ### Equal numbers -/

instance : LawfulEqCmp compareNumbers where
  compare_self := ReflCmp.compare_self
  eq_of_compare h := LawfulEqCmp.eq_of_compare (Ordering.then_eq_eq.1 h).2

theorem takeWhile_zero (cs : List Char) : cs.takeWhile (· == '0') =
    List.replicate (cs.length - (cs.dropWhile (· == '0')).length) '0' := by
  have hlength := congrArg List.length (List.takeWhile_append_dropWhile (p := (· == '0')) (l := cs))
  rw [List.length_append] at hlength
  refine List.eq_replicate_iff.2 ⟨by omega, fun c hc => ?_⟩
  exact beq_iff_eq.1 (List.all_eq_true.1 List.all_takeWhile c hc)

instance : LawfulEqCmp comparePaddedNumbers where
  compare_self := ReflCmp.compare_self
  eq_of_compare {a b} h := by
    obtain ⟨hvalue, hlength⟩ := Ordering.then_eq_eq.1 h
    have hdrop := LawfulEqCmp.eq_of_compare hvalue
    rw [← List.takeWhile_append_dropWhile (p := (· == '0')) (l := a),
      ← List.takeWhile_append_dropWhile (p := (· == '0')) (l := b), takeWhile_zero, takeWhile_zero,
      hdrop, Nat.compare_eq_eq.1 hlength]

end ConnectorCatalog.Version
