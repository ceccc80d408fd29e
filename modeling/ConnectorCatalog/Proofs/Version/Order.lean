import ConnectorCatalog.Proofs.Text.Order
import ConnectorCatalog.Version.Release

/-!
# Versions and release identifiers are ordered totally

The order of semantic versions is put together from orders on numbers, identifiers and lists of
them, each of which is transitive; so is the order of release identifiers, which ranks every text
that is no version behind all that are one.

* `Version.compare` is an instance of `Std.TransCmp`.
* `ReleaseVersion.compare` is an instance of `Std.TransCmp` and of `Std.LawfulEqCmp`: two texts
  compare equal only if they are the same text.
-/

namespace ConnectorCatalog

open Std Text

namespace Version

instance : TransCmp compareNumbers :=
  have := transCmp_on (List.length (α := Char)) Ord.compare
  inferInstanceAs (TransCmp (compareLex (fun a b : List Char => Ord.compare a.length b.length)
    compareChars))

instance : TransCmp comparePaddedNumbers :=
  have := transCmp_on (List.dropWhile (· == '0')) compareNumbers
  have := transCmp_on (List.length (α := Char)) Ord.compare
  inferInstanceAs (TransCmp (compareLex
    (fun a b : List Char =>
      compareNumbers (a.dropWhile (· == '0')) (b.dropWhile (· == '0')))
    fun a b => Ord.compare a.length b.length))

instance (numbers : List Char → List Char → Ordering) [TransCmp numbers] :
    TransCmp (compareIdentifiers numbers) where
  eq_swap {a b} := by
    cases ha : isNumeric a.toList <;> cases hb : isNumeric b.toList <;>
      simp only [compareIdentifiers, ha, hb, Ordering.swap_lt, Ordering.swap_gt]
    · exact OrientedCmp.eq_swap
    · exact OrientedCmp.eq_swap
  isLE_trans {a b c} hab hbc := by
    -- a mixed pair decides by its kinds alone; within one kind an order that is transitive decides
    cases ha : isNumeric a.toList <;> cases hb : isNumeric b.toList <;>
      cases hc : isNumeric c.toList <;> simp only [compareIdentifiers, ha, hb, hc] at *
    all_goals first | exact TransCmp.isLE_trans hab hbc | contradiction | rfl

/-- Pre-releases are ordered by whether they are missing, then identifier by identifier. -/
theorem comparePre_eq (a b : List String) : comparePre a b =
    (Ord.compare a.isEmpty b.isEmpty).then
      (compareLists (compareIdentifiers compareNumbers) a b) := by
  cases a <;> cases b <;> rfl

instance : TransCmp comparePre := by
  have := transCmp_on (List.isEmpty (α := String)) Ord.compare
  have h : comparePre = compareLex (fun a b => Ord.compare a.isEmpty b.isEmpty)
      (compareLists (compareIdentifiers compareNumbers)) := by
    funext a b; exact comparePre_eq a b
  rw [h]; infer_instance

instance : TransCmp compareBuild := inferInstanceAs (TransCmp (compareLists _))

instance : TransCmp compare :=
  have := transCmp_on Version.major Ord.compare
  have := transCmp_on Version.minor Ord.compare
  have := transCmp_on Version.patch Ord.compare
  have := transCmp_on Version.pre comparePre
  have := transCmp_on Version.build compareBuild
  inferInstanceAs (TransCmp (compareLex (fun a b : Version => Ord.compare a.major b.major) <|
    compareLex (fun a b => Ord.compare a.minor b.minor) <|
    compareLex (fun a b => Ord.compare a.patch b.patch) <|
    compareLex (fun a b => comparePre a.pre b.pre) fun a b => compareBuild a.build b.build))

end Version

namespace ReleaseVersion

/-- The order of what texts stand for; no version at all is greatest. -/
def compareParsed : Option Version → Option Version → Ordering
  | some v, some w => Version.compare v w
  | some _, none => .lt
  | none, some _ => .gt
  | none, none => .eq

instance : TransCmp compareParsed where
  eq_swap {v w} := by
    cases v <;> cases w <;>
      simp only [compareParsed, Ordering.swap_lt, Ordering.swap_gt, Ordering.swap_eq]
    exact OrientedCmp.eq_swap
  isLE_trans {u v w} huv hvw := by
    cases u <;> cases v <;> cases w <;> simp only [compareParsed] at *
    all_goals first | exact TransCmp.isLE_trans huv hvw | contradiction | rfl

theorem compare_eq (a b : String) :
    compare a b = (compareParsed (parse? a) (parse? b)).then (compareTexts a b) := by
  unfold compare
  cases parse? a <;> cases parse? b <;> rfl

instance : TransCmp compare := by
  have := transCmp_on parse? compareParsed
  have h : compare =
      compareLex (fun a b => compareParsed (parse? a) (parse? b)) compareTexts := by
    funext a b; exact compare_eq a b
  rw [h]; infer_instance

instance : LawfulEqCmp compare where
  compare_self := ReflCmp.compare_self
  eq_of_compare {a b} h := by
    rw [compare_eq, Ordering.then_eq_eq] at h
    exact LawfulEqCmp.eq_of_compare h.2

end ReleaseVersion

end ConnectorCatalog
