/-!
# Numbers in groups of three digits

`groupDigits` writes a number in decimal with a comma in front of every third digit from the
right, as progress lines show counts.
-/

namespace ConnectorCatalog.Text

/-- The digits from the last one on, with a comma in front of every third but the first. -/
def groupFromRight : Nat → List Char → List Char
  | _, [] => []
  | i, c :: cs =>
    if 0 < i ∧ i % 3 = 0 then ',' :: c :: groupFromRight (i + 1) cs
    else c :: groupFromRight (i + 1) cs

/-- The decimal digits of `n` in groups of three. -/
def groupDigits (n : Nat) : String :=
  String.ofList (groupFromRight 0 (Nat.toDigits 10 n).reverse).reverse

end ConnectorCatalog.Text
