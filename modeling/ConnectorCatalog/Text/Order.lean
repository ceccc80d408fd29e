/-!
# The order of texts

Texts are ordered by character, lists of texts member by member; a list that continues another one
is greater. `compareNames` is the order in which a directory walk meets paths.
-/

namespace ConnectorCatalog.Text

/-- Two lists member by member; the longer of two that agree is greater. -/
def compareLists {α : Type} (cmp : α → α → Ordering) : List α → List α → Ordering
  | [], [] => .eq
  | [], _ :: _ => .lt
  | _ :: _, [] => .gt
  | a :: as, b :: bs => (cmp a b).then (compareLists cmp as bs)

/-- Two lists of characters, by character. -/
def compareChars (a b : List Char) : Ordering :=
  compareLists (fun c d => Ord.compare c.toNat d.toNat) a b

/-- Two texts, by character. -/
def compareTexts (a b : String) : Ordering := compareChars a.toList b.toList

/-- Two paths given by their names, name by name. -/
def compareNames (a b : List String) : Ordering := compareLists compareTexts a b

/-- A list in the order of `cmp`; members that compare equal keep their places. -/
def sortBy {α : Type} (cmp : α → α → Ordering) (items : List α) : List α :=
  items.mergeSort fun a b => cmp a b != .gt

end ConnectorCatalog.Text
