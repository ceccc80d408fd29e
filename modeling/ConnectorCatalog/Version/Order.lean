import ConnectorCatalog.Text.Order
import ConnectorCatalog.Version.Basic

/-!
# The order of semantic versions

`Version.compare` orders by major, minor and patch number, then by pre-release and last by build
metadata.

* A version without pre-release is above every pre-release of it.
* Identifiers are compared from left to right; the longer of two lists that agree is greater.
  An identifier of digits is below every other one; others are compared by character.
* Pre-release identifiers of digits are compared as numbers. In build metadata zeros may stand in
  front: equal numbers are then ordered by length.
-/

namespace ConnectorCatalog.Version

open Text (compareLists compareChars)

/-- Two identifiers, by `numbers` if both are digits only. -/
def compareIdentifiers (numbers : List Char → List Char → Ordering) (a b : String) : Ordering :=
  match isNumeric a.toList, isNumeric b.toList with
  | true, false => .lt
  | false, true => .gt
  | false, false => compareChars a.toList b.toList
  | true, true => numbers a.toList b.toList

/-- Numbers without superfluous zeros: the shorter is less, then by digit. -/
def compareNumbers (a b : List Char) : Ordering :=
  (Ord.compare a.length b.length).then (compareChars a b)

/-- Numbers with any zeros in front: by value, then by length. -/
def comparePaddedNumbers (a b : List Char) : Ordering :=
  (compareNumbers (a.dropWhile (· == '0')) (b.dropWhile (· == '0'))).then
    (Ord.compare a.length b.length)

/-- Pre-releases; the absence of one is greatest. -/
def comparePre : List String → List String → Ordering
  | [], [] => .eq
  | [], _ :: _ => .gt
  | _ :: _, [] => .lt
  | a, b => compareLists (compareIdentifiers compareNumbers) a b

/-- Build metadata; the absence of it is least. -/
def compareBuild (a b : List String) : Ordering :=
  compareLists (compareIdentifiers comparePaddedNumbers) a b

/-- The order of versions. -/
def compare (a b : Version) : Ordering :=
  (Ord.compare a.major b.major).then <|
  (Ord.compare a.minor b.minor).then <|
  (Ord.compare a.patch b.patch).then <|
  (comparePre a.pre b.pre).then <|
  compareBuild a.build b.build

/-- Whether two versions differ in build metadata at most. -/
def samePrecedence (a b : Version) : Bool :=
  a.major == b.major && a.minor == b.minor && a.patch == b.patch && a.pre == b.pre

end ConnectorCatalog.Version
