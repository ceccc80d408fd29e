/-!
# Blank characters

`isBlank` is the Unicode property `White_Space`; `trim` drops blank characters at both ends of a
text and `isAllBlank` says that nothing else is left.
-/

namespace ConnectorCatalog.Text

/-- The characters with the Unicode property `White_Space`. -/
def isBlank (c : Char) : Bool :=
  let n := c.toNat
  (0x9 ≤ n && n ≤ 0xD) || n == 0x20 || n == 0x85 || n == 0xA0 || n == 0x1680 ||
    (0x2000 ≤ n && n ≤ 0x200A) || n == 0x2028 || n == 0x2029 || n == 0x202F || n == 0x205F ||
    n == 0x3000

/-- A list of characters without the blank ones at both ends. -/
def trimChars (cs : List Char) : List Char :=
  ((cs.dropWhile isBlank).reverse.dropWhile isBlank).reverse

/-- A text without the blank characters at both ends. -/
def trim (s : String) : String := String.ofList (trimChars s.toList)

/-- Whether a text holds blank characters only. -/
def isAllBlank (s : String) : Bool := s.toList.all isBlank

/-- The letters `A` to `Z` in lower case, every other character as it is. -/
def asciiLower (s : String) : String := String.ofList (s.toList.map Char.toLower)

end ConnectorCatalog.Text
