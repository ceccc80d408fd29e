/-!
# Hexadecimal digits

Bytes as pairs of hexadecimal digits, in lower case for digests (`hex`) and in upper case for
escapes in paths (`upperDigit`); `digit?` reads a digit of either case.
-/

namespace ConnectorCatalog

/-- The content of a file or of a message. -/
abbrev Bytes := List UInt8

namespace Text

/-- The lower-case hexadecimal digit of a number below 16. -/
def lowerDigit (n : Nat) : Char := Char.ofNat (if n < 10 then 48 + n else 87 + n)

/-- The upper-case hexadecimal digit of a number below 16. -/
def upperDigit (n : Nat) : Char := Char.ofNat (if n < 10 then 48 + n else 55 + n)

/-- The number that a hexadecimal digit stands for. -/
def digit? (c : Char) : Option Nat :=
  let n := c.toNat
  if 48 ≤ n ∧ n ≤ 57 then some (n - 48)
  else if 97 ≤ n ∧ n ≤ 102 then some (n - 87)
  else if 65 ≤ n ∧ n ≤ 70 then some (n - 55)
  else none

/-- Two lower-case digits for each byte. -/
def hex (bytes : Bytes) : String :=
  String.ofList (bytes.flatMap fun b => [lowerDigit (b.toNat / 16), lowerDigit (b.toNat % 16)])

/-- The bytes written by pairs of digits. -/
def bytesOfHex? : List Char → Option Bytes
  | [] => some []
  | [_] => none
  | a :: b :: rest => do
    let high ← digit? a
    let low ← digit? b
    return UInt8.ofNat (high * 16 + low) :: (← bytesOfHex? rest)

/-- The UTF-8 form of a text. -/
def utf8 (s : String) : Bytes := s.toByteArray.toList

/-- The text that bytes stand for in UTF-8. -/
def ofUtf8? (bytes : Bytes) : Option String := String.fromUTF8? bytes.toByteArray

end Text

end ConnectorCatalog
