import ConnectorCatalog.Text.Hex

/-!
# Base 64

Three bytes as four characters of the standard alphabet, the last group filled up with `=`.
-/

namespace ConnectorCatalog.Base64

/-- The character for a number below 64. -/
def letter (n : Nat) : Char :=
  if n < 26 then Char.ofNat (65 + n)
  else if n < 52 then Char.ofNat (71 + n)
  else if n < 62 then Char.ofNat (n - 4)
  else if n = 62 then '+' else '/'

/-- The four characters for a group of 24 bits. -/
def group (n : Nat) : List Char :=
  [letter (n / 262144), letter (n / 4096 % 64), letter (n / 64 % 64), letter (n % 64)]

/-- The characters that stand for bytes. -/
def encodeChars : Bytes → List Char
  | [] => []
  | [a] => (group (a.toNat * 65536)).take 2 ++ ['=', '=']
  | [a, b] => (group (a.toNat * 65536 + b.toNat * 256)).take 3 ++ ['=']
  | a :: b :: c :: rest =>
    group (a.toNat * 65536 + b.toNat * 256 + c.toNat) ++ encodeChars rest

/-- The text that stands for bytes. -/
def encode (bytes : Bytes) : String := String.ofList (encodeChars bytes)

end ConnectorCatalog.Base64
