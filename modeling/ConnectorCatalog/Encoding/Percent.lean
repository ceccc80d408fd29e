import ConnectorCatalog.Text.Hex

/-!
# Percent encoding

One path segment as characters that are safe in a URL.

* `encode` keeps letters, digits and `-`, `_`, `.`, `~`, and writes every other byte of the UTF-8
  form as `%` and two upper-case digits.
* `decodeBytes?` reads the bytes back; it refuses a `%` without two digits behind it.
-/

namespace ConnectorCatalog.Percent

/-- The bytes that stand for themselves. -/
def isUnreserved (b : UInt8) : Bool :=
  let n := b.toNat
  (65 ≤ n && n ≤ 90) || (97 ≤ n && n ≤ 122) || (48 ≤ n && n ≤ 57) ||
    n == 45 || n == 95 || n == 46 || n == 126

/-- One byte, as itself or as an escape. -/
def encodeByte (b : UInt8) : List Char :=
  if isUnreserved b then [Char.ofNat b.toNat]
  else ['%', Text.upperDigit (b.toNat / 16), Text.upperDigit (b.toNat % 16)]

/-- The escaped form of bytes. -/
def encodeBytes (bytes : Bytes) : List Char := bytes.flatMap encodeByte

/-- The escaped form of a text. -/
def encode (s : String) : String := String.ofList (encodeBytes (Text.utf8 s))

/-- The bytes behind an escaped form. -/
def decodeBytes? : List Char → Option Bytes
  | [] => some []
  | '%' :: a :: b :: rest => do
    let high ← Text.digit? a
    let low ← Text.digit? b
    return UInt8.ofNat (high * 16 + low) :: (← decodeBytes? rest)
  | c :: rest => do
    if c = '%' then none
    else return Text.utf8 (String.singleton c) ++ (← decodeBytes? rest)

/-- The text behind an escaped form. -/
def decode? (s : String) : Option String := decodeBytes? s.toList >>= Text.ofUtf8?

end ConnectorCatalog.Percent
