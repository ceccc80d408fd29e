import ConnectorCatalog.Text.Hex
import ConnectorCatalog.Text.Segment

/-!
# Forms

The fields of a form on one line: names and values joined by `=`, fields by `&`. Letters, digits and
`*`, `-`, `.`, `_` stand for themselves, a blank is written `+`, every other byte as `%` and two
digits.
-/

namespace ConnectorCatalog.Form

/-- The bytes that stand for themselves. -/
def isPlain (b : UInt8) : Bool :=
  let n := b.toNat
  (48 ≤ n && n ≤ 57) || (65 ≤ n && n ≤ 90) || (97 ≤ n && n ≤ 122) ||
    n == 42 || n == 45 || n == 46 || n == 95

/-- One byte of a name or a value. -/
def encodeByte (b : UInt8) : List Char :=
  if isPlain b then [Char.ofNat b.toNat]
  else if b = 32 then ['+']
  else ['%', Text.upperDigit (b.toNat / 16), Text.upperDigit (b.toNat % 16)]

/-- A name or a value. -/
def encodeText (s : String) : String := String.ofList ((Text.utf8 s).flatMap encodeByte)

/-- The fields of a form. -/
def encode (fields : List (String × String)) : String :=
  Text.joinTexts "&" (fields.map fun f => encodeText f.1 ++ "=" ++ encodeText f.2)

end ConnectorCatalog.Form
