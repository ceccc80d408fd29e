import ConnectorCatalog.Text.Hex

/-!
# Bytes read as text without fail

`ofUtf8Lossy` reads bytes as UTF-8. Where they are not well formed, the longest beginning of a
character, or else a single byte, is read as the replacement character.
-/

namespace ConnectorCatalog.Text

/-- The character that stands for bytes that cannot be read. -/
def replacement : Char := '\uFFFD'

/-- The number of bytes behind a first byte, and the bounds of the second one. -/
def leadByte? (b : UInt8) : Option (Nat × Nat × Nat) :=
  let n := b.toNat
  if 0xC2 ≤ n ∧ n ≤ 0xDF then some (1, 0x80, 0xBF)
  else if n = 0xE0 then some (2, 0xA0, 0xBF)
  else if n = 0xED then some (2, 0x80, 0x9F)
  else if 0xE1 ≤ n ∧ n ≤ 0xEF then some (2, 0x80, 0xBF)
  else if n = 0xF0 then some (3, 0x90, 0xBF)
  else if 0xF1 ≤ n ∧ n ≤ 0xF3 then some (3, 0x80, 0xBF)
  else if n = 0xF4 then some (3, 0x80, 0x8F)
  else none

/-- The bytes that continue a character, at most `count` of them; the first is between `low` and
`high`. -/
def continuation (count low high : Nat) : Bytes → Bytes
  | [] => []
  | b :: rest =>
    if 0 < count ∧ low ≤ b.toNat ∧ b.toNat ≤ high then
      b :: continuation (count - 1) 0x80 0xBF rest
    else []

/-- The character in a first byte and all that continue it. -/
def charOf (lead : UInt8) (tail : Bytes) : Char :=
  let start := match tail.length with
    | 1 => lead.toNat % 32
    | 2 => lead.toNat % 16
    | _ => lead.toNat % 8
  Char.ofNat (tail.foldl (fun n b => n * 64 + b.toNat % 64) start)

/-- The characters of bytes, at most as many as the number says. -/
def lossyChars : Nat → Bytes → List Char
  | 0, _ => []
  | _, [] => []
  | n + 1, b :: rest =>
    if b.toNat < 0x80 then Char.ofNat b.toNat :: lossyChars n rest
    else match leadByte? b with
      | none => replacement :: lossyChars n rest
      | some (count, low, high) =>
        let tail := continuation count low high rest
        let c := if tail.length = count then charOf b tail else replacement
        c :: lossyChars n (rest.drop tail.length)

/-- The text that bytes stand for, with replacements. -/
def ofUtf8Lossy (bytes : Bytes) : String := String.ofList (lossyChars bytes.length bytes)

end ConnectorCatalog.Text
