/-!
# Decimal numbers and the range of floating point

A decimal number is a whole number times a power of ten. `Decimal.ofUnsigned?` reads one, and
`Decimal.isFinite` decides whether it can be rounded to a 64-bit floating point number.
-/

namespace ConnectorCatalog

/-- The number `digits * 10 ^ exponent`. -/
structure Decimal where
  digits : Nat
  exponent : Int
deriving DecidableEq, Repr

namespace Decimal

/-! ### Reading -/

/-- The number that decimal digits stand for. -/
def ofDigits? (cs : List Char) : Option Nat :=
  if cs = [] then none
  else cs.foldlM (fun n c => if c.isDigit then some (10 * n + (c.toNat - 48)) else none) 0

/-- The exponent of a number, zero if there is none. -/
def exponentOf? : List Char → Option Int
  | [] => some 0
  | c :: rest =>
    if c == 'e' || c == 'E' then
      match rest with
      | '-' :: digits => (ofDigits? digits).map fun n => -(n : Int)
      | '+' :: digits => (ofDigits? digits).map Int.ofNat
      | digits => (ofDigits? digits).map Int.ofNat
    else none

/-- The number that a text without sign stands for: digits with a point among them or none, and an
exponent or none. -/
def ofUnsigned? (cs : List Char) : Option Decimal :=
  let whole := cs.takeWhile Char.isDigit
  let rest := cs.dropWhile Char.isDigit
  let (fraction, rest) := match rest with
    | '.' :: rest => (rest.takeWhile Char.isDigit, rest.dropWhile Char.isDigit)
    | rest => ([], rest)
  do
    let digits ← ofDigits? (whole ++ fraction)
    let exponent ← exponentOf? rest
    return ⟨digits, exponent - fraction.length⟩

/-! ### Range -/

/-- The least number that is beyond the range of 64-bit floating point when it is rounded: half a
step above the greatest of them. -/
def floatBound : Nat := (1 <<< 1024) - (1 <<< 970)

/-- The number of decimal digits of `floatBound`. -/
def floatBoundDigits : Nat := 309

/-- Whether a number is in the range of 64-bit floating point. Only a number with as many digits as
the bound is worked out. -/
def isFinite (d : Decimal) : Bool :=
  if d.digits = 0 then true
  else
    let width := Int.ofNat (Nat.toDigits 10 d.digits).length + d.exponent
    if width < floatBoundDigits then true
    else if width > floatBoundDigits then false
    else if d.exponent < 0 then d.digits < floatBound * Nat.pow 10 (-d.exponent).toNat
    else d.digits * Nat.pow 10 d.exponent.toNat < floatBound

end Decimal

end ConnectorCatalog
