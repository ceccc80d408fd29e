import ConnectorCatalog.Decimal
import ConnectorCatalog.Text.Hex

/-!
# Plain texts of YAML that are no texts

A text without quotes may be nothing, a truth value or a number. `integer?` and `isFloat` tell
numbers by the way in which they are written and by their size.
-/

namespace ConnectorCatalog.Yaml

/-- Whether a plain text says that there is nothing. -/
def isNullWord (s : String) : Bool := ["null", "Null", "NULL", "~"].contains s

/-- Whether a plain text is a truth value. -/
def isTruthWord (s : String) : Bool :=
  ["true", "True", "TRUE", "false", "False", "FALSE"].contains s

/-! ### Integers -/

/-- A number as far as its kind matters. -/
inductive Integer where
  /-- A natural number below 2^64. -/
  | natural (n : Nat)
  /-- A number from -2^63 to zero, written with a sign. -/
  | negative
  /-- A number that is written as an integer and beyond these bounds. -/
  | wide
deriving DecidableEq, Repr

/-- Digits behind a zero: a text although it consists of digits. -/
def isPadded (cs : List Char) : Bool :=
  let digits := match cs with
    | '-' :: rest => rest
    | '+' :: rest => rest
    | cs => cs
  match digits with
  | '0' :: c :: rest => (c :: rest).all Char.isDigit
  | _ => false

/-- The number written by digits of a base. -/
def digitsIn? (base : Nat) (cs : List Char) : Option Nat :=
  if cs = [] then none
  else cs.foldlM (fun n c => do
    let d ← Text.digit? c
    if d < base then return n * base + d else none) 0

/-- The number written by digits behind the letter of a base. -/
def based? : List Char → Option Nat
  | '0' :: 'x' :: digits => digitsIn? 16 digits
  | '0' :: 'o' :: digits => digitsIn? 8 digits
  | '0' :: 'b' :: digits => digitsIn? 2 digits
  | _ => none

/-- The number that a text without minus sign stands for. -/
def natural? (cs : List Char) : Option Nat :=
  let digits := match cs with
    | '+' :: rest => rest
    | cs => cs
  based? digits <|> if isPadded cs then none else digitsIn? 10 digits

/-- The number that a text with a minus sign stands for, without the sign. -/
def negative? : List Char → Option Nat
  | '-' :: digits => based? digits <|> if isPadded digits then none else digitsIn? 10 digits
  | _ => none

/-- The integer that a plain text stands for. -/
def integer? (s : String) : Option Integer :=
  match natural? s.toList, negative? s.toList with
  | some n, _ => if n < 1 <<< 64 then some (.natural n) else if n < 1 <<< 128 then some .wide else none
  | none, some n =>
    if n ≤ 1 <<< 63 then some .negative else if n ≤ 1 <<< 127 then some .wide else none
  | none, none => none

/-! ### Fractions -/

/-- Whether a text is one of the words for an infinite or undefined number. -/
def isFloatWord (s : String) : Bool :=
  [".inf", ".Inf", ".INF", "+.inf", "+.Inf", "+.INF", "-.inf", "-.Inf", "-.INF", ".nan", ".NaN",
    ".NAN"].contains s

/-- Whether a plain text is a fraction or a number written as one. -/
def isFloat (s : String) : Bool :=
  isFloatWord s ||
    let unsigned := match s.toList with
      | '+' :: rest => rest
      | '-' :: rest => rest
      | cs => cs
    (Decimal.ofUnsigned? unsigned).any Decimal.isFinite

end ConnectorCatalog.Yaml
