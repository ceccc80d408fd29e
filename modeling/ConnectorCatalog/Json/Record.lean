import ConnectorCatalog.Decimal
import ConnectorCatalog.Json.Basic

/-!
# Records in JSON

How the typed documents of the catalogue are read from JSON values. A record is an object with
named members, or the list of its members in their order of declaration.

* `Json.members?` collects the given members of a record. A member that is not declared is passed
  over; a declared one must not be given twice; a list must not be longer than the declaration.
* The readers below turn one member into a value; each says what a missing member stands for.
  `Json.any?` keeps a member of any form, within bounds.
-/

namespace ConnectorCatalog.Json

/-! ### Members of a record -/

/-- The value of a key that occurs once, `some none` if it does not occur, `none` if it occurs
again. -/
def memberOnce? (members : List (String × Json)) (key : String) : Option (Option Json) :=
  match members.filter (·.1 == key) with
  | [] => some none
  | [m] => some (some m.2)
  | _ => none

/-- The first `n` items of a list, with none where it has ended. -/
def padItems : Nat → List Json → List (Option Json)
  | 0, _ => []
  | n + 1, [] => none :: padItems n []
  | n + 1, item :: rest => some item :: padItems n rest

/-- The members of a record with the declared `names`, in their order. As a list a record holds at
least the first `needed` of them. -/
def members? (names : List String) (needed : Nat) : Json → Option (List (Option Json))
  | obj members => names.mapM (memberOnce? members)
  | arr items =>
    if needed ≤ items.length ∧ items.length ≤ names.length then some (padItems names.length items)
    else none
  | _ => none

/-! ### Values of members -/

/-- A text. -/
def text? : Json → Option String
  | str s => some s
  | _ => none

/-- A truth value. -/
def truth? : Json → Option Bool
  | bool b => some b
  | _ => none

/-- The items of a list, each read by `read`. -/
def items? {α : Type} (read : Json → Option α) : Json → Option (List α)
  | arr items => items.mapM read
  | _ => none

/-- A natural number below `bound`, written without fraction and exponent. -/
def natBelow? (bound : Nat) : Json → Option Nat
  | num literal =>
    if literal.toList.all Char.isDigit then
      let n := literal.toList.foldl (fun n c => 10 * n + (c.toNat - 48)) 0
      if n < bound then some n else none
    else none
  | _ => none

/-- Whether the literal of a number is in the range of 64-bit floating point. -/
def isInRange (literal : String) : Bool :=
  let unsigned := match literal.toList with
    | '-' :: rest => rest
    | cs => cs
  (Decimal.ofUnsigned? unsigned).any Decimal.isFinite

mutual

/-- Whether a value of any form can be kept: no text is garbled, all numbers are in range, and at
most `depth` lists and objects nest in one another. -/
def canKeep : (depth : Nat) → Json → Bool
  | _, null => true
  | _, bool _ => true
  | _, num literal => isInRange literal
  | _, str _ => true
  | depth, arr items => depth != 0 && canKeepItems (depth - 1) items
  | depth, obj members => depth != 0 && canKeepMembers (depth - 1) members
  | _, garbled => false

/-- Whether all items of a list can be kept. -/
def canKeepItems (depth : Nat) : List Json → Bool
  | [] => true
  | item :: rest => canKeep depth item && canKeepItems depth rest

/-- Whether the values of all members of an object can be kept. -/
def canKeepMembers (depth : Nat) : List (String × Json) → Bool
  | [] => true
  | (_, value) :: rest => canKeep depth value && canKeepMembers depth rest

end

/-- The number of lists and objects that may nest in one another where a value of any form is
kept. -/
def maxDepth : Nat := 127

/-- A value of any form, in `around` lists and objects of the document. -/
def any? (around : Nat) (value : Json) : Option Json :=
  if value.canKeep (maxDepth - around) then some value else none

/-- A member that must be given. -/
def required {α : Type} (read : Json → Option α) : Option Json → Option α
  | some value => read value
  | none => none

/-- A member that stands for `missing` when it is not given. -/
def withDefault {α : Type} (read : Json → Option α) (missing : α) : Option Json → Option α
  | some value => read value
  | none => some missing

/-- A member that may be missing or `null`. -/
def optional {α : Type} (read : Json → Option α) : Option Json → Option (Option α)
  | none => some none
  | some null => some none
  | some value => (read value).map some

/-! ### Errors -/

/-- What an error in a response says. -/
def message? (value : Json) : Option String := do
  let [message] ← value.members? ["message"] 1 | none
  required text? message

end ConnectorCatalog.Json
