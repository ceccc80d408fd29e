/-!
# TOML values and tables

`Value` is the type of TOML values. A table keeps in mind how it came to be, since that decides
who may add to it:

* a table in braces is complete;
* a table with a header of its own takes no dotted keys from elsewhere;
* a table that is only implied by the header of another may get its own header later, and no dotted
  keys;
* a table made by dotted keys takes dotted keys only, and no header.

`Entries.assign?` and `Entries.define?` add a key or the section of a header by these rules.
-/

namespace ConnectorCatalog.Toml

/-- How a table came to be. -/
inductive TableForm where
  | inline | headed | implied | dotted
deriving DecidableEq, Repr

/-- A value. Of fractions and dates nothing but their kind is kept. -/
inductive Value where
  | text (s : String)
  | integer (n : Int)
  | fraction
  | bool (b : Bool)
  | moment
  | array (items : List Value)
  | table (form : TableForm) (entries : List (String × Value))
  /-- Tables that a header lists one by one. -/
  | tables (items : List (List (String × Value)))
deriving Repr, Inhabited

/-- The entries of a table, each key once. -/
abbrev Entries := List (String × Value)

namespace Entries

/-- The entries with another value for a key. -/
def put (key : String) (value : Value) (entries : Entries) : Entries :=
  if entries.any (·.1 == key) then entries.map fun e => if e.1 == key then (key, value) else e
  else entries ++ [(key, value)]

/-- The entries with the table at `path` changed by `change`, which also learns the table's form.
Tables that are missing on the way are made, by a dotted key or by a header; of listed tables the
last is meant. -/
def alter? (byDots : Bool) (change : TableForm → Entries → Option Entries) :
    List String → TableForm → Entries → Option Entries
  | [], form, entries => change form entries
  | key :: path, _, entries =>
    match entries.lookup key with
    | none =>
      let form := if byDots then .dotted else .implied
      (alter? byDots change path form []).map fun inner => entries.put key (.table form inner)
    | some (.table form inner) =>
      if form = .inline ∨ (byDots ∧ form = .headed) then none
      else (alter? byDots change path form inner).map fun inner =>
        entries.put key (.table form inner)
    | some (.tables items) =>
      match items.getLast? with
      | none => none
      | some inner => (alter? byDots change path .headed inner).map fun inner =>
        entries.put key (.tables (items.dropLast ++ [inner]))
    | some _ => none

/-- The entries with a value for a dotted key. A key has one value only, and a table takes either
dotted keys or simple ones. -/
def assign? (path : List String) (key : String) (value : Value) (entries : Entries) :
    Option Entries :=
  alter? true (fun form inner =>
    if (form == .dotted) == path.isEmpty ∨ inner.any (·.1 == key) then none
    else some (inner.put key value)) path .headed entries

/-- A value for a dotted key. -/
structure Assignment where
  path : List String
  key : String
  value : Value

/-- The entries with some more values. -/
def assignAll? (assignments : List Assignment) (entries : Entries) : Option Entries :=
  assignments.foldlM (fun entries a => entries.assign? a.path a.key a.value) entries

/-- The part of a document below one header. -/
structure Section where
  path : List String
  key : String
  /-- Whether the header lists one more table. -/
  isListed : Bool
  assignments : List Assignment

/-- The entries with a section. -/
def define? (entries : Entries) (part : Section) : Option Entries :=
  alter? false (fun _ inner =>
    match inner.lookup part.key, part.isListed with
    | none, false => do
      return inner.put part.key (.table .headed (← assignAll? part.assignments []))
    | some (.table .implied own), false => do
      return inner.put part.key (.table .headed (← assignAll? part.assignments own))
    | none, true => do
      return inner.put part.key (.tables [← assignAll? part.assignments []])
    | some (.tables items), true => do
      return inner.put part.key (.tables (items ++ [← assignAll? part.assignments []]))
    | _, _ => none) part.path .headed entries

end Entries

/-! ### Records -/

namespace Value

/-- The first `n` items of a list, with none where it has ended. -/
def padded : Nat → List Value → List (Option Value)
  | 0, _ => []
  | n + 1, [] => none :: padded n []
  | n + 1, item :: rest => some item :: padded n rest

/-- The fields of a record with the given names: a table, or a list of the fields in order. Other
fields are passed over. A moment is a record with fields of its own. -/
def fields? (names : List String) : Value → Option (List (Option Value))
  | table _ entries => some (names.map fun name => entries.lookup name)
  | array items => some (padded names.length items)
  | tables items => some (padded names.length (items.map (table .headed)))
  | moment => some (names.map fun _ => none)
  | _ => none

/-- A text. -/
def text? : Value → Option String
  | text s => some s
  | _ => none

/-- A number that is not negative. -/
def natural? : Value → Option Nat
  | integer n => if 0 ≤ n then some n.toNat else none
  | _ => none

end Value

end ConnectorCatalog.Toml
