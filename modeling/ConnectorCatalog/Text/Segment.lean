/-!
# Texts cut at a separator

A text is cut at every occurrence of one character and put together again.

* `pieces` cuts a list of characters; `join` puts the pieces back (`join_pieces`).
* `segments` is the cut of a text at `/`, the shape in which paths, keys and identities are read.
* `joinTexts` writes a separator text between the members of a list of texts.
-/

namespace ConnectorCatalog.Text

/-! ### Lists of characters -/

/-- The maximal runs of characters between occurrences of `sep`; there is always at least one. -/
def pieces (sep : Char) : List Char → List (List Char)
  | [] => [[]]
  | c :: cs =>
    if c = sep then [] :: pieces sep cs
    else match pieces sep cs with
      | [] => [[c]]
      | p :: ps => (c :: p) :: ps

/-- The pieces with `sep` between neighbours. -/
def join (sep : Char) : List (List Char) → List Char
  | [] => []
  | [p] => p
  | p :: q :: ps => p ++ sep :: join sep (q :: ps)

theorem pieces_ne_nil (sep : Char) (cs : List Char) : pieces sep cs ≠ [] := by
  cases cs with
  | nil => simp [pieces]
  | cons c cs =>
    simp only [pieces]
    split
    · simp
    · split <;> simp

/-- Cutting loses nothing. -/
theorem join_pieces (sep : Char) (cs : List Char) : join sep (pieces sep cs) = cs := by
  induction cs with
  | nil => rfl
  | cons c cs ih =>
    simp only [pieces]
    split
    · rename_i h
      cases hp : pieces sep cs with
      | nil => exact absurd hp (pieces_ne_nil sep cs)
      | cons p ps => rw [hp] at ih; simp [join, ih, h]
    · cases hp : pieces sep cs with
      | nil => exact absurd hp (pieces_ne_nil sep cs)
      | cons p ps =>
        rw [hp] at ih
        cases ps with
        | nil => simpa [join] using ih
        | cons q qs => simp only [join] at ih ⊢; rw [List.cons_append, ih]

/-! ### Texts -/

/-- The pieces of `s` between occurrences of `sep`. -/
def cut (sep : Char) (s : String) : List String := (pieces sep s.toList).map String.ofList

/-- The pieces of `s` between slashes. -/
def segments (s : String) : List String := cut '/' s

/-- The members of a list with `sep` written between neighbours. -/
def joinTexts (sep : String) : List String → String
  | [] => ""
  | [s] => s
  | s :: t :: rest => s ++ sep ++ joinTexts sep (t :: rest)

/-- The rest of `s` behind `start`, if `s` begins with it. -/
def stripStart? (start s : String) : Option String :=
  (start.toList.isPrefixOf? s.toList).map String.ofList

/-- Whether `s` begins with `start`. -/
def startsWith (start s : String) : Bool := start.toList.isPrefixOf s.toList

/-- `s` without any slash at its end. -/
def trimSlashes (s : String) : String :=
  String.ofList (s.toList.reverse.dropWhile (· == '/')).reverse

end ConnectorCatalog.Text
