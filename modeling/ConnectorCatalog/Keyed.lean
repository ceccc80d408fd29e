/-!
# Lists in the order of a key

A list of members in increasing order of a key, with at most one member for each key. `insert`
puts a member in its place and drops the one with the same key, if there is one.
-/

namespace ConnectorCatalog.Keyed

/-- The list with one more member; it takes the place of one that compares equal. -/
def insert {α : Type} (cmp : α → α → Ordering) (item : α) : List α → List α
  | [] => [item]
  | other :: rest =>
    match cmp item other with
    | .lt => item :: other :: rest
    | .eq => item :: rest
    | .gt => other :: insert cmp item rest

end ConnectorCatalog.Keyed
