/-!
# Ascending lists

Finite sets as lists in ascending order without repetition.  `insert` puts an element where it
belongs, and leaves the list alone if an equal one is there; `ofList` sorts a list that way.
-/

namespace Propositional.Ascending

/-- Insert an element into an ascending list. -/
def insert (order : α → α → Ordering) (new : α) : List α → List α
  | [] => [new]
  | old :: rest =>
    match order new old with
    | .lt => new :: old :: rest
    | .eq => old :: rest
    | .gt => old :: insert order new rest

/-- The elements of a list in ascending order, each once. -/
def ofList (order : α → α → Ordering) (elements : List α) : List α :=
  elements.foldr (insert order) []

end Propositional.Ascending
