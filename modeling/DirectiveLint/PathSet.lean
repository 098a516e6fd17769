import DirectiveLint.Path

/-!
# Sets of paths

Paths in the order of their components, each once: of paths with the same components the
first one that was put in keeps its place.
-/

namespace DirectiveLint

namespace Path

/-- The components of the first path come before those of the second. -/
def before (p q : Path) : Bool := componentsBefore p.components q.components

end Path

/-- Paths in ascending order, no two of them with the same components. -/
abbrev PathSet := List Path

namespace PathSet

/-- The set with a path put in, unless it holds one with the same components. -/
def insert (s : PathSet) (p : Path) : PathSet :=
  match s with
  | [] => [p]
  | q :: s =>
    if p.same q then q :: s
    else if p.before q then p :: q :: s
    else q :: insert s p

/-- The set of some paths. -/
def ofList (ps : List Path) : PathSet := ps.foldl insert []

end PathSet

end DirectiveLint
