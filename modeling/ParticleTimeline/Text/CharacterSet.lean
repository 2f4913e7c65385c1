/-!
# Sets of characters given by their edges

A set of code points is an increasing array of edges: the set begins at the
first, ends before the second, begins again at the third, and so on. A code
point belongs to it when an odd number of edges are not above it.
-/

namespace ParticleTimeline

/-- The edges of a set of code points, in increasing order. -/
structure CharacterSet where
  edges : Array Nat

namespace CharacterSet

/-- How many edges in the stretch from `low` to `high` of the array are not
above `c`, counted from the start of the array, by halving the stretch. -/
def edgesUpTo (s : CharacterSet) (c : Nat) (low high : Nat) : Nat :=
  if _h : low < high then
    let middle := (low + high) / 2
    match s.edges[middle]? with
    | none => low
    | some edge =>
      if edge ≤ c then s.edgesUpTo c (middle + 1) high else s.edgesUpTo c low middle
  else low
termination_by high - low
decreasing_by all_goals omega

/-- The character belongs to the set. -/
def contains (s : CharacterSet) (c : Char) : Bool :=
  s.edgesUpTo c.toNat 0 s.edges.size % 2 = 1

end CharacterSet

end ParticleTimeline
