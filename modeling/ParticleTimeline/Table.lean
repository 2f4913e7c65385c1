/-!
# Tables sorted by name

A table lists its entries in increasing order of their names, each name
once. Names are compared by their code points, which is also the order of
their UTF-8 bytes. Two tables with the same entries are therefore the same
list, whatever order the entries were put in.
-/

namespace ParticleTimeline

/-- Named values, in increasing order of the names. -/
abbrev Table (α : Type) := List (String × α)

namespace Table

variable {α β : Type}

/-- The value of a name. -/
def get? (t : Table α) (name : String) : Option α := t.lookup name

/-- The names, in order. -/
def names (t : Table α) : List String := t.map Prod.fst

/-- Sets the value of a name, in its place. -/
def insert (name : String) (value : α) : Table α → Table α
  | [] => [(name, value)]
  | (other, old) :: rest =>
    if name < other then (name, value) :: (other, old) :: rest
    else if name = other then (name, value) :: rest
    else (other, old) :: insert name value rest

/-- The table of the entries, the last one of a name winning. -/
def ofList (entries : List (String × α)) : Table α :=
  entries.foldl (fun t e => insert e.1 e.2 t) []

/-- The same names with other values. -/
def mapValues (f : α → β) (t : Table α) : Table β := t.map fun e => (e.1, f e.2)

example : ofList [("b", 1), ("a", 2), ("b", 3)] = [("a", 2), ("b", 3)] := by decide

end Table

end ParticleTimeline
