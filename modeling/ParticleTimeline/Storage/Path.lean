/-!
# Paths as text

A path is cut at its slashes. Empty pieces and single points say nothing,
except for a point that begins the path; a double point goes back up, which
only a walk through the directories can follow.
-/

namespace ParticleTimeline

namespace Path

/-- What stands between the slashes of a path. -/
def pieces (path : String) : List String := path.splitOn "/"

/-- A piece that leaves a directory where it is. -/
def isStill (piece : String) : Bool := piece = "" || piece = "."

/-- The pieces of a path that lead somewhere. -/
def names (path : String) : List String := (pieces path).filter (!isStill ·)

/-- Pieces from the last to the first, without those at the end that say
nothing. -/
def trimmed : List String → List String
  | ["."] => ["."]
  | piece :: above => if isStill piece then trimmed above else piece :: above
  | [] => []

def isAbsolute (path : String) : Bool := path.startsWith "/"

/-- The path without its last name: nothing for the root, and the empty path
for a bare name. -/
def parent? (path : String) : Option String :=
  match trimmed (pieces path).reverse with
  | [] => none
  | _ :: above =>
    match trimmed above with
    | [] => some (if isAbsolute path then "/" else "")
    | above => some ("/".intercalate above.reverse)

/-- The last name of a path; points name nothing. -/
def fileName? (path : String) : Option String :=
  match trimmed (pieces path).reverse with
  | [] | "." :: _ | ".." :: _ => none
  | name :: _ => some name

/-- A name cut at its last point. A name whose only point stands first is
not cut. -/
def splitName (name : String) : String × Option String :=
  let back := name.toList.reverse
  match back.dropWhile (· ≠ '.') with
  | [] | [_] => (name, none)
  | _ :: stem =>
    (String.ofList stem.reverse, some (String.ofList (back.takeWhile (· ≠ '.')).reverse))

/-- The last name without its extension. -/
def stem? (path : String) : Option String := (fileName? path).map fun name => (splitName name).1

/-- What follows the last point of the last name. -/
def extension? (path : String) : Option String := (fileName? path).bind fun name => (splitName name).2

end Path

end ParticleTimeline
