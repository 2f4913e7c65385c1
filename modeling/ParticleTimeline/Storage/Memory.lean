import ParticleTimeline.Storage.Basic
import ParticleTimeline.Storage.Path
/-!
# Storage in memory

Files and directories as lists of places, a place being the names from the
root down. The directories above a file are there with it. A path is walked
piece by piece, and each piece has to start from a directory that is there.
-/

namespace ParticleTimeline

/-- The names of a file or a directory from the root down. -/
abbrev FilePlace := List String

/-- Files with their contents, and directories that were made. -/
structure MemoryStorage where
  files : List (FilePlace × ByteArray) := []
  directories : List FilePlace := []

namespace MemoryStorage

/-- What stands at a place. -/
inductive Found where
  | file (content : ByteArray)
  | directory
  | nothing

/-- The directory that paths without a leading slash start from. No path
spells its name. -/
def here : FilePlace := [""]

def find (s : MemoryStorage) (p : FilePlace) : Found :=
  match s.files.lookup p with
  | some content => .file content
  | none =>
    if p.isPrefixOf here ∨ s.directories.any (p.isPrefixOf ·) ∨ s.files.any (p.isPrefixOf ·.1) then
      .directory
    else .nothing

/-! ## Walks -/

/-- The most bytes of one name, and of a whole path. -/
def nameLimit : Nat := 255
def pathLimit : Nat := 4095

/-- Whether a path can be looked up at all. -/
def permit (path : String) : Except StorageError Unit :=
  if path.contains '\x00' then .error .nulInName
  else if path = "" then .error .notFound
  else if pathLimit < path.utf8ByteSize then .error .nameTooLong
  else .ok ()

/-- One piece of a path further. -/
def step (s : MemoryStorage) (p : FilePlace) (piece : String) : Except StorageError FilePlace :=
  match s.find p with
  | .file _ => .error .notDirectory
  | .nothing => .error .notFound
  | .directory =>
    if Path.isStill piece then .ok p
    else if piece = ".." then .ok p.dropLast
    else if nameLimit < piece.utf8ByteSize then .error .nameTooLong
    else .ok (p ++ [piece])

/-- Where the walk along a path starts. -/
def start (path : String) : FilePlace := if Path.isAbsolute path then [] else here

/-- The place of a path. Everything above it is there; the place itself need
not be, unless the path ends with a slash. -/
def locate (s : MemoryStorage) (path : String) : Except StorageError FilePlace := do
  permit path
  (Path.pieces path).foldlM s.step (start path)

/-! ## Files -/

def read (s : MemoryStorage) (path : String) : Except StorageError ByteArray := do
  match s.find (← s.locate path) with
  | .file content => return content
  | .directory => throw .isDirectory
  | .nothing => throw .notFound

/-- Puts a file in the place of whatever file was there. -/
def write (s : MemoryStorage) (path : String) (content : ByteArray) :
    Except StorageError MemoryStorage := do
  let p ← s.locate path
  match s.find p with
  | .directory => throw .isDirectory
  | _ => return { s with files := (p, content) :: s.files.filter (·.1 ≠ p) }

/-! ## Directories -/

/-- Makes one directory; all above it have to be there. -/
def makeDirectory (s : MemoryStorage) (base : FilePlace) (names : List String) :
    Except StorageError MemoryStorage := do
  let p ← names.foldlM s.step base
  match s.find p with
  | .file _ => throw .alreadyExists
  | .directory => return s
  | .nothing => return { s with directories := p :: s.directories }

/-- Makes a directory, given by its names from the last to the first; when
one above it is missing that one is made before. What was made stays when a
later one cannot be. -/
def makeNames (s : MemoryStorage) (base : FilePlace) :
    List String → MemoryStorage × Except StorageError Unit
  | [] => (s, .ok ())
  | name :: above =>
    match s.makeDirectory base (name :: above).reverse with
    | .ok s => (s, .ok ())
    | .error .notFound =>
      match s.makeNames base above with
      | (s, .error e) => (s, .error e)
      | (s, .ok ()) =>
        match s.makeDirectory base (name :: above).reverse with
        | .ok s => (s, .ok ())
        | .error e => (s, .error e)
    | .error e => (s, .error e)

/-- Makes a directory and all those above it that are missing. The empty path
is the directory where paths start. -/
def makeDirectories (s : MemoryStorage) (path : String) :
    MemoryStorage × Except StorageError Unit :=
  if path = "" then (s, .ok ())
  else
    match permit path with
    | .error e => (s, .error e)
    | .ok () => s.makeNames (start path) (Path.names path).reverse

/-! ## The interface -/

/-- Puts a file where it belongs, and makes the directories for it; nothing
is put where that cannot be done. -/
def place (s : MemoryStorage) (path : String) (content : ByteArray) : MemoryStorage :=
  let s := ((Path.parent? path).map fun directory => (s.makeDirectories directory).1).getD s
  (s.write path content).toOption.getD s

/-- Every path of a storage with its content, put there one after the
other. -/
def ofList (files : List (String × ByteArray)) : MemoryStorage :=
  files.foldl (fun s f => s.place f.1 f.2) {}

/-- The interface to the storage that is the state. -/
def storage : Storage (StateM MemoryStorage) where
  read path := return (← get).read path
  write path content := do
    match (← get).write path content with
    | .ok s => set s; return .ok ()
    | .error e => return .error e
  makeDirectories path := do
    let (s, made) := (← get).makeDirectories path
    set s
    return made

end MemoryStorage

end ParticleTimeline
