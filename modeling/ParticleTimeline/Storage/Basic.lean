/-!
# Storage

What a program needs of a file system: reading a file, writing one, and
making directories. The interface is a record over a monad, so that a run
can use the file system of the machine or one that is kept in memory.
-/

namespace ParticleTimeline

/-- Why a file or a directory cannot be used. -/
inductive StorageError where
  | notFound
  | isDirectory
  | notDirectory
  | alreadyExists
  /-- A name, or the whole path, is longer than a file system takes. -/
  | nameTooLong
  /-- A path has a NUL in it. -/
  | nulInName
  /-- The bytes of a file are no UTF-8. -/
  | notText
  | other (message : String)
deriving DecidableEq, Repr

def StorageError.message : StorageError → String
  | notFound => "No such file or directory (os error 2)"
  | isDirectory => "Is a directory (os error 21)"
  | notDirectory => "Not a directory (os error 20)"
  | alreadyExists => "File exists (os error 17)"
  | nameTooLong => "File name too long (os error 36)"
  | nulInName => "file name contained an unexpected NUL byte"
  | notText => "stream did not contain valid UTF-8"
  | other message => message

/-- Files and directories, by their paths. -/
structure Storage (m : Type → Type) where
  read : String → m (Except StorageError ByteArray)
  write : String → ByteArray → m (Except StorageError Unit)
  /-- Makes a directory and all those above it that are missing. -/
  makeDirectories : String → m (Except StorageError Unit)

namespace Storage

variable {m : Type → Type} [Monad m]

/-- A file as text. -/
def readText (s : Storage m) (path : String) : m (Except StorageError String) := do
  match ← s.read path with
  | .error e => return .error e
  | .ok bytes =>
    match String.fromUTF8? bytes with
    | some text => return .ok text
    | none => return .error .notText

def writeText (s : Storage m) (path text : String) : m (Except StorageError Unit) :=
  s.write path text.toUTF8

end Storage

end ParticleTimeline
