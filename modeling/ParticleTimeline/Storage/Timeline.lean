import ParticleTimeline.Storage.Basic
import ParticleTimeline.Storage.Path
import ParticleTimeline.Timeline.Document
/-!
# Timelines in files

A failure says what was being done, and underneath it why it did not work.
-/

namespace ParticleTimeline

/-- Why something with a file did not work. -/
inductive FileCause where
  | storage (e : StorageError)
  | config (e : ConfigError)

def FileCause.message : FileCause → String
  | storage e => e.message
  | config e => e.message

/-- What did not work, and why. -/
structure FileError where
  action : String
  cause : FileCause

namespace TimelineDocument

variable {m : Type → Type} [Monad m]

/-- The document in a file. -/
def load (s : Storage m) (path : String) : m (Except FileError TimelineDocument) := do
  match ← s.readText path with
  | .error e => return .error ⟨"reading timeline " ++ path, .storage e⟩
  | .ok text =>
    return (parse text).mapError fun e => ⟨"parsing timeline " ++ path, .config e⟩

/-- Writes a document into a file, and makes the directory for it. -/
def save (s : Storage m) (d : TimelineDocument) (path : String) : m (Except FileError Unit) := do
  match Path.parent? path with
  | none => pure ()
  | some directory =>
    match ← s.makeDirectories directory with
    | .error e => return .error ⟨"creating " ++ directory, .storage e⟩
    | .ok () => pure ()
  match ← s.writeText path d.render with
  | .error e => return .error ⟨"writing timeline " ++ path, .storage e⟩
  | .ok () => return .ok ()

end TimelineDocument

end ParticleTimeline
