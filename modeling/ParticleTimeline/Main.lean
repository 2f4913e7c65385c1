import ParticleTimeline.CommandLine.Run
/-!
# The program

The command line over the file system of the machine. The settings lie below
the directory that the environment names for configurations.
-/

namespace ParticleTimeline

namespace Machine

/-- The error with a number, which some calls give below zero. -/
def numbered (code : UInt32) (details : String) : StorageError :=
  match min code (0 - code) with
  | 2 => .notFound
  | 17 => .alreadyExists
  | 20 => .notDirectory
  | 21 => .isDirectory
  | 36 => .nameTooLong
  | number => .other (details ++ " (os error " ++ toString number ++ ")")

/-- An error of the file system, by its number. -/
def storageError : IO.Error → StorageError
  | .noFileOrDirectory _ code details => numbered code details
  | .inappropriateType _ code details | .permissionDenied _ code details
  | .alreadyExists _ code details | .invalidArgument _ code details => numbered code details
  | e => .other (toString e)

/-- The result of an action on the file of a path. -/
def attempted {α : Type} (path : String) (action : IO α) : IO (Except StorageError α) := do
  if path.contains '\x00' then return .error .nulInName
  match ← action.toBaseIO with
  | .ok a => return .ok a
  | .error e => return .error (storageError e)

/-- The files of the machine. -/
def storage : Storage IO where
  read path := attempted path (IO.FS.readBinFile path)
  write path content := attempted path (IO.FS.writeBinFile path content)
  makeDirectories path :=
    if path = "" then return .ok () else attempted path (IO.FS.createDirAll path)

/-- Where the settings lie, if the environment says where. -/
def settingsPath? : IO (Option String) := do
  let home ← IO.getEnv "HOME"
  let configured ← IO.getEnv "XDG_CONFIG_HOME"
  let directory := (configured.filter (·.startsWith "/")) <|> home.map (· ++ "/.config")
  return directory.map (· ++ "/pixelgrain/settings.json")

end Machine

end ParticleTimeline

open ParticleTimeline in
/-- Runs the program by the words of the command line. -/
def main (words : List String) : IO UInt32 := do
  let outcome ← CommandLine.run Machine.storage (← Machine.settingsPath?) words
  IO.print outcome.output
  IO.eprint outcome.errors
  return outcome.code
