import ParticleTimeline.Json.Reader
import ParticleTimeline.Storage.Basic
import ParticleTimeline.Storage.Path
import ParticleTimeline.Timeline.Config
/-!
# Settings

What is kept from one run to the next: the grid and the mode for a timeline
that is not given, and the last timeline that was. Settings that are missing
or cannot be read are the default, and settings that cannot be written are
lost without a word.
-/

namespace ParticleTimeline

/-- The defaults of a user. -/
structure Settings where
  version : UInt32 := 1
  grid : Vec2 UInt32 := ⟨160, 160⟩
  accumulation : AccumulationMode := .none
  lastTimeline : Option String := none
deriving DecidableEq

namespace Settings

def fields : List String := ["version", "defaultGrid", "defaultAccumulation", "lastTimeline"]

/-- A text, or nothing. -/
def optionalText : Json.Decoder (Option String)
  | .null => .ok none
  | v => some <$> Json.Decoder.text v

def setField (s : Settings) (name : String) (v : Json) : Except Json.Mismatch Settings := do
  match name with
  | "version" => return { s with version := ← Json.Decoder.word v }
  | "defaultGrid" => return { s with grid := ← Json.Decoder.pair Json.Decoder.word v }
  | "defaultAccumulation" => return { s with accumulation := ← Mode.decode v }
  | "lastTimeline" => return { s with lastTimeline := ← optionalText v }
  | _ => return s

/-- Settings: only the version has to be there. -/
def decode : Json.Decoder Settings := Json.Decoder.record "SettingsConfig" fields 1 setField {}

/-- The parts of a text that `decode` looks at. -/
def outline : Json.Reader.Outline := .record (fields.map fun f => (f, .all))

def toJson (s : Settings) : Json :=
  .object [("version", .word s.version),
    ("defaultGrid", .array (s.grid.toList.map Json.word)),
    ("defaultAccumulation", Mode.toJson s.accumulation),
    ("lastTimeline", (s.lastTimeline.map Json.text).getD .null)]

/-- The settings of a text; the default, if it holds none. -/
def parse (text : String) : Settings :=
  match Json.readOutlined outline text with
  | .error _ => {}
  | .ok v => (decode v).toOption.getD {}

def render (s : Settings) : String := s.toJson.pretty

/-- The settings after a timeline was shown. -/
def remember (s : Settings) (path : String) : Settings := { s with lastTimeline := some path }

variable {m : Type → Type} [Monad m]

/-- The settings in a file. -/
def load (s : Storage m) (path : String) : m Settings := do
  match ← s.readText path with
  | .error _ => return {}
  | .ok text => return parse text

/-- Writes the settings into a file, as well as it can be done. -/
def save (s : Storage m) (settings : Settings) (path : String) : m Unit := do
  match Path.parent? path with
  | none => pure ()
  | some directory => let _ ← s.makeDirectories directory
  let _ ← s.writeText path settings.render

end Settings

end ParticleTimeline
