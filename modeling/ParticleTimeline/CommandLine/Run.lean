import ParticleTimeline.CommandLine.Options
import ParticleTimeline.Render.Renderer
import ParticleTimeline.Settings
import ParticleTimeline.Storage.Picture
import ParticleTimeline.Storage.Timeline
import ParticleTimeline.Timeline.Sample
/-!
# A run of the program

A run takes its words and a storage, prints as it goes, and ends well or by
a failure; what was printed before a failure stays printed. The steps come
in a fixed order: the options, the settings, the picture, the lists that can
be asked for, the timeline, the first build. Only then is a timeline that
was given remembered in the settings, and the command printed and shown for
some frames.
-/

namespace ParticleTimeline

namespace CommandLine

/-- How a run ends early. -/
inductive Failure where
  /-- What did not work, and the causes behind it. -/
  | refused (message : String) (causes : List String)
  | fault (f : Fault)

/-- What a run leaves behind for whoever started it. -/
structure Outcome where
  code : UInt32
  output : String
  errors : String

/-! ## Failures in words -/

/-- A text with every line after the first moved in. -/
def indented (margin text : String) : String :=
  ("\n" ++ margin).intercalate (text.splitOn "\n")

/-- A cause below its failure; one of several has its number. -/
def causeEntry (several : Bool) (number : Nat) (cause : String) : String :=
  if several then
    let digits := toString number
    "\n" ++ "".pushn ' ' (5 - digits.length) ++ digits ++ ": " ++ indented "       " cause
  else "\n    " ++ indented "    " cause

/-- What a failure prints. -/
def Failure.report : Failure → String
  | refused message [] => "Error: " ++ message ++ "\n"
  | refused message causes =>
    let entries := causes.mapIdx (causeEntry (1 < causes.length))
    "Error: " ++ message ++ "\n\nCaused by:" ++ String.join entries ++ "\n"
  | fault f => f.message?.getD "the run broke off" ++ "\n"

def Failure.code : Failure → UInt32
  | refused .. => 1
  | fault _ => 101

/-! ## Runs -/

/-- A computation that uses a storage in `m`, prints, and may fail. -/
abbrev Session (m : Type → Type) := ExceptT Failure (StateT String m)

variable {m : Type → Type} [Monad m]

def print (text : String) : Session m Unit := modify (· ++ text)

/-- A value, unless something was refused. -/
def accepted {ε α : Type} (failure : ε → Failure) : Except ε α → Session m α
  | .ok a => pure a
  | .error e => throw (failure e)

def withMessage {ε : Type} (message : ε → String) (e : ε) : Failure := .refused (message e) []

def fileFailure (e : FileError) : Failure := .refused e.action [e.cause.message]

/-- The renderer after a change. -/
def changed {ε : Type} (message : ε → String) (change : Except Crash (Except ε Renderer)) :
    Session m Renderer := do
  accepted (withMessage message) (← accepted (fun crash => .fault crash.fault) change)

/-- A line of a list: the id, with blanks up to fourteen characters, and the
name. -/
def effectLine (e : Effect) : String :=
  e.id ++ "".pushn ' ' (14 - e.id.length) ++ " " ++ e.displayName ++ "\n"

/-- The picture that was asked for. -/
def loadPicture (s : Storage m) (path : String) : Session m Picture := do
  accepted (fun e => .refused ("opening image " ++ path) e.causes) (← (Picture.load s path : m _))

/-- The timeline to show, before the options change it: a sample, the file
that was given or else remembered, or an empty one. -/
def chooseTimeline (s : Storage m) (o : Options) (settings : Settings) :
    Session m TimelineConfig := do
  match o.sample, o.timeline <|> settings.lastTimeline with
  | some name, _ =>
    match Sample.find? name with
    | some d => return d.config
    | none => throw (.refused ("no built-in timeline named '" ++ name ++ "'") [])
  | none, some path => return (← accepted fileFailure (← (TimelineDocument.load s path : m _))).config
  | none, none =>
    return { gridWidth := settings.grid.x, gridHeight := settings.grid.y,
             accumulation := settings.accumulation }

/-- A timeline with what the options say. -/
def Options.apply (o : Options) (c : TimelineConfig) : TimelineConfig :=
  let grid := o.grid.getD ⟨c.gridWidth, c.gridHeight⟩
  { c with gridWidth := grid.x, gridHeight := grid.y,
           accumulation := o.accumulation.getD c.accumulation }

/-- The nanoseconds from one frame to the next, at sixty a second. -/
def frameSpan : Nat := 16666667

/-- Shows frames, the first of them the `i`-th. Frames are timed by their
number in 32 bits. Nobody looks at what the device records, so it is dropped
after every frame. -/
def showFrames (i : Nat) : (count : Nat) → Renderer → Except Crash Renderer
  | 0, r => .ok r
  | n + 1, r => do
    let (r, _) ← r.frame (frameSpan * (i % UInt32.size))
    showFrames (i + 1) n { r with device := r.device.take.1 }

/-- How many frames are shown when nothing is said: a dump needs none. -/
def Options.frameCount (o : Options) : Nat :=
  (o.frames.map UInt64.toNat).getD (if o.dump then 0 else 60)

/-- A renderer of the timeline, its first command built. -/
def prepare (o : Options) (registry : Registry) (picture : Option Picture)
    (c : TimelineConfig) : Session m Renderer := do
  let r ← changed RenderError.message (Renderer.create {} registry c)
  let size := o.size.getD ⟨1280, 720⟩
  let (r, refused) ← accepted (fun crash => .fault crash.fault) (r.resize size.x size.y)
  match refused with
  | some e => throw (withMessage AllocationError.message e)
  | none => pure ()
  let r ← match picture with
    | some p => changed ConfigError.message (r.setPicture p)
    | none => pure r
  return (← accepted (fun crash => .fault crash.fault) r.finishBuild).1

/-- What a run does by its options. -/
def perform (s : Storage m) (settingsPath : Option String) (o : Options) : Session m Unit := do
  let settings ← match settingsPath with
    | some path => (Settings.load s path : m _)
    | none => pure {}
  let picture ← match o.image with
    | some path => some <$> loadPicture s path
    | none => pure none
  let pictures : Table Picture := match o.image, picture with
    | some path, some p => [(Picture.nameOf path, p)]
    | _, _ => []
  let registry := Registry.builtIn pictures
  match o.search with
  | some text => print (String.join ((registry.search text).map effectLine))
  | none =>
    if o.list then print (String.join (registry.effects.map effectLine))
    else
      let c := o.apply (← chooseTimeline s o settings)
      let r ← prepare o registry picture c
      match o.timeline, settingsPath with
      | some path, some file =>
        (Settings.save s (settings.remember path) file : m _)
      | _, _ => pure ()
      if o.dump then
        match r.slot.active with
        | some command => print (command.describe ++ "\n")
        | none => pure ()
      let _ ← accepted (fun crash => .fault crash.fault) (showFrames 0 o.frameCount r)
      if o.watch ∧ o.timeline = none then throw (.refused "--watch needs a timeline file" [])

/-- What a run does by its words. -/
def session (s : Storage m) (settingsPath : Option String) (words : List String) :
    Session m Unit := do
  match ← accepted (withMessage UsageError.message) (Options.parse {} words) with
  | .help => print usage
  | .run o => perform s settingsPath o

/-- A whole run. -/
def run (s : Storage m) (settingsPath : Option String) (words : List String) : m Outcome := do
  let (ended, output) ← (session s settingsPath words).run.run ""
  match ended with
  | .ok () => return { code := 0, output, errors := "" }
  | .error failure => return { code := failure.code, output, errors := failure.report }

end CommandLine

end ParticleTimeline
