import ParticleTimeline.Number.Whole
import ParticleTimeline.Timeline.Mode
import ParticleTimeline.Number.Scalar
/-!
# Options

The words behind the name of the program. A word that begins with a dash is
an option, and some options take the next word as their value, whatever it
is; any other word is the path of a timeline. Words are taken in order, so
the first that is wrong is reported, the last of several equal options
counts, and a wish for help is granted at once.
-/

namespace ParticleTimeline

namespace CommandLine

/-- What a run is to do. -/
structure Options where
  /-- The path of a timeline. -/
  timeline : Option String := none
  /-- The name of a timeline that comes with the program. -/
  sample : Option String := none
  grid : Option (Vec2 UInt32) := none
  accumulation : Option AccumulationMode := none
  /-- The path of a picture. -/
  image : Option String := none
  frames : Option UInt64 := none
  /-- The size of the viewport. -/
  size : Option (Vec2 UInt32) := none
  dump : Bool := false
  watch : Bool := false
  list : Bool := false
  search : Option String := none

/-- What is asked for. -/
inductive Invocation where
  | help
  | run (options : Options)

/-- What is wrong with the words. -/
inductive UsageError where
  | missingValue (option : String)
  | unknownOption (word : String)
  | noSize (text : String)
  | number (e : WholeError)
  | mode (e : ConfigError)
deriving DecidableEq

/-- How the program is used. -/
def usage : String := String.join [
  "usage: pixelgrain [TIMELINE.json] [options]\n",
  "\n",
  "options:\n",
  "  --builtin NAME        use an embedded timeline (Ripple, Tint)\n",
  "  --grid WxH            override the particle grid size\n",
  "  --accumulation MODE   none | trails | smooth-trails | smear\n",
  "  --image PATH          sample particles from an image (also usable by ChangeImage)\n",
  "  --frames N            simulate N frames at 60 fps (default 60)\n",
  "  --size WxH            viewport size for the simulation (default 1280x720)\n",
  "  --dump                print the built draw command as JSON\n",
  "  --watch               rebuild whenever the timeline file changes\n",
  "  --list                list available effects\n",
  "  --search QUERY        list effects whose id or name contains QUERY\n"]

def UsageError.message : UsageError → String
  | missingValue option => option ++ " needs a value"
  | unknownOption word => "unknown option " ++ word ++ "\n\n" ++ usage
  | noSize text => "expected WxH, got '" ++ text ++ "'"
  | number e => e.message
  | mode e => e.message

/-- A width and a height, parted by the first letter x. -/
def parseSize (text : String) : Except UsageError (Vec2 UInt32) := do
  let (width, rest) := text.toList.span fun c => c ≠ 'x' && c ≠ 'X'
  match rest with
  | [] => throw (.noSize text)
  | _ :: height =>
    let x ← (Whole.parse32 (String.ofList width)).mapError .number
    let y ← (Whole.parse32 (String.ofList height)).mapError .number
    return ⟨x, y⟩

namespace Options

/-- The options that stand alone. -/
def switches : List (String × (Options → Options)) := [
  ("--dump", fun o => { o with dump := true }),
  ("--watch", fun o => { o with watch := true }),
  ("--list", fun o => { o with list := true })]

/-- The options that take a value. -/
def settings : List (String × (Options → String → Except UsageError Options)) := [
  ("--builtin", fun o value => return { o with sample := some value }),
  ("--grid", fun o value => return { o with grid := some (← parseSize value) }),
  ("--accumulation", fun o value =>
    return { o with accumulation := some (← (Mode.parse value).mapError .mode) }),
  ("--image", fun o value => return { o with image := some value }),
  ("--frames", fun o value =>
    return { o with frames := some (← (Whole.parse64 value).mapError .number) }),
  ("--size", fun o value => return { o with size := some (← parseSize value) }),
  ("--search", fun o value => return { o with search := some value })]

/-- Takes the words, one after the other. -/
def parse (o : Options) : List String → Except UsageError Invocation
  | [] => return .run o
  | word :: rest =>
    if word = "-h" ∨ word = "--help" then return .help
    else
      match switches.lookup word, settings.lookup word, rest with
      | some set, _, rest => parse (set o) rest
      | none, some _, [] => throw (.missingValue word)
      | none, some set, value :: rest => do parse (← set o value) rest
      | none, none, rest =>
        if word.startsWith "-" then throw (.unknownOption word)
        else parse { o with timeline := some word } rest

end Options

end CommandLine

end ParticleTimeline
