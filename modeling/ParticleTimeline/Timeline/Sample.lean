import ParticleTimeline.Timeline.Document
/-!
# The timelines that come with the program

Two documents under a name, found whatever the case of its letters.
-/

namespace ParticleTimeline

namespace Sample

/-- A wave that gathers, over a displacement by hue. -/
def ripple : TimelineConfig where
  tracks := [
    [{ effectId := "Wave", timeBegin := 0, timeEnd := 6000, repetitions := 2,
       config := .object [("amplitude", .double 0.05), ("direction", .double 0.0),
         ("wavelength", .double 0.3)] },
     { effectId := "Converge", timeBegin := 6000, timeEnd := 10000,
       config := .object [("strength", .double 0.8), ("target", .text "center")] }],
    [{ effectId := "HueDisplace", timeBegin := 2000, timeEnd := 9000,
       config := .object [("distance", .double 0.08), ("scaleByValue", .bool true)] }]]
  gridWidth := 160
  gridHeight := 120
  particleSize := 6
  fading := true
  accumulation := .trails

/-- A tint that comes and goes. -/
def tint : TimelineConfig where
  tracks := [
    [{ effectId := "Colorize", timeBegin := 0, timeEnd := 8000, repetitions := 4,
       config := .object [("amount", .double 0.6),
         ("color", .array [.double 1.0, .double 0.4, .double 0.1])] }]]
  gridWidth := 96
  gridHeight := 96
  particleSize := 10
  shape := .square
  overlap := .alpha
  background := ⟨0.05, 0.05, 0.08⟩
  accumulation := .smear

/-- The samples, in the order they are shown. -/
def all : List (String × TimelineConfig) := [("Ripple", ripple), ("Tint", tint)]

/-- The sample of a name; the case of ASCII letters does not count. -/
def find? (name : String) : Option TimelineDocument :=
  (all.find? fun s => s.1.map Char.toLower = name.map Char.toLower).map fun s => { config := s.2 }

end Sample

end ParticleTimeline
