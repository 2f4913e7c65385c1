import ParticleTimeline.Effect.Basic
/-!
# Effects that move particles

A wave across the grid, a push along the hue, and a gathering onto a shape.
Each reads a configuration of its own, whose fields all have defaults, and
adds to the vertex stage.
-/

namespace ParticleTimeline

/-- One degree in radians. -/
def degree : Float32 := Float32.ofBits 0x40490FDB / 180

/-- A uniform that stays the same. -/
def fixedFloat (x : Float32) : Uniform := .constant (.float x)

/-! ## Wave -/

/-- How a wave looks. -/
structure WaveConfig where
  /-- Displacement in clip space. -/
  amplitude : Float32 := 0.05
  wavelength : Float32 := 0.5
  /-- Direction of travel in degrees. -/
  direction : Float32 := 0
  /-- Cycles in one repetition. -/
  speed : Float32 := 1

namespace WaveConfig

def setField (c : WaveConfig) (name : String) (v : Json) : Except Json.Mismatch WaveConfig := do
  match name with
  | "amplitude" => return { c with amplitude := ← Json.Decoder.single v }
  | "wavelength" => return { c with wavelength := ← Json.Decoder.single v }
  | "direction" => return { c with direction := ← Json.Decoder.single v }
  | "speed" => return { c with speed := ← Json.Decoder.single v }
  | _ => return c

def decode : Json.Decoder WaveConfig :=
  Json.Decoder.record "WaveConfig" ["amplitude", "wavelength", "direction", "speed"] 0 setField {}

/-- The shortest wavelength that is drawn. -/
def leastWavelength : Float32 := 0.05

/-- The direction as a vector of length one. -/
def heading (c : WaveConfig) : Vec2 Float32 :=
  let angle := c.direction * degree
  ⟨angle.cos, angle.sin⟩

end WaveConfig

/-- A sine wave that pushes particles sideways. -/
def Effect.wave : Effect where
  id := "Wave"
  displayName := "Wave"
  description := "Ripples particles sideways as a sine wave passes through"
  fields :=
    let d : WaveConfig := {}
    [⟨"amplitude", "Amplitude", .float d.amplitude 0 0.5⟩,
      ⟨"wavelength", "Wavelength", .float d.wavelength WaveConfig.leastWavelength 2⟩,
      ⟨"direction", "Direction", .float d.direction 0 360⟩,
      ⟨"speed", "Speed", .float d.speed 0 10⟩]
  register r :=
    let c := r.config WaveConfig.decode {}
    let amplitude := r.identifier "amplitude"
    let wavelength := r.identifier "wavelength"
    let direction := r.identifier "direction"
    let speed := r.identifier "speed"
    .ofActions [
      .bindUniform "amplitude" .float (fixedFloat c.amplitude),
      .bindUniform "wavelength" .float
        (fixedFloat (Scalar.max c.wavelength WaveConfig.leastWavelength)),
      .bindUniform "direction" .vec2 (.constant (.vec2 c.heading)),
      .bindUniform "speed" .float (fixedFloat c.speed),
      .addMain .vertex
        ("float wavePhase = dot(initialPosition.xy, " ++ direction ++ ") / " ++ wavelength
          ++ " - " ++ r.progress ++ " * " ++ speed ++ ";\n"
          ++ "position.xy += vec2(-" ++ direction ++ ".y, " ++ direction ++ ".x) * " ++ amplitude
          ++ " * sin(wavePhase * 6.28318530718);")]

/-! ## Hue displacement -/

/-- How far the hue pushes. -/
structure HueDisplaceConfig where
  distance : Float32 := 0.1
  /-- Whether bright particles go further. -/
  scaleByValue : Bool := true
  /-- Degrees added to every hue. -/
  rotate : Float32 := 0

namespace HueDisplaceConfig

def setField (c : HueDisplaceConfig) (name : String) (v : Json) :
    Except Json.Mismatch HueDisplaceConfig := do
  match name with
  | "distance" => return { c with distance := ← Json.Decoder.single v }
  | "scaleByValue" => return { c with scaleByValue := ← Json.Decoder.bool v }
  | "rotate" => return { c with rotate := ← Json.Decoder.single v }
  | _ => return c

def decode : Json.Decoder HueDisplaceConfig :=
  Json.Decoder.record "HueDisplaceConfig" ["distance", "scaleByValue", "rotate"] 0 setField {}

end HueDisplaceConfig

/-- Pushes every particle along the direction of its hue, out and back once
in a repetition. -/
def Effect.hueDisplace : Effect where
  id := "HueDisplace"
  displayName := "Hue displace"
  fields :=
    let d : HueDisplaceConfig := {}
    [⟨"distance", "Distance", .float d.distance 0 1⟩,
      ⟨"scaleByValue", "Scale by brightness", .bool d.scaleByValue⟩,
      ⟨"rotate", "Rotate", .float d.rotate 0 360⟩]
  register r :=
    let c := r.config HueDisplaceConfig.decode {}
    let scale := if c.scaleByValue then " * hsv.z" else ""
    .ofActions [
      .bindUniform "distance" .float (fixedFloat c.distance),
      .bindUniform "rotate" .float (fixedFloat (c.rotate * degree)),
      .addMain .vertex
        ("float hueAngle = hsv.x * 6.28318530718 + " ++ r.identifier "rotate" ++ ";\n"
          ++ "float hueAmount = " ++ r.identifier "distance" ++ " * sin(" ++ r.progress
          ++ " * 3.14159265359)" ++ scale ++ ";\n"
          ++ "position.xy += vec2(cos(hueAngle), sin(hueAngle)) * hueAmount;")]

/-! ## Converging -/

/-- Where particles gather. -/
inductive ConvergeTarget where
  | center
  | ring
  | horizon
deriving DecidableEq, Repr

namespace ConvergeTarget

def all : List ConvergeTarget := [center, ring, horizon]

def name : ConvergeTarget → String
  | center => "center"
  | ring => "ring"
  | horizon => "horizon"

/-- The target of a name, or what is wrong with the name. -/
def parse (text : String) : Except String ConvergeTarget :=
  match all.find? fun t => t.name = text with
  | some t => .ok t
  | none => .error ("unknown converge target '" ++ text ++ "'")

/-- Where a particle goes, as an expression. -/
def place (radius : String) : ConvergeTarget → String
  | center => "vec2(0.0)"
  | ring => "normalize(initialPosition.xy + vec2(1e-5)) * " ++ radius
  | horizon => "vec2(initialPosition.x, 0.0)"

end ConvergeTarget

/-- How particles gather; the target is a word, looked up only when the
effect is registered. -/
structure ConvergeConfig where
  target : String := ConvergeTarget.center.name
  strength : Float32 := 0.8
  radius : Float32 := 0.5

namespace ConvergeConfig

def setField (c : ConvergeConfig) (name : String) (v : Json) :
    Except Json.Mismatch ConvergeConfig := do
  match name with
  | "target" => return { c with target := ← Json.Decoder.text v }
  | "strength" => return { c with strength := ← Json.Decoder.single v }
  | "radius" => return { c with radius := ← Json.Decoder.single v }
  | _ => return c

def decode : Json.Decoder ConvergeConfig :=
  Json.Decoder.record "ConvergeConfig" ["target", "strength", "radius"] 0 setField {}

end ConvergeConfig

/-- Gathers particles onto a shape and lets them go again. -/
def Effect.converge : Effect where
  id := "Converge"
  displayName := "Converge"
  fields :=
    let d : ConvergeConfig := {}
    [⟨"target", "Target", .choice d.target (ConvergeTarget.all.map ConvergeTarget.name)⟩,
      ⟨"strength", "Strength", .float d.strength 0 1⟩,
      ⟨"radius", "Ring radius", .float d.radius 0 1⟩]
  register r :=
    let c := r.config ConvergeConfig.decode {}
    match ConvergeTarget.parse c.target with
    | .error complaint => .failing "Converge" complaint
    | .ok target =>
      let ease := r.identifier "convergeEase"
      .ofActions [
        .bindUniform "strength" .float (fixedFloat c.strength),
        .bindUniform "radius" .float (fixedFloat c.radius),
        .addGlobal .vertex
          ("float " ++ ease ++ "(float t) \x7b\n    float s = sin(t * 3.14159265359);\n"
            ++ "    return s * s;\n\x7d"),
        .addMain .vertex
          ("position.xy = mix(position.xy, " ++ target.place (r.identifier "radius") ++ ", "
            ++ ease ++ "(" ++ r.progress ++ ") * " ++ r.identifier "strength" ++ ");")]

end ParticleTimeline
