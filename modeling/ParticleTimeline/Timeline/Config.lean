import ParticleTimeline.Timeline.Instance
import ParticleTimeline.Timeline.Mode
/-!
# Timelines

Tracks of effect instances, plus what holds for all particles. Tracks run at
the same time; instances are built track by track, each from front to back.
`validate` looks at the grid first and then at the instances in that order.
-/

namespace ParticleTimeline

/-- The instances of one track, from front to back. -/
abbrev Track := List EffectInstance

/-- A timeline. -/
structure TimelineConfig where
  tracks : List Track := []
  gridWidth : UInt32 := 160
  gridHeight : UInt32 := 160
  particleSize : Float32 := 8
  shape : ParticleShape := .circle
  fading : Bool := false
  overlap : ParticleOverlap := .add
  background : Vec3 Float32 := ⟨0, 0, 0⟩
  accumulation : AccumulationMode := .none
  scaling : ImageScaling := .fit

/-- How many particles a grid has; an empty grid has none, and one above the
limit is refused. -/
def gridParticleCount (width height : UInt32) : Except ConfigError UInt32 :=
  if width = 0 ∨ height = 0 then .error (.emptyGrid width height)
  else if width.toNat * height.toNat ≤ maxParticles then .ok (width * height)
  else .error (.gridTooLarge width height)

namespace TimelineConfig

/-- The particles of the grid, held within 32 bits. -/
def particleCount (c : TimelineConfig) : UInt32 :=
  if c.gridWidth.toNat * c.gridHeight.toNat < UInt32.size then c.gridWidth * c.gridHeight
  else 0xFFFFFFFF

/-- Every instance in build order. -/
def instances (c : TimelineConfig) : List EffectInstance := c.tracks.flatten

/-- The latest end of an instance, or zero. -/
def duration (c : TimelineConfig) : Float :=
  (c.instances.map EffectInstance.timeEnd).foldl Scalar.max 0.0

def validate (c : TimelineConfig) : Except ConfigError Unit := do
  let _ ← gridParticleCount c.gridWidth c.gridHeight
  c.instances.forM EffectInstance.validate

/-! ## As JSON -/

def fields : List String :=
  ["tracks", "particleGridWidth", "particleGridHeight", "particleSize", "particleShape",
    "particleFading", "particleOverlap", "backgroundColor", "accumulation", "imageScaling"]

def setField (c : TimelineConfig) (name : String) (v : Json) :
    Except Json.Mismatch TimelineConfig := do
  match name with
  | "tracks" =>
    return { c with tracks := ← Json.Decoder.list (Json.Decoder.list EffectInstance.decode) v }
  | "particleGridWidth" => return { c with gridWidth := ← Json.Decoder.word v }
  | "particleGridHeight" => return { c with gridHeight := ← Json.Decoder.word v }
  | "particleSize" => return { c with particleSize := ← Json.Decoder.single v }
  | "particleShape" => return { c with shape := ← Mode.decode v }
  | "particleFading" => return { c with fading := ← Json.Decoder.bool v }
  | "particleOverlap" => return { c with overlap := ← Mode.decode v }
  | "backgroundColor" =>
    return { c with background := ← Json.Decoder.triple Json.Decoder.single v }
  | "accumulation" => return { c with accumulation := ← Mode.decode v }
  | "imageScaling" => return { c with scaling := ← Mode.decode v }
  | _ => return c

/-- A timeline on its own; nothing has to be there. -/
def decode : Json.Decoder TimelineConfig :=
  Json.Decoder.record "TimelineConfig" fields 0 setField {}

/-- The parts of a text that `decode` looks at. -/
def outline : Json.Reader.Outline :=
  .record (fields.map fun f =>
    (f, if f = "tracks" then .each (.each EffectInstance.outline) else .all))

/-- The members of a timeline, in the order of its fields. -/
def members (c : TimelineConfig) : List (String × Json) :=
  [("tracks", .array (c.tracks.map fun t => .array (t.map EffectInstance.toJson))),
    ("particleGridWidth", .word c.gridWidth),
    ("particleGridHeight", .word c.gridHeight),
    ("particleSize", .single c.particleSize),
    ("particleShape", Mode.toJson c.shape),
    ("particleFading", .bool c.fading),
    ("particleOverlap", Mode.toJson c.overlap),
    ("backgroundColor", .array (c.background.toList.map Json.single)),
    ("accumulation", Mode.toJson c.accumulation),
    ("imageScaling", Mode.toJson c.scaling)]

end TimelineConfig

end ParticleTimeline
