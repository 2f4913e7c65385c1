import ParticleTimeline.Draw.Command
import ParticleTimeline.Glsl.Stages
import ParticleTimeline.Timeline.Config
/-!
# What stands around the effects

Before the first effect both stages declare the variables that effects read
and write: `initialPosition`, `position`, `color` and `pointSize` in the
vertex stage, `color` in the fragment stage. After the last one the vertex
stage places and sizes the particle, and the fragment stage cuts its shape
and writes its colour for the overlap of the timeline.
-/

namespace ParticleTimeline

namespace Shell

/-- Text of several lines. -/
def lines (ls : List String) : String := "\n".intercalate ls

/-- Width over height of the particle grid. -/
def gridAspect (c : TimelineConfig) : Float32 :=
  Scalar.natural c.gridWidth.toNat / Scalar.natural (max c.gridHeight 1).toNat

/-- What comes before the effects. -/
def prologue (c : TimelineConfig) (s : Stages) : Stages :=
  let s := s.both (·.declare .varying .vec3 "v_color")
  { vertex := s.vertex.addMain (lines [
      "vec3 initialPosition = vec3(texcoord * 2.0 - 1.0, 0.0);",
      "initialPosition.x *= " ++ FloatText.literal (Binary.widen (gridAspect c)) ++ ";",
      "vec3 position = initialPosition;",
      "vec3 color = rgb;",
      "float pointSize = particleSize;"])
    fragment := s.fragment.addMain "vec3 color = v_color;" }

/-- The test for the inside of a shape. It leaves `fade` at one in the
middle and at zero on the edge. -/
def shapeTest : ParticleShape → String
  | .circle => lines [
      "vec2 p = gl_PointCoord * 2.0 - 1.0;",
      "float dist = length(p);",
      "if (dist > 1.0) \x7b discard; \x7d",
      "float fade = 1.0 - dist;"]
  | .square => lines [
      "vec2 p = gl_PointCoord * 2.0 - 1.0;",
      "float fade = 1.0 - max(abs(p.x), abs(p.y));"]
  -- Point coordinates grow downwards; the tip is to point up.
  | .triangle => lines [
      "vec2 p = (gl_PointCoord * 2.0 - 1.0) * vec2(1.0, -1.0);",
      "float edge = max(abs(p.x) * 0.866025 + p.y * 0.5, -p.y);",
      "if (edge > 0.5) \x7b discard; \x7d",
      "float fade = 1.0 - edge * 2.0;"]

/-- The statement that writes the colour. -/
def output : ParticleOverlap → String
  | .alpha => "gl_FragColor = vec4(color, alpha);"
  | .add | .overwrite => "gl_FragColor = vec4(color * alpha, 1.0);"

/-- How particles blend. -/
def blend : ParticleOverlap → Option Blend
  | .add => some .additive
  | .alpha => some .alpha
  | .overwrite => none

/-- What comes after the effects. -/
def epilogue (c : TimelineConfig) (s : Stages) : Stages where
  vertex := s.vertex.addMain (lines [
    "gl_Position = vec4(position.x * invScreenAspectRatio, position.y, position.z, 1.0);",
    "gl_PointSize = max(pointSize, 0.0);",
    "v_color = color;"])
  fragment := ((s.fragment.addMain (shapeTest c.shape)).addMain
    ("float alpha = " ++ (if c.fading then "fade" else "1.0") ++ ";")).addMain
    (output c.overlap)

end Shell

end ParticleTimeline
