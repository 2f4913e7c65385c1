import ParticleTimeline.Draw.Command
import ParticleTimeline.Timeline.Mode
/-!
# Fullscreen passes

Passes that run over a whole framebuffer: one step of the feedback for each
mode, the pass that adds the particles to the history, and the pass that
mixes the two.
-/

namespace ParticleTimeline

/-- A fragment pass over a whole framebuffer. -/
structure FullscreenPass where
  label : String
  frag : String
  uniforms : List (String × UniformValue) := []
  blend : Option Blend := none
deriving DecidableEq

namespace FullscreenPass

/-- Lines of text, each ended. -/
def lines (ls : List String) : String := String.join (ls.map (· ++ "\n"))

/-- The vertex stage of every pass: one triangle that is larger than the
viewport. -/
def vertexSource : String := lines [
  "attribute vec2 a_position;",
  "varying vec2 v_uv;",
  "void main() \x7b",
  "    v_uv = a_position * 0.5 + 0.5;",
  "    gl_Position = vec4(a_position, 0.0, 1.0);",
  "\x7d"]

/-- A fragment stage with its uniforms and the body of its main function. -/
def fragment (uniforms body : List String) : String :=
  lines (["precision highp float;"] ++ uniforms ++ ["varying vec2 v_uv;", "void main() \x7b"]
    ++ body ++ ["\x7d"])

/-- Fades the source. -/
def decaySource : String := fragment
  ["uniform sampler2D u_source;", "uniform float u_decay;"]
  ["    gl_FragColor = texture2D(u_source, v_uv) * u_decay;"]

/-- Fades the source and blurs it over its neighbours. -/
def blurSource : String := fragment
  ["uniform sampler2D u_source;", "uniform vec2 u_texel;", "uniform float u_decay;"]
  ["    vec4 sum = texture2D(u_source, v_uv + vec2(u_texel.x, 0.0))",
    "        + texture2D(u_source, v_uv - vec2(u_texel.x, 0.0))",
    "        + texture2D(u_source, v_uv + vec2(0.0, u_texel.y))",
    "        + texture2D(u_source, v_uv - vec2(0.0, u_texel.y));",
    "    gl_FragColor = sum * 0.25 * u_decay;"]

/-- Fades the source and turns it, the more the further from the middle. -/
def smearSource : String := fragment
  ["uniform sampler2D u_source;", "uniform float u_decay;"]
  ["    vec2 d = v_uv - 0.5;",
    "    float a = 0.01 * length(d);",
    "    vec2 swirl = vec2(d.x * cos(a) - d.y * sin(a), d.x * sin(a) + d.y * cos(a)) * 0.995;",
    "    gl_FragColor = texture2D(u_source, swirl + 0.5) * u_decay;"]

/-- Mixes the particles and the history evenly. -/
def mixSource : String := fragment
  ["uniform sampler2D u_particles;", "uniform sampler2D u_history;"]
  ["    gl_FragColor = mix(texture2D(u_particles, v_uv), texture2D(u_history, v_uv), 0.5);"]

/-- How much of a pass is kept. -/
def decay (x : Float32) : String × UniformValue := ("u_decay", .float x)

/-- One texel of a framebuffer. -/
def texel (width height : UInt32) : Vec2 Float32 where
  x := 1 / Scalar.natural (max width 1).toNat
  y := 1 / Scalar.natural (max height 1).toNat

/-- The step that turns the history into a faded copy of it, for a mode that
has one. -/
def step? (mode : AccumulationMode) (width height : UInt32) : Option FullscreenPass :=
  match mode with
  | .none => none
  | .trails =>
    some { label := "accumulation-trails", frag := decaySource, uniforms := [decay 0.9] }
  | .smoothTrails =>
    some
      { label := "accumulation-smooth-trails", frag := blurSource,
        uniforms := [("u_texel", .vec2 (texel width height)), decay 0.98] }
  | .smear =>
    some { label := "accumulation-smear", frag := smearSource, uniforms := [decay 0.975] }

/-- The part of the particles that goes into the history. -/
def applyWeight : Float32 := 0.25

/-- Adds some of the particles to the history. -/
def apply : FullscreenPass where
  label := "accumulation-apply"
  frag := decaySource
  uniforms := [decay applyWeight]
  blend := some .additive

/-- Mixes the particles with the history. -/
def composite : FullscreenPass where
  label := "accumulation-composite"
  frag := mixSource

/-- The value of a uniform. -/
def uniform? (p : FullscreenPass) (name : String) : Option UniformValue := p.uniforms.lookup name

end FullscreenPass

end ParticleTimeline
