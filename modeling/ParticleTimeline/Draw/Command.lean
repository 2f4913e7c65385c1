import ParticleTimeline.Draw.Hook
import ParticleTimeline.Glsl.Binding
import ParticleTimeline.Json.Printer
/-!
# Draw commands

Everything a particle draw needs: how many points, the two sources, the two
binding tables, and how the points blend. A command draws points without a
depth test. Its hooks travel with it, and it is torn down only on purpose.
-/

namespace ParticleTimeline

/-- What a colour is multiplied with when it is blended. -/
inductive BlendFactor where
  | one
  | sourceAlpha
  | oneMinusSourceAlpha
deriving DecidableEq, Repr

def BlendFactor.name : BlendFactor → String
  | one => "one"
  | sourceAlpha => "srcAlpha"
  | oneMinusSourceAlpha => "oneMinusSrcAlpha"

/-- The factors of what is drawn and of what is there. -/
structure Blend where
  source : BlendFactor
  target : BlendFactor
deriving DecidableEq, Repr

namespace Blend

/-- What is drawn is added to what is there. -/
def additive : Blend := ⟨.one, .one⟩

/-- What is drawn covers what is there by its alpha. -/
def alpha : Blend := ⟨.sourceAlpha, .oneMinusSourceAlpha⟩

def toJson (b : Blend) : Json :=
  .object [("src", .text b.source.name), ("dst", .text b.target.name)]

end Blend

/-- A particle draw, complete. -/
structure DrawCommand where
  count : UInt32
  attributes : BindingTable Attribute
  uniforms : BindingTable Uniform
  vert : String
  frag : String
  /-- Nothing when the points overwrite each other. -/
  blend : Option Blend
  hooks : HookList

namespace DrawCommand

/-- The value of every uniform in a frame. -/
def uniformValues (c : DrawCommand) (frame : FrameContext) : Table UniformValue :=
  c.uniforms.mapValues fun e => e.value.resolve frame

def runFrameHooks (c : DrawCommand) (frame : FrameContext) : DrawCommand × List HookEvent :=
  let (hooks, events) := c.hooks.runFrame frame
  ({ c with hooks }, events)

/-- Gives the command up. -/
def tearDown (c : DrawCommand) : List HookEvent := c.hooks.tearDown

/-! ## As JSON -/

def attributeJson (e : Entry Attribute) : Json :=
  .object [("type", .text e.type.name), ("len", .nat e.value.data.size)]

/-- The value is shown only when it is the same in all frames. -/
def uniformJson (e : Entry Uniform) : Json :=
  match e.value with
  | .constant v => .object [("type", .text e.type.name), ("value", v.toJson)]
  | .perFrame _ => .object [("type", .text e.type.name)]

/-- A description of the command. -/
def toJson (c : DrawCommand) : Json :=
  .object ([("primitive", .text "points"), ("count", .word c.count),
    ("attributes", .object (c.attributes.mapValues attributeJson)),
    ("uniforms", .object (c.uniforms.mapValues uniformJson)),
    ("vert", .text c.vert), ("frag", .text c.frag),
    ("depth", .object [("enable", .bool false)])]
    ++ c.blend.toList.map fun b => ("blend", b.toJson))

/-- The description as text. -/
def describe (c : DrawCommand) : String := c.toJson.pretty

end DrawCommand

end ParticleTimeline
