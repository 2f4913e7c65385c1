import ParticleTimeline.Render.Renderer
import ParticleTimeline.Settings
import ParticleTimeline.Trace.Value
/-!
# Traces of what runs

How a form, a clock, hooks, reports, a grid, passes, framebuffers, the calls
to a device and settings show in a trace. What is not a single value gives
members, to be put together with others.
-/

namespace ParticleTimeline

namespace Trace

def form (f : Form) : List (String × Json) :=
  [("changed", .bool f.changed), ("values", .object (f.values.mapValues fieldValue)),
    ("defs", texts (f.fields.map Field.name))]

/-! ## Clocks and hooks -/

def clock (c : Clock Float) : List (String × Json) :=
  [("time", double c.time), ("delta", double c.delta), ("period", double c.period),
    ("paused", .bool c.paused), ("pending", .nat c.pending.length)]

def clockEvent : ClockEvent → String
  | .wrapped => "Wrapped"
  | .paused => "Paused"
  | .resumed => "Resumed"

def delivery (d : Delivery) : String := toString d.listener ++ ":" ++ clockEvent d.event

/-- A frame hook with the time of the frame, a teardown hook bare. -/
def hookEvent : HookEvent → String
  | .framed tag frame => tag ++ "@" ++ FloatText.plain frame.time
  | .tornDown tag => tag

def hookEvents (events : List HookEvent) : Json := texts (events.map hookEvent)

/-- How many hooks there are of each kind. -/
def hookCounts (h : HookList) : List Json := [.nat h.frame.length, .nat h.teardown.length]

/-! ## Reports -/

def effectError (e : EffectError) : Json :=
  .object [("error", .text "EffectError"), ("effectId", .text e.effectId),
    ("message", .text e.message)]

def frameReport (f : FrameReport) : List (String × Json) :=
  [("time", double f.time), ("delta", double f.delta), ("drew", .bool f.drew),
    ("installed", .bool f.installed), ("errors", .array (f.errors.map effectError))]

/-! ## Particles -/

def grid (g : ParticleGrid Float32) : List (String × Json) :=
  let places := List.range (g.size + 1)
  [("w", .word g.width), ("h", .word g.height), ("len", .nat g.size),
    ("empty", .bool g.isEmpty),
    ("vertices", .array (places.map fun i => ((g.vertex? i).map vertex).getD .null)),
    ("lens", .array [.nat g.texcoord.size, .nat g.rgb.size, .nat g.hsv.size]),
    ("bytes", .text (hex g.bytes))]

/-! ## Passes -/

def blendFactor : BlendFactor → String
  | .one => "One"
  | .sourceAlpha => "SrcAlpha"
  | .oneMinusSourceAlpha => "OneMinusSrcAlpha"

def blend : Option Blend → Json
  | some b => texts [blendFactor b.source, blendFactor b.target]
  | none => .null

def pass (p : FullscreenPass) : List (String × Json) :=
  let shown (name : String) : Json := ((p.uniform? name).map uniformValue).getD .null
  [("label", .text p.label), ("frag", .text p.frag),
    ("uniforms", .array (p.uniforms.map fun u => .array [.text u.1, uniformValue u.2])),
    ("blend", blend p.blend), ("decay", shown "u_decay"), ("texel", shown "u_texel")]

/-! ## Devices -/

def framebuffer (fb : Framebuffer) : Json :=
  .array [.nat fb.id, .text fb.label, .word fb.width, .word fb.height]

def uniformValues (t : Table UniformValue) : Json := .object (t.mapValues uniformValue)

def deviceCall : DeviceCall → Json
  | .clear target c => .array [.text "clear", .nat target, singles c.toList]
  | .draw target count uniforms =>
    .array [.text "draw", .nat target, .word count, uniformValues uniforms]
  | .pass p inputs target =>
    .array [.text "pass", .text p.label, .array (inputs.map Json.nat), .nat target]
  | .present source => .array [.text "present", .nat source]

/-- A device and the framebuffers that it handed out, if their bytes can be
counted. -/
def device (d : Device) (framebuffers : List Framebuffer) :
    Except AllocationError (List (String × Json)) := do
  let allocated ← d.allocated
  return [("allocated", .nat allocated), ("presented", .nat d.presented),
    ("ops", .nat d.calls.size), ("framebuffers", .array (framebuffers.map framebuffer))]

def deviceCalls (calls : Array DeviceCall) : Json := .array (calls.toList.map deviceCall)

def feedback (f : Feedback) : List (String × Json) :=
  [("mode", Mode.toJson f.mode), ("state", .text (if f.isActive then "StepActive" else "Idle")),
    ("active", .bool f.isActive), ("readIndex", .nat f.readIndex),
    ("read", framebuffer f.history), ("write", framebuffer f.spare),
    ("size", .array [.word f.width, .word f.height])]

/-! ## Renderers -/

def command (c : DrawCommand) : Json :=
  .object [("count", .word c.count), ("uniforms", texts (Table.names c.uniforms)),
    ("attributes", texts (Table.names c.attributes)), ("hooks", .array (hookCounts c.hooks))]

/-- A renderer, if the bytes of its device can be counted. -/
def renderer (r : Renderer) : Except AllocationError (List (String × Json)) := do
  let allocated ← r.device.allocated
  return [
    ("ops", deviceCalls r.device.calls), ("command", (r.slot.active.map command).getD .null),
    ("building", .bool r.pending.isSome), ("retired", .nat r.retired.length),
    ("frames", .nat r.frames), ("presented", .nat r.device.presented),
    ("allocated", .nat allocated),
    ("accumulation", .object (feedback r.feedback)), ("clock", .object (clock r.clock)),
    ("grid", .array [.word r.grid.width, .word r.grid.height]),
    ("instances", .nat r.timeline.instances.length), ("log", hookEvents r.journal)]

/-! ## Settings -/

def settings (s : Settings) : List (String × Json) :=
  [("version", .word s.version), ("grid", .array (s.grid.toList.map Json.word)),
    ("accumulation", Mode.toJson s.accumulation),
    ("last", (s.lastTimeline.map Json.text).getD .null)]

end Trace

end ParticleTimeline
