import ParticleTimeline.Draw.Build
import ParticleTimeline.Draw.Slot
import ParticleTimeline.Render.Feedback
/-!
# The renderer

A renderer keeps a timeline on show. A change of the timeline or the picture
starts a build and is refused before anything changes if no build could
start. Builds are polled once in every frame; until the latest one has ended
the command before it goes on being drawn. A build that was superseded is
kept until it ends, so that its hooks are torn down, and its command is
never installed.

The journal holds the events of all hooks that ran, oldest first. A crash
ends everything: it carries the journal up to the end.
-/

namespace ParticleTimeline

/-- A build under way and its right to be installed. -/
structure PendingBuild where
  ticket : BuildTicket
  build : Build

/-- A renderer over a recording device. -/
structure Renderer where
  device : Device
  registry : Registry
  timeline : TimelineConfig
  picture : Option Picture := none
  grid : ParticleGrid Float32
  clock : Clock Float
  slot : CommandSlot := {}
  pending : Option PendingBuild := none
  /-- Superseded builds that have not ended, oldest first. -/
  retired : List PendingBuild := []
  reports : ReportQueue := {}
  feedback : Feedback
  particles : Framebuffer
  width : UInt32 := 1
  height : UInt32 := 1
  frames : Nat := 0
  journal : List HookEvent := []

/-- Why a renderer cannot do something. -/
inductive RenderError where
  | config (e : ConfigError)
  | allocation (e : AllocationError)
deriving DecidableEq

namespace RenderError

def message : RenderError → String
  | config e => e.message
  | allocation e => e.message

/-- The fault that the error is. -/
def fault? : RenderError → Option Fault
  | config _ => none
  | allocation e => e.fault?

end RenderError

/-- The end of a renderer by a fault. -/
structure Crash where
  fault : Fault
  journal : List HookEvent

/-- What happened in a frame. -/
structure FrameReport where
  time : Float
  delta : Float
  /-- Whether there was a command to draw. -/
  drew : Bool
  /-- Whether a build ended and was installed. -/
  installed : Bool
  /-- The failures that were reported before the frame. -/
  errors : List EffectError

namespace Renderer

/-- Writes hook events into the journal. -/
def note (r : Renderer) (events : List HookEvent) : Renderer :=
  { r with journal := r.journal ++ events }

/-- The clock as this frame sees it. -/
def moment (r : Renderer) : FrameContext := r.clock.frame r.width r.height

/-! ## Builds -/

/-- Takes in the result of a poll. What is left of the build comes back, and
whether its command was installed. -/
def settle (r : Renderer) (ticket : BuildTicket) (polled : Polled) :
    Except Crash (Renderer × Option PendingBuild × Bool) :=
  let r := { r.note polled.events with reports := r.reports.reportAll polled.reports }
  match polled.outcome with
  | .crashed fault => .error ⟨fault, r.journal⟩
  | .suspended build => .ok (r, some { ticket, build }, false)
  | .finished command =>
    let (slot, fit, events) := r.slot.install ticket command
    .ok ({ r.note events with slot }, none, fit)

/-- Polls superseded builds, and keeps those that have not ended. -/
def pollRetired : List PendingBuild → Renderer → Except Crash Renderer
  | [], r => .ok r
  | p :: rest, r => do
    let (r, left, _) ← r.settle p.ticket p.build.poll
    pollRetired rest { r with retired := r.retired ++ left.toList }

/-- Polls every build once, superseded ones first. Says whether a command
was installed. -/
def pollBuilds (r : Renderer) : Except Crash (Renderer × Bool) := do
  let r ← pollRetired r.retired { r with retired := [] }
  match r.pending with
  | none => return (r, false)
  | some p =>
    let (r, pending, fit) ← r.settle p.ticket p.build.poll
    return ({ r with pending }, fit)

/-- Starts a build of the current timeline, superseding one under way, and
polls it at once. -/
def startBuild (r : Renderer) (queue : List Queued) : Except Crash Renderer := do
  let (slot, ticket) := r.slot.begin
  let build := Build.start r.timeline r.grid r.moment queue
  let r := { r with slot, retired := r.retired ++ r.pending.toList, pending := some { ticket, build } }
  return (← r.pollBuilds).1

/-- Builds the current timeline again. -/
def rebuild (r : Renderer) : Except Crash (Except ConfigError Renderer) :=
  match Build.queue r.timeline r.registry with
  | .error e => .ok (.error e)
  | .ok queue => (r.startBuild queue).map .ok

/-- Waits for the build under way, and installs its command. -/
def finishBuild (r : Renderer) : Except Crash (Renderer × Bool) := do
  match r.pending with
  | none => return (r, false)
  | some p =>
    let (r, pending, fit) ← { r with pending := none }.settle p.ticket p.build.finish
    return ({ r with pending }, fit)

/-! ## Changes -/

/-- What a renderer consists of before its first build. -/
def prepare (device : Device) (registry : Registry) (timeline : TimelineConfig) :
    Except RenderError Renderer := do
  timeline.validate.mapError .config
  let grid ← (ParticleGrid.gradient timeline.gridWidth timeline.gridHeight).mapError .config
  let (device, feedback) ← (Feedback.create device timeline.accumulation).mapError .allocation
  let (device, particles) ← (device.create "particles" 1 1).mapError .allocation
  return { device, registry, timeline, grid, clock := .ofPeriod timeline.duration, feedback,
           particles }

/-- A renderer of a timeline, its first build started. -/
def create (device : Device) (registry : Registry) (timeline : TimelineConfig) :
    Except Crash (Except RenderError Renderer) :=
  match prepare device registry timeline with
  | .error e =>
    match e.fault? with
    | some fault => .error ⟨fault, []⟩
    | none => .ok (.error e)
  | .ok r => r.rebuild.map (·.mapError .config)

/-- Shows another timeline. -/
def setTimeline (r : Renderer) (timeline : TimelineConfig) :
    Except Crash (Except ConfigError Renderer) :=
  let prepared : Except ConfigError (List Queued × ParticleGrid Float32) := do
    let queue ← Build.queue timeline r.registry
    return (queue, ← ParticleGrid.sample r.picture timeline)
  match prepared with
  | .error e => .ok (.error e)
  | .ok (queue, grid) =>
    let clock := r.clock.setPeriod timeline.duration
    let (feedback, device) := r.feedback.setMode r.device timeline.accumulation
    ({ r with clock, feedback, device, timeline, grid }.startBuild queue).map .ok

/-- Samples the particles from another picture, or from the ramp. -/
def setPicture (r : Renderer) (picture : Option Picture) :
    Except Crash (Except ConfigError Renderer) :=
  let prepared : Except ConfigError (List Queued × ParticleGrid Float32) := do
    let queue ← Build.queue r.timeline r.registry
    return (queue, ← ParticleGrid.sample picture r.timeline)
  match prepared with
  | .error e => .ok (.error e)
  | .ok (queue, grid) => ({ r with picture, grid }.startBuild queue).map .ok

/-- Gives every framebuffer a new size. When one cannot be had, those before
it have their new size already, and the viewport keeps the old one. -/
def resizeBuffers (r : Renderer) (width height : UInt32) : Renderer × Option AllocationError :=
  let width := max width 1
  let height := max height 1
  let (feedback, device, refused) := r.feedback.resize r.device width height
  let r := { r with feedback, device }
  match refused with
  | some e => (r, some e)
  | none =>
    match r.device.resize r.particles width height with
    | .error e => (r, some e)
    | .ok (device, particles) => ({ r with device, particles, width, height }, none)

/-- Changes the viewport and the framebuffers with it. -/
def resize (r : Renderer) (width height : UInt32) :
    Except Crash (Renderer × Option AllocationError) :=
  let (r, refused) := r.resizeBuffers width height
  match refused.bind AllocationError.fault? with
  | some fault => .error ⟨fault, r.journal⟩
  | none => .ok (r, refused)

/-! ## Frames -/

/-- Draws the particles; the background is see-through when earlier frames
are to show. Says whether there was a command. -/
def drawParticles (r : Renderer) (frame : FrameContext) : Renderer × Bool :=
  let back := r.timeline.background
  let device := r.device.clear r.particles
    ⟨back.x, back.y, back.z, if r.feedback.isActive then 0 else 1⟩
  match r.slot.active with
  | none => ({ r with device }, false)
  | some c => ({ r with device := device.draw r.particles c (c.uniformValues frame) }, true)

/-- Draws the particles between the two halves of the feedback, and presents
the result. -/
def present (r : Renderer) (frame : FrameContext) : Renderer × Bool :=
  let (feedback, device) := r.feedback.prePass r.device
  let (r, drew) := { r with feedback, device }.drawParticles frame
  let (feedback, device, particles) := r.feedback.postPass r.device r.particles
  ({ r with feedback, particles, device := device.present particles, frames := r.frames + 1 },
    drew)

/-- One frame at an instant. -/
def frame (r : Renderer) (now : Nat) : Except Crash (Renderer × FrameReport) := do
  let (reports, errors) := r.reports.drain
  let (clock, _, fault) := r.clock.tick now
  match fault with
  | some fault => throw ⟨fault, r.journal⟩
  | none => pure ()
  let (r, installed) ← { r with reports, clock }.pollBuilds
  let moment := r.moment
  let (slot, events) := r.slot.runFrameHooks moment
  let (r, drew) := { r.note events with slot }.present moment
  return (r, { time := moment.time, delta := moment.delta, drew, installed, errors })

/-- Gives up the renderer: the active command is torn down, then the build
under way, then the superseded builds. -/
def drop (r : Renderer) : List HookEvent :=
  let (_, events) := r.slot.clear
  r.journal ++ events ++ (r.pending.toList ++ r.retired).flatMap fun p => p.build.abandon

end Renderer

end ParticleTimeline
