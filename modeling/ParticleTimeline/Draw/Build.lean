import ParticleTimeline.Draw.Shell
import ParticleTimeline.Effect.Registry
/-!
# Builds

A build turns a timeline into a draw command. The instances are queued in
build order and registered one after the other; each gets a block of its own
in both main functions, behind its guard. A registration that succeeds has
its bindings flushed into the tables and its hooks added to the build; one
that fails is rolled back, leaves a comment in its block, has its hooks torn
down, and is reported.

A registration may wait. `poll` goes on to the next wait and gives back what
is left to do, so a build is a value that can be kept, polled again, or
abandoned; `finish` sits out every wait. Whenever a build ends without a
command, the hooks it holds are torn down: those of the registration under
way, then those of the build, each list backwards.
-/

namespace ParticleTimeline

/-- An instance and the effect that will register it. -/
structure Queued where
  subject : EffectInstance
  effect : Effect

/-- What a build holds while it goes through its queue. -/
structure Draft where
  timeline : TimelineConfig
  grid : ParticleGrid Float32
  /-- The clock when the build began. -/
  moment : FrameContext
  uniforms : BindingTable Uniform
  attributes : BindingTable Attribute
  hooks : HookList := {}
  /-- The number of the registration under way, or of the next. -/
  number : Nat := 0

/-- A registration under way. -/
structure Ongoing where
  subject : EffectInstance
  /-- Where the sources stood when its block had been opened. -/
  marks : StageMarks
  contribution : Contribution
  moves : List Move
  ending : Ending

/-- A build that has not ended. -/
inductive Build where
  | between (queue : List Queued) (draft : Draft) (stages : Stages)
  | registering (queue : List Queued) (draft : Draft) (ongoing : Ongoing)

/-- How far a poll has brought a build. -/
inductive BuildOutcome where
  | finished (command : DrawCommand)
  | suspended (build : Build)
  | crashed (fault : Fault)

/-- The result of a poll, with the hooks that ran and the failures to
report, oldest first. -/
structure Polled where
  outcome : BuildOutcome
  events : List HookEvent := []
  reports : List EffectError := []

namespace Build

/-- The queue of a timeline: it has to be valid, and every effect known. -/
def queue (c : TimelineConfig) (r : Registry) : Except ConfigError (List Queued) := do
  c.validate
  c.instances.mapM fun subject => return { subject, effect := ← r.get subject.effectId }

/-! ## What all builds share -/

/-- The uniforms that every effect may read. -/
def sharedUniforms (c : TimelineConfig) : Allocator Uniform where
  id := none
  bindings := [
    ⟨"globalTime", .float, .perFrame fun f => .float (Binary.narrow f.time)⟩,
    ⟨"viewport", .vec2, .perFrame fun f =>
      .vec2 ⟨Scalar.natural f.width.toNat, Scalar.natural f.height.toNat⟩⟩,
    ⟨"particleSize", .float, .constant (.float c.particleSize)⟩,
    ⟨"invScreenAspectRatio", .float, .perFrame fun f =>
      .float (Scalar.natural f.height.toNat / Scalar.natural (max f.width 1).toNat)⟩,
    ⟨"background_color", .vec3, .constant (.vec3 c.background)⟩]

/-- The particles themselves. -/
def sharedAttributes (g : ParticleGrid Float32) : Allocator Attribute where
  id := none
  bindings := [⟨"texcoord", .vec2, ⟨g.texcoord⟩⟩, ⟨"rgb", .vec3, ⟨g.rgb⟩⟩, ⟨"hsv", .vec3, ⟨g.hsv⟩⟩]

/-- A build before its first registration. -/
def start (c : TimelineConfig) (grid : ParticleGrid Float32) (moment : FrameContext)
    (queue : List Queued) : Build :=
  let shared := sharedUniforms c
  let (vertex, uniforms, _) := shared.flush (.empty .vertex) []
  let (vertex, attributes, _) := (sharedAttributes grid).flush vertex []
  let stages := Shell.prologue c { vertex, fragment := shared.declareIn (.empty .fragment) }
  .between queue { timeline := c, grid, moment, uniforms, attributes } stages

/-! ## One registration -/

/-- Opens the block of an instance in both stages and asks its effect. -/
def begin (d : Draft) (s : Stages) (q : Queued) : Ongoing :=
  let stages := s.addMain q.subject.guard
  let asked := q.effect.register
    { subject := q.subject, timeline := d.timeline, grid := d.grid, moment := d.moment,
      number := d.number }
  { subject := q.subject, marks := stages.marks, contribution := .start stages d.number,
    moves := asked.moves, ending := asked.ending }

/-- Closes the block of a registration that succeeded, and takes over its
bindings and hooks. -/
def accept (d : Draft) (c : Contribution) : Except Fault (Draft × Stages) :=
  let stages := c.stages.addMain "\x7d"
  let (vertex, uniforms, clash) := c.uniforms.flush stages.vertex d.uniforms
  match clash with
  | some fault => .error fault
  | none =>
    let fragment := c.uniforms.declareIn stages.fragment
    let (vertex, attributes, clash) := c.attributes.flush vertex d.attributes
    match clash with
    | some fault => .error fault
    | none =>
      .ok ({ d with uniforms, attributes, hooks := d.hooks ++ c.hooks, number := d.number + 1 },
        ⟨vertex, fragment⟩)

/-- What stands in the block of a registration that failed. -/
def failureMark (subject : EffectInstance) : String :=
  "// " ++ subject.effectId ++ " failed to register\n\x7d"

/-- What became of a registration in one poll. -/
inductive Turn where
  | closed (draft : Draft) (stages : Stages) (events : List HookEvent)
      (reports : List EffectError)
  | suspended (ongoing : Ongoing)
  | crashed (fault : Fault) (hooks : HookList)

/-- Goes on with a registration; with patience, to its end. -/
def turn (patient : Bool) (d : Draft) (o : Ongoing) : Turn :=
  match Contribution.run patient o.moves o.contribution with
  | .waiting contribution moves => .suspended { o with contribution, moves }
  | .faulted c fault => .crashed fault c.hooks
  | .ended c =>
    match o.ending with
    | .succeeds =>
      match accept d c with
      | .ok (d, stages) => .closed d stages [] []
      | .error fault => .crashed fault c.hooks
    | .fails e =>
      match c.stages.rollback o.marks with
      | (stages, none) =>
        .closed { d with number := d.number + 1 } (stages.addMain (failureMark o.subject))
          c.hooks.tearDown [e]
      | (_, some fault) => .crashed fault c.hooks
    | .never =>
      if patient then .crashed .endless c.hooks
      else .suspended { o with contribution := c, moves := [] }

/-! ## The whole build -/

/-- The command when all instances are registered. -/
def assemble (d : Draft) (s : Stages) : DrawCommand :=
  let s := Shell.epilogue d.timeline s
  { count := d.timeline.particleCount, attributes := d.attributes, uniforms := d.uniforms,
    vert := s.vertex.compile, frag := s.fragment.compile, blend := Shell.blend d.timeline.overlap,
    hooks := d.hooks }

/-- A crash tears down what the build holds. -/
def crash (d : Draft) (fault : Fault) (hooks : HookList) : Polled where
  outcome := .crashed fault
  events := hooks.tearDown ++ d.hooks.tearDown

/-- Registers the queue, as far as it goes. -/
def proceed (patient : Bool) : List Queued → Draft → Stages → Polled
  | [], d, s => { outcome := .finished (assemble d s) }
  | q :: rest, d, s =>
    match turn patient d (begin d s q) with
    | .closed d s events reports =>
      let later := proceed patient rest d s
      { later with events := events ++ later.events, reports := reports ++ later.reports }
    | .suspended o => { outcome := .suspended (.registering rest d o) }
    | .crashed fault hooks => crash d fault hooks

/-- Goes on with a build; with patience, to its end. -/
def advance (patient : Bool) : Build → Polled
  | between queue d s => proceed patient queue d s
  | registering queue d o =>
    match turn patient d o with
    | .closed d s events reports =>
      let later := proceed patient queue d s
      { later with events := events ++ later.events, reports := reports ++ later.reports }
    | .suspended o => { outcome := .suspended (.registering queue d o) }
    | .crashed fault hooks => crash d fault hooks

/-- Goes on to the next wait. -/
def poll (b : Build) : Polled := b.advance false

/-- Goes on to the end. -/
def finish (b : Build) : Polled := b.advance true

/-- Gives up a build, and tears down what it holds. -/
def abandon : Build → List HookEvent
  | between _ d _ => d.hooks.tearDown
  | registering _ d o => o.contribution.hooks.tearDown ++ d.hooks.tearDown

end Build

end ParticleTimeline
