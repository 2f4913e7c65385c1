import ParticleTimeline.Proofs.Draw.Build
import ParticleTimeline.Proofs.Effect.BuiltIn
import ParticleTimeline.Proofs.Timeline.Config
/-!
# The command of a roll

Everything in a finished command can be read off the roll of its build: the
tables are those of the shared entries and of what stands in the roll, and the
sources are what the registrations make one after the other of those that all
builds share (`Build.source`). `Build.ofRoll` is that command. Whatever the
effects are like, and however often a build is polled on the way, it comes to
no other (`Build.Left.finished`), and it comes to a command just when every
registration ends and none faults (`Build.finished_iff`). When registrations
take back only what is their own, the source of a stage is one block for every
enrolment between the texts of all builds (`Build.source_of_local`).
-/

namespace ParticleTimeline

/-! ## Texts of the shell -/

namespace Shell

/-- What a stage has before the first effect, behind the shared declarations. -/
def before (c : TimelineConfig) : ShaderStage → Sections String
  | .vertex =>
    .only .varyings (ShaderSource.declaration .varying .vec3 "v_color")
      ++ .only .body (ShaderSource.endLine (lines [
        "vec3 initialPosition = vec3(texcoord * 2.0 - 1.0, 0.0);",
        "initialPosition.x *= " ++ FloatText.literal (Binary.widen (gridAspect c)) ++ ";",
        "vec3 position = initialPosition;",
        "vec3 color = rgb;",
        "float pointSize = particleSize;"]))
  | .fragment =>
    .only .varyings (ShaderSource.declaration .varying .vec3 "v_color")
      ++ .only .body (ShaderSource.endLine "vec3 color = v_color;")

/-- What a stage has after the last effect. -/
def behind (c : TimelineConfig) : ShaderStage → Sections String
  | .vertex =>
    .only .body (ShaderSource.endLine (lines [
      "gl_Position = vec4(position.x * invScreenAspectRatio, position.y, position.z, 1.0);",
      "gl_PointSize = max(pointSize, 0.0);",
      "v_color = color;"]))
  | .fragment =>
    .only .body (ShaderSource.endLine (shapeTest c.shape))
      ++ .only .body (ShaderSource.endLine
        ("float alpha = " ++ (if c.fading then "fade" else "1.0") ++ ";"))
      ++ .only .body (ShaderSource.endLine (output c.overlap))

theorem prologue_eq_extend (c : TimelineConfig) (s : Stages) :
    prologue c s = s.extend (before c .vertex) (before c .fragment) := by
  simp only [prologue, Stages.both, ShaderSource.declare_eq_extend,
    ShaderSource.addMain_eq_extend, ShaderSource.extend_extend, Qualifier.place]
  rfl

theorem epilogue_eq_extend (c : TimelineConfig) (s : Stages) :
    epilogue c s = s.extend (behind c .vertex) (behind c .fragment) := by
  simp only [epilogue, ShaderSource.addMain_eq_extend, ShaderSource.extend_extend]
  rfl

end Shell

namespace Build

variable {c : TimelineConfig} {grid : ParticleGrid Float32} {moment : FrameContext}
variable {queue : List Queued} {patient : Bool}

/-! ## The sources -/

/-- The declarations that a stage has in every build. -/
def sharedTexts (c : TimelineConfig) (grid : ParticleGrid Float32) :
    ShaderStage → Sections String
  | .vertex =>
    .only .uniforms (Allocator.declarations .uniform (sharedUniforms c).entries)
      ++ .only .attributes (Allocator.declarations .attr (sharedAttributes grid).entries)
  | .fragment => .only .uniforms (Allocator.declarations .uniform (sharedUniforms c).entries)

/-- The source of a stage when all registrations of a roll have ended. -/
def source (c : TimelineConfig) (grid : ParticleGrid Float32) (roll : List Enrolment)
    (stage : ShaderStage) : ShaderSource :=
  (Shell.epilogue c ((sharedStages c grid).after roll)).get stage

variable {rl : List Enrolment}

/-- **The source of a roll** that takes back only what is its own. -/
theorem source_of_local (hlocal : ∀ e ∈ rl, ∀ a ∈ e.actions, a.Local) (stage : ShaderStage) :
    source c grid rl stage = (ShaderSource.empty stage).extend
      (sharedTexts c grid stage ++ Shell.before c stage
        ++ .concat (rl.map (·.block stage)) ++ Shell.behind c stage) := by
  rw [source, Stages.after_of_local hlocal, Shell.epilogue_eq_extend, sharedStages,
    Shell.prologue_eq_extend]
  cases stage <;>
    simp only [Stages.get, Stages.extend, ShaderSource.extend_extend, sharedTexts,
      Sections.append_assoc]

theorem source_sections (hlocal : ∀ e ∈ rl, ∀ a ∈ e.actions, a.Local) (stage : ShaderStage) :
    (source c grid rl stage).sections = sharedTexts c grid stage ++ Shell.before c stage
      ++ .concat (rl.map (·.block stage)) ++ Shell.behind c stage := by
  rw [source_of_local hlocal]
  exact Sections.blank_append _

/-! ## The command -/

/-- The roll of a build of a timeline. -/
def roll (c : TimelineConfig) (grid : ParticleGrid Float32) (moment : FrameContext)
    (queue : List Queued) : List Enrolment :=
  (sharedDraft c grid moment).enrol 0 queue

/-- The command that a roll comes to. -/
def ofRoll (c : TimelineConfig) (grid : ParticleGrid Float32) (roll : List Enrolment) :
    DrawCommand where
  count := c.particleCount
  attributes := Table.ofList ((sharedAttributes grid).entries ++ roll.flatMap Enrolment.attributes)
  uniforms := Table.ofList ((sharedUniforms c).entries ++ roll.flatMap Enrolment.uniforms)
  vert := (source c grid roll .vertex).compile
  frag := (source c grid roll .fragment).compile
  blend := Shell.blend c.overlap
  hooks := .concat (roll.map Enrolment.hooks)

@[simp] theorem ofRoll_uniforms (c : TimelineConfig) (grid : ParticleGrid Float32)
    (roll : List Enrolment) : (ofRoll c grid roll).uniforms
      = Table.ofList ((sharedUniforms c).entries ++ roll.flatMap Enrolment.uniforms) := rfl

@[simp] theorem ofRoll_attributes (c : TimelineConfig) (grid : ParticleGrid Float32)
    (roll : List Enrolment) : (ofRoll c grid roll).attributes
      = Table.ofList ((sharedAttributes grid).entries ++ roll.flatMap Enrolment.attributes) := rfl

theorem assemble_after (c : TimelineConfig) (grid : ParticleGrid Float32) (moment : FrameContext)
    (roll : List Enrolment) :
    assemble ((sharedDraft c grid moment).after roll) ((sharedStages c grid).after roll)
      = ofRoll c grid roll := by
  simp only [assemble, Draft.after_timeline]
  simp only [ofRoll, Draft.after, sharedDraft, ← Table.insertAll_eq_ofList, Table.insertAll_append]
  congr 1

/-- **What a build comes to** when every registration ends and none faults. -/
theorem start_finish (hsafe : (sharedStages c grid).Safe (roll c grid moment queue))
    (hends : ∀ e ∈ roll c grid moment queue, e.Ends) :
    (start c grid moment queue).finish =
      { outcome := .finished (ofRoll c grid (roll c grid moment queue))
        events := (roll c grid moment queue).flatMap Enrolment.events
        reports := (roll c grid moment queue).filterMap Enrolment.failure? } := by
  rw [start_eq, finish_between (fresh_sharedDraft c grid moment) hsafe hends,
    ← assemble_after c grid moment]
  rfl

/-- **A build comes to a command just when all of its registrations end**, with
a failure or without, and none of them faults. -/
theorem finished_iff : (∃ command, (start c grid moment queue).finish.outcome = .finished command) ↔
    (sharedStages c grid).Safe (roll c grid moment queue) ∧
      ∀ e ∈ roll c grid moment queue, e.Ends := by
  constructor
  · rintro ⟨command, hfinished⟩
    rw [start_eq] at hfinished
    exact safe_of_finished (fresh_sharedDraft c grid moment) hfinished
  · rintro ⟨hsafe, hends⟩
    rw [start_finish hsafe hends]
    exact ⟨_, rfl⟩

/-- A build with the effects that come with the program comes to a command, over
pictures in memory. -/
theorem finished_builtIn {pictures : Table Picture}
    (hqueue : Build.queue c (.builtIn pictures) = .ok queue) :
    ∃ command, (start c grid moment queue).finish.outcome = .finished command :=
  finished_iff.2 ⟨Stages.safe_of_faultless fun _ he =>
      forall_enrol hqueue (Registry.faultless_builtInOf (.memory pictures)) he,
    fun _ he => forall_enrol hqueue (P := fun g => g.ending ≠ .never)
      (Registry.ends_builtIn pictures) he⟩

/-- The text that a command draws a stage with. -/
def textOf (command : DrawCommand) : ShaderStage → String
  | .vertex => command.vert
  | .fragment => command.frag

theorem textOf_eq_compile (c : TimelineConfig) (grid : ParticleGrid Float32)
    (rl : List Enrolment) (stage : ShaderStage) :
    textOf (ofRoll c grid rl) stage = (source c grid rl stage).compile := by
  cases stage <;> rfl

/-- **How the sections of a source follow each other** in the text of its
stage. -/
theorem textOf_ofRoll (hlocal : ∀ e ∈ rl, ∀ a ∈ e.actions, a.Local) (stage : ShaderStage) :
    textOf (ofRoll c grid rl) stage = (if stage = .fragment then "precision highp float;\n" else "")
        ++ (source c grid rl stage).sections.attributes
        ++ (source c grid rl stage).sections.uniforms
        ++ (source c grid rl stage).sections.varyings
        ++ (source c grid rl stage).sections.globals
        ++ "void main() \x7b\n" ++ (source c grid rl stage).sections.body ++ "\x7d\n" := by
  have hstage : (source c grid rl stage).stage = stage := by rw [source_of_local hlocal]; rfl
  rw [textOf_eq_compile, ShaderSource.compile, hstage]
  cases stage <;> rfl

/-- A build that has come to a command comes to it from the beginning. -/
theorem Left.finish_of_finished {b left : Build} {command : DrawCommand} (h : Left b left)
    (hfinished : (left.advance patient).outcome = .finished command) :
    b.finish.outcome = .finished command := by
  rw [h.finish_outcome]
  -- A poll that ends has come to what waiting comes to.
  cases patient with
  | true => exact hfinished
  | false =>
    change left.poll.outcome = _ at hfinished
    rw [finish_of_poll]
    simp only [hfinished]

/-- **However a build was polled, its command is the command of the roll**,
whatever the effects are like. -/
theorem Left.finished {left : Build} {command : DrawCommand}
    (h : Left (start c grid moment queue) left)
    (hfinished : (left.advance patient).outcome = .finished command) :
    command = ofRoll c grid (roll c grid moment queue) := by
  have hfinish := h.finish_of_finished hfinished
  obtain ⟨hsafe, hends⟩ := finished_iff.1 ⟨command, hfinish⟩
  rw [start_finish hsafe hends] at hfinish
  exact (BuildOutcome.finished.inj hfinish).symm

/-- What has been computed from the queue of a timeline. -/
theorem exists_queue {r : Registry} {P : List Queued → Bool}
    (h : (Build.queue c r).toOption.any P = true) :
    ∃ queue, Build.queue c r = .ok queue ∧ P queue = true := by
  cases hqueue : Build.queue c r with
  | error e => simp [hqueue, Except.toOption] at h
  | ok queue => exact ⟨queue, rfl, by simpa [hqueue, Except.toOption] using h⟩

end Build

/-! ## Effects that do not look at what they are asked -/

/-- An effect that does the same whatever it is asked. -/
def Effect.always (id : String) (g : Registration) : Effect where
  id
  displayName := id
  fields := []
  register _ := g

/-- A registry of such effects. -/
def Registry.always (effects : List (String × Registration)) : Registry where
  effects := effects.map fun e => .always e.1 e.2

namespace Registry

variable {effects : List (String × Registration)}

theorem forall_always {P : Registration → Prop} (h : ∀ e ∈ effects, P e.2) :
    ∀ e ∈ (always effects).effects, ∀ q : Request, P (e.register q) := by
  intro e he q
  obtain ⟨g, hg, rfl⟩ := List.mem_map.1 he
  exact h g hg

theorem bindsOnce_always (h : ∀ e ∈ effects, Action.BindsOnce e.2.actions) :
    (always effects).BindsOnce :=
  forall_always (P := fun g => Action.BindsOnce g.actions) h

theorem keepsToAllocators_always (h : ∀ e ∈ effects, ∀ a ∈ e.2.actions, a.KeepsToAllocators) :
    (always effects).KeepsToAllocators :=
  forall_always (P := fun g => ∀ a ∈ g.actions, a.KeepsToAllocators) h

end Registry

/-- One black particle. -/
def ParticleGrid.speck : ParticleGrid Float32 where
  width := 1
  height := 1
  texcoord := #[0.5, 0.5]
  rgb := #[0, 0, 0]
  hsv := #[0, 0, 0]

/-- The moment before the first frame. -/
def FrameContext.first : FrameContext where
  time := 0
  delta := 0
  width := 1
  height := 1

/-! ## A timeline with one instance -/

/-- One instance of an effect, for a millisecond. -/
def EffectInstance.brief (effectId : String) : EffectInstance where
  effectId
  timeBegin := 0
  timeEnd := 1

/-- A timeline with that instance alone, over one particle. -/
def TimelineConfig.only (effectId : String) : TimelineConfig where
  tracks := [[.brief effectId]]
  gridWidth := 1
  gridHeight := 1

/-- All that is on the roll of that timeline. -/
def Enrolment.brief (id : String) (g : Registration) : Enrolment where
  subject := .brief id
  number := 0
  registration := g

namespace Build

theorem queue_only {r : Registry} {id : String} {e : Effect} (hget : r.get id = .ok e) :
    Build.queue (.only id) r = .ok [⟨.brief id, e⟩] := by
  have hwindow : ¬ (0 : Float) > 1 := by decide +kernel
  have hrepetitions : (1 : UInt32) ≠ 0 := by decide
  have hinstance : (EffectInstance.brief id).validate = .ok () :=
    EffectInstance.validate_eq_ok.2 ⟨hwindow, hrepetitions⟩
  have hvalid : (TimelineConfig.only id).validate = .ok () :=
    TimelineConfig.validate_eq_ok.2 ⟨⟨1, rfl⟩, List.forall_mem_singleton.2 hinstance⟩
  refine queue_eq_ok.2 ⟨hvalid, rfl, fun q hq => ?_⟩
  obtain rfl := List.mem_singleton.1 hq
  exact hget

/-- A build of that timeline. -/
def single (id : String) (g : Registration) : Build :=
  start (.only id) .speck .first [⟨.brief id, .always id g⟩]

/-- What such a build comes to. -/
theorem finish_single {id : String} {g : Registration}
    (hcareful : g.Careful
      ((sharedStages (.only id) .speck).addMain (EffectInstance.brief id).guard))
    (hends : g.ending ≠ .never) :
    (single id g).finish.outcome
      = .finished (ofRoll (.only id) .speck [.brief id g]) := by
  have hfinish : (single id g).finish = _ :=
    start_finish ⟨hcareful, trivial⟩ (List.forall_mem_singleton.2 hends)
  exact congrArg Polled.outcome hfinish

end Build

/-! ## A build with a failure -/

/-- Two waves around a fade to no picture, which fails to register. -/
def TimelineConfig.interrupted : TimelineConfig where
  tracks := [
    [{ effectId := "Wave", timeBegin := 0, timeEnd := 1000 },
      { effectId := "ChangeImage", timeBegin := 1000, timeEnd := 2000 }],
    [{ effectId := "Wave", timeBegin := 500, timeEnd := 2500 }]]
  gridWidth := 1
  gridHeight := 1

namespace Build

theorem queue_interrupted : ∃ queue, Build.queue .interrupted (.builtIn []) = .ok queue := by
  have hqueued : ((Build.queue .interrupted (.builtIn [])).toOption.any fun _ => true) = true := by
    decide +kernel
  obtain ⟨queue, hqueue, -⟩ := exists_queue hqueued
  exact ⟨queue, hqueue⟩

example : (Build.queue .interrupted (.builtIn [])).toOption.map (fun queue =>
    (roll .interrupted .speck .first queue).map Enrolment.stands) = some [true, false, true] := by
  decide +kernel

end Build

end ParticleTimeline
