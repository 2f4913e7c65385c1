import ParticleTimeline.Draw.Hook
import ParticleTimeline.Draw.Report
import ParticleTimeline.Glsl.Binding
import ParticleTimeline.Glsl.Stages
/-!
# Registrations

What an effect contributes to a draw is a list of moves: it adds to the
sources, binds names and puts down hooks, and in between it may wait, which
suspends the build until it is asked again. At the end it has succeeded, or
failed, or it goes on waiting for ever. Bindings and hooks cannot be taken
back. The sources can: an effect works on them in place, and may roll one of
them back, to a mark that it has made or to one that it has from elsewhere.
-/

namespace ParticleTimeline

/-- What a source is rolled back to. -/
inductive RollbackTarget where
  /-- A mark that the registration has made in a stage, counted from zero. -/
  | own (stage : ShaderStage) (number : Nat)
  /-- A mark of another source. -/
  | foreign (mark : Mark)

/-- One thing that an effect does to a draw. -/
inductive Action where
  | declare (stage : ShaderStage) (q : Qualifier) (type : GlslType) (name : String)
  | addGlobal (stage : ShaderStage) (text : String)
  | addMain (stage : ShaderStage) (text : String)
  | mark (stage : ShaderStage)
  | rollback (stage : ShaderStage) (target : RollbackTarget)
  | bindUniform (name : String) (type : GlslType) (value : Uniform)
  | bindAttribute (name : String) (type : GlslType) (value : Attribute)
  | onFrame (hook : FrameHook)
  | onTeardown (tag : String)

/-- What an effect does next. -/
inductive Move where
  | act (a : Action)
  | wait

/-- How a registration ends. -/
inductive Ending where
  | succeeds
  | fails (e : EffectError)
  /-- It waits for something that does not come. -/
  | never

/-- Everything an effect does when it is registered. -/
structure Registration where
  moves : List Move
  ending : Ending := .succeeds

namespace Registration

/-- A registration that does not wait and succeeds. -/
def ofActions (actions : List Action) : Registration where
  moves := actions.map .act

/-- A registration that fails at once. -/
def failing (effectId complaint : String) : Registration where
  moves := []
  ending := .fails ⟨effectId, complaint⟩

end Registration

/-- The sources that a registration shares with the others, and the marks that
it has made in them, oldest first. -/
structure Workspace where
  stages : Stages
  marks : List (ShaderStage × Mark) := []

namespace Workspace

/-- The mark that a target means, if it has been made. -/
def find? (w : Workspace) : RollbackTarget → Option Mark
  | .own stage number => ((w.marks.filter (·.1 = stage))[number]?).map Prod.snd
  | .foreign m => some m

/-- What an action does to the sources. -/
def act (w : Workspace) : Action → Workspace × Option Fault
  | .declare stage q type name =>
    ({ w with stages := w.stages.change stage (·.declare q type name) }, none)
  | .addGlobal stage text => ({ w with stages := w.stages.change stage (·.addGlobal text) }, none)
  | .addMain stage text => ({ w with stages := w.stages.change stage (·.addMain text) }, none)
  | .mark stage => ({ w with marks := w.marks ++ [(stage, (w.stages.get stage).mark)] }, none)
  | .rollback stage target =>
    match w.find? target with
    | some m =>
      ({ w with stages := w.stages.change stage fun s => (s.rollback m).1 },
        ((w.stages.get stage).rollback m).2)
    | none => (w, none)
  | .bindUniform .. | .bindAttribute .. | .onFrame _ | .onTeardown _ => (w, none)

end Workspace

/-- What one registration works on: the sources, and bindings and hooks of its
own. -/
structure Contribution extends Workspace where
  uniforms : Allocator Uniform
  attributes : Allocator Attribute
  hooks : HookList := {}

namespace Contribution

/-- Nothing contributed yet under a number. -/
def start (stages : Stages) (number : Nat) : Contribution where
  stages
  uniforms := .ofId number
  attributes := .ofId number

/-- One action. It is a fault to bind a name again, or to cut a source inside a
character. -/
def apply (c : Contribution) : Action → Except Fault Contribution
  | .bindUniform name type value =>
    (c.uniforms.add name type value).map fun a => { c with uniforms := a.1 }
  | .bindAttribute name type value =>
    (c.attributes.add name type value).map fun a => { c with attributes := a.1 }
  | .onFrame hook => .ok { c with hooks := c.hooks.onFrame hook }
  | .onTeardown tag => .ok { c with hooks := c.hooks.onTeardown tag }
  | a =>
    match c.toWorkspace.act a with
    | (w, none) => .ok { c with toWorkspace := w }
    | (_, some fault) => .error fault

/-- Where the moves have got to. -/
inductive Progress where
  | ended (c : Contribution)
  | waiting (c : Contribution) (rest : List Move)
  | faulted (c : Contribution) (fault : Fault)

/-- Makes the moves up to the next wait; with patience, waits are sat out. -/
def run (patient : Bool) : List Move → Contribution → Progress
  | [], c => .ended c
  | .wait :: rest, c => if patient then run patient rest c else .waiting c rest
  | .act a :: rest, c =>
    match c.apply a with
    | .ok c => run patient rest c
    | .error fault => .faulted c fault

end Contribution

end ParticleTimeline
