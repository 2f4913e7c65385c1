import ParticleTimeline.Effect.Registration
import ParticleTimeline.Form.Basic
import ParticleTimeline.Particle.Grid
/-!
# Effects

An effect has an id, what a menu shows of it, a form for its configuration,
and a way to register: it looks at its instance and at the whole timeline
and says what it contributes.
-/

namespace ParticleTimeline

/-- What an effect can look at when it is registered. -/
structure Request where
  /-- The instance that is registered. -/
  subject : EffectInstance
  timeline : TimelineConfig
  grid : ParticleGrid Float32
  /-- The clock when the build began. -/
  moment : FrameContext
  /-- The number of the registration, the same for no two in a build. -/
  number : Nat

namespace Request

/-- The identifier that a name gets in this registration. -/
def identifier (r : Request) (name : String) : String :=
  ParticleTimeline.identifier (some r.number) name

/-- How far the current repetition has got, between zero and one, as an
expression. Where repetitions have no length it is zero. -/
def progress (r : Request) : String :=
  if r.subject.period ≤ 0.0 then "0.0"
  else
    let period := FloatText.literal r.subject.period
    "(mod(globalTime - " ++ FloatText.literal r.subject.timeBegin ++ ", " ++ period ++ ") / "
      ++ period ++ ")"

/-- The configuration as the effect's own type. No configuration, or one
that does not fit, is the default. -/
def config {κ : Type} (r : Request) (decode : Json.Decoder κ) (default : κ) : κ :=
  match r.subject.config with
  | .null => default
  | v => (decode v).toOption.getD default

end Request

/-- An effect. -/
structure Effect where
  id : String
  displayName : String
  description : String := ""
  fields : List Field
  register : Request → Registration

namespace Effect

/-- A fresh form for the configuration. -/
def form (e : Effect) : Form := Form.ofFields e.fields

/-- The configuration with every field at its default. -/
def defaultConfig (e : Effect) : Json := e.form.config

/-- A configuration with a random value in every field. -/
def randomConfig {γ : Type} [RandomGen γ] (e : Effect) (g : γ) : Except Fault Json :=
  (Form.randomize e.fields e.form g).map Form.config

end Effect

end ParticleTimeline
