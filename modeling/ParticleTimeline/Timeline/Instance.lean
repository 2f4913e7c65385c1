import ParticleTimeline.Timeline.Error
import ParticleTimeline.Json.Decoder
import ParticleTimeline.Json.Reader
/-!
# Effect instances

One timed application of an effect: its id, the window it acts in, how often
it repeats within the window, and a free-form configuration that only the
effect reads. An instance is valid when its window does not end before it
begins and it repeats at least once; the window is looked at first.
-/

namespace ParticleTimeline

/-- One timed application of an effect. Times are in milliseconds, and the
end belongs to the window. -/
structure EffectInstance where
  effectId : String
  timeBegin : Float
  timeEnd : Float
  repetitions : UInt32 := 1
  config : Json := .object []

namespace EffectInstance

def duration (i : EffectInstance) : Float := i.timeEnd - i.timeBegin

/-- The length of one repetition. -/
def period (i : EffectInstance) : Float :=
  i.duration / (if i.repetitions = 0 then 1 else i.repetitions).toFloat

def validate (i : EffectInstance) : Except ConfigError Unit := do
  if i.timeBegin > i.timeEnd then
    throw (.invertedWindow i.effectId i.timeBegin i.timeEnd)
  if i.repetitions = 0 then throw (.zeroRepetitions i.effectId)

/-- The condition that holds while the instance acts. -/
def guard (i : EffectInstance) : String :=
  "if (" ++ FloatText.plain i.timeBegin ++ " <= globalTime && globalTime <= "
    ++ FloatText.plain i.timeEnd ++ ") \x7b"

/-! ## As JSON -/

def fields : List String := ["effectId", "timeBegin", "timeEnd", "repetitions", "config"]

/-- An instance none of whose members has been read. -/
def unread : EffectInstance where
  effectId := ""
  timeBegin := 0
  timeEnd := 0
  config := .null

def setField (i : EffectInstance) (name : String) (v : Json) :
    Except Json.Mismatch EffectInstance := do
  match name with
  | "effectId" => return { i with effectId := ← Json.Decoder.text v }
  | "timeBegin" => return { i with timeBegin := ← Json.Decoder.double v }
  | "timeEnd" => return { i with timeEnd := ← Json.Decoder.double v }
  | "repetitions" => return { i with repetitions := ← Json.Decoder.word v }
  | "config" => return { i with config := v.canonical }
  | _ => return i

/-- An instance: the id and the window must be there. -/
def decode : Json.Decoder EffectInstance :=
  Json.Decoder.record "EffectInstance" fields 3 setField unread

/-- The parts of a text that `decode` looks at. -/
def outline : Json.Reader.Outline := .record (fields.map fun f => (f, .all))

def toJson (i : EffectInstance) : Json :=
  .object [("effectId", .text i.effectId), ("timeBegin", .double i.timeBegin),
    ("timeEnd", .double i.timeEnd), ("repetitions", .word i.repetitions),
    ("config", i.config)]

end EffectInstance

end ParticleTimeline
