import ParticleTimeline.Number.Text
/-!
# What is wrong with a timeline

A timeline that cannot be turned into a draw command is refused with one of
these causes. `message` is the one place that words them.
-/

namespace ParticleTimeline

/-- The most particles that a grid may have. -/
def maxParticles : Nat := 16777216

/-- Why a timeline is refused. -/
inductive ConfigError where
  | unknownEffect (id : String)
  | duplicateEffect (id : String)
  | unknownOverlap (text : String)
  | unknownShape (text : String)
  | unknownScaling (text : String)
  | unknownAccumulation (text : String)
  | invertedWindow (effectId : String) (timeBegin timeEnd : Float)
  | zeroRepetitions (effectId : String)
  | emptyGrid (width height : UInt32)
  | gridTooLarge (width height : UInt32)
  | malformedDocument (complaint : String)
deriving DecidableEq

namespace ConfigError

def message : ConfigError → String
  | unknownEffect id => "No such effect: " ++ id
  | duplicateEffect id => "Duplicate effect id: " ++ id
  | unknownOverlap text => "Unknown particle overlap mode: " ++ text
  | unknownShape text => "Unknown particle shape: " ++ text
  | unknownScaling text => "Unknown image scaling mode: " ++ text
  | unknownAccumulation text => "Unknown accumulation mode: " ++ text
  | invertedWindow effectId timeBegin timeEnd =>
    "Effect '" ++ effectId ++ "' ends before it begins (" ++ FloatText.plain timeBegin
      ++ " > " ++ FloatText.plain timeEnd ++ ")"
  | zeroRepetitions effectId => "Effect '" ++ effectId ++ "' must repeat at least once"
  | emptyGrid width height =>
    "Particle grid must not be empty (" ++ toString width.toNat ++ "x"
      ++ toString height.toNat ++ ")"
  | gridTooLarge width height =>
    "Particle grid " ++ toString width.toNat ++ "x" ++ toString height.toNat
      ++ " exceeds the " ++ toString maxParticles ++ " particle limit"
  | malformedDocument complaint => "Malformed timeline document: " ++ complaint

end ConfigError

end ParticleTimeline
