import ParticleTimeline.Effect.Tint
import ParticleTimeline.Text.Lowercase
/-!
# The registry of effects

Effects by id, in the order they were registered; an id can be taken once.
A search finds the effects whose id or name contains a text, whatever the
case of its letters.
-/

namespace ParticleTimeline

/-- The effects a timeline can use. -/
structure Registry where
  effects : List Effect := []

namespace Registry

/-- The effect of an id. -/
def get (r : Registry) (id : String) : Except ConfigError Effect :=
  match r.effects.find? (·.id = id) with
  | some e => .ok e
  | none => .error (.unknownEffect id)

/-- Adds an effect; a taken id is refused. -/
def register (r : Registry) (e : Effect) : Except ConfigError Registry :=
  if r.effects.any (·.id = e.id) then .error (.duplicateEffect e.id)
  else .ok { effects := r.effects ++ [e] }

/-- The ids, in order. -/
def ids (r : Registry) : List String := r.effects.map Effect.id

def size (r : Registry) : Nat := r.effects.length

def isEmpty (r : Registry) : Bool := r.effects.isEmpty

/-- The effects that come with the program, over a source of the pictures that
can be faded to. -/
def builtInOf (source : PictureSource) : Registry where
  effects := [.wave, .hueDisplace, .converge, .colorize, .changeImageOf source, .dummy]

/-- The effects that come with the program, over pictures in memory. -/
def builtIn (pictures : Table Picture) : Registry := builtInOf (.memory pictures)

/-- Whether a text occurs in another. -/
def occursIn (part : List Char) : List Char → Bool
  | [] => part.isEmpty
  | c :: rest => part.isPrefixOf (c :: rest) || occursIn part rest

/-- The effects with a text in their id or name. -/
def search (r : Registry) (text : String) : List Effect :=
  let part := (lowercase text).toList
  r.effects.filter fun e =>
    occursIn part (lowercase e.id).toList || occursIn part (lowercase e.displayName).toList

end Registry

end ParticleTimeline
