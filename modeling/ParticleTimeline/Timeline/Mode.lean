import ParticleTimeline.Timeline.Error
import ParticleTimeline.Json.Decoder
/-!
# Modes

Four choices of a timeline, each written as one word: the shape of a
particle, how particles overlap, how frames accumulate, and how the picture
is scaled onto the grid. A word that names no mode is refused by the error
of its kind.
-/

namespace ParticleTimeline

/-- A choice among named modes. -/
class Mode (α : Type) where
  /-- Every mode, the default first. -/
  all : List α
  name : α → String
  /-- The error for a word that names none. -/
  unknown : String → ConfigError

namespace Mode

variable {α : Type} [Mode α]

/-- The mode that a word names. -/
def parse (text : String) : Except ConfigError α :=
  match (all : List α).find? fun m => name m = text with
  | some m => .ok m
  | none => .error (unknown α text)

/-- A mode in a document. -/
def decode : Json.Decoder α := fun v => do
  match parse (← Json.Decoder.text v) with
  | .ok m => return m
  | .error e => throw (.refused e.message)

def toJson (m : α) : Json := .text (name m)

end Mode

/-- The shape drawn for every particle. -/
inductive ParticleShape where
  | circle
  | square
  | triangle
deriving DecidableEq, Repr

instance : Mode ParticleShape where
  all := [.circle, .square, .triangle]
  name
    | .circle => "circle"
    | .square => "square"
    | .triangle => "triangle"
  unknown := .unknownShape

/-- How particles that overlap combine. -/
inductive ParticleOverlap where
  | add
  | alpha
  | overwrite
deriving DecidableEq, Repr

instance : Mode ParticleOverlap where
  all := [.add, .alpha, .overwrite]
  name
    | .add => "add"
    | .alpha => "alpha"
    | .overwrite => "overwrite"
  unknown := .unknownOverlap

/-- How earlier frames show through. -/
inductive AccumulationMode where
  /-- Every frame stands alone. -/
  | none
  | trails
  | smoothTrails
  | smear
deriving DecidableEq, Repr

instance : Mode AccumulationMode where
  all := [.none, .trails, .smoothTrails, .smear]
  name
    | .none => "none"
    | .trails => "trails"
    | .smoothTrails => "smooth-trails"
    | .smear => "smear"
  unknown := .unknownAccumulation

/-- How a picture is laid onto the particle grid. -/
inductive ImageScaling where
  /-- The whole picture, with bars where the grid is longer. -/
  | fit
  /-- The whole grid, the picture cropped. -/
  | fill
  | stretch
deriving DecidableEq, Repr

instance : Mode ImageScaling where
  all := [.fit, .fill, .stretch]
  name
    | .fit => "fit"
    | .fill => "fill"
    | .stretch => "stretch"
  unknown := .unknownScaling

end ParticleTimeline
