import ParticleTimeline.Particle.Colour
import ParticleTimeline.Particle.Picture
import ParticleTimeline.Timeline.Config
/-!
# Particle grids

One particle for every cell of a grid, row by row from the bottom, with its
place in the grid, its colour and its hue, saturation and value. The colour
comes from a picture laid onto the grid, or from a ramp. Places and colours
lie in three buffers of two, three and three numbers for each particle.
-/

namespace ParticleTimeline

/-! ## Laying a picture onto the grid -/

/-- How places of the grid map to places of a picture: scaled about the
middle. -/
structure PictureMap (α : Type) where
  scale : Vec2 α

namespace PictureMap

variable {α : Type} [Scalar α]

/-- Width over height; no height counts as one. -/
def aspect (width height : Nat) : α := Scalar.natural width / Scalar.natural (max height 1)

/-- The map of a scaling for a grid and a picture of these aspects. -/
def ofAspects (scaling : ImageScaling) (grid picture : α) : PictureMap α :=
  let wider := Scalar.lt grid picture
  match scaling with
  | .stretch => ⟨⟨Scalar.one, Scalar.one⟩⟩
  | .fill =>
    if wider then ⟨⟨grid / picture, Scalar.one⟩⟩ else ⟨⟨Scalar.one, picture / grid⟩⟩
  | .fit =>
    if wider then ⟨⟨Scalar.one, picture / grid⟩⟩ else ⟨⟨grid / picture, Scalar.one⟩⟩

/-- The map that lays a picture onto a grid of some sizes. -/
def laying (p : Picture) (width height : UInt32) (scaling : ImageScaling) : PictureMap α :=
  ofAspects scaling (aspect width.toNat height.toNat) (aspect p.width.toNat p.height.toNat)

def apply (m : PictureMap α) (place : Vec2 α) : Vec2 α where
  x := Scalar.half + (place.x - Scalar.half) * m.scale.x
  y := Scalar.half + (place.y - Scalar.half) * m.scale.y

/-- Between zero and one, both included. -/
def isUnit (x : α) : Bool := Scalar.le Scalar.zero x && Scalar.le x Scalar.one

/-- The pixel, by column and row, at a place of a picture, which is counted from
the bottom left; none outside. -/
def spot (p : Picture) (place : Vec2 α) : Option (Nat × Nat) :=
  if isUnit place.x && isUnit place.y then
    let column := min (Scalar.truncate (place.x * Scalar.natural p.width.toNat)) (p.width - 1)
    let row := min (Scalar.truncate ((Scalar.one - place.y) * Scalar.natural p.height.toNat))
      (p.height - 1)
    some (column.toNat, row.toNat)
  else none

/-- The colour of a picture at a place of the picture; black outside. -/
def colourAt (p : Picture) (place : Vec2 α) : Vec3 α :=
  match spot p place with
  | some (column, row) => (p.pixel column row).premultiplied
  | none => ⟨Scalar.zero, Scalar.zero, Scalar.zero⟩

end PictureMap

/-! ## Grids -/

/-- One particle. -/
structure ParticleVertex (α : Type) where
  texcoord : Vec2 α
  rgb : Vec3 α
  hsv : Vec3 α
deriving DecidableEq

/-- The particles of a grid, in three buffers. -/
structure ParticleGrid (α : Type) where
  width : UInt32
  height : UInt32
  texcoord : Array α
  rgb : Array α
  hsv : Array α

namespace ParticleGrid

variable {α : Type}

def push2 (buffer : Array α) (v : Vec2 α) : Array α := (buffer.push v.x).push v.y
def push3 (buffer : Array α) (v : Vec3 α) : Array α := ((buffer.push v.x).push v.y).push v.z

/-- Puts one more particle behind the others. -/
def push (g : ParticleGrid α) (v : ParticleVertex α) : ParticleGrid α :=
  let ⟨width, height, texcoord, rgb, hsv⟩ := g
  ⟨width, height, push2 texcoord v.texcoord, push3 rgb v.rgb, push3 hsv v.hsv⟩

section Build

variable [Scalar α]

/-- The middle of a cell, in a grid of width and height one. -/
def cellPlace (width height : UInt32) (x y : Nat) : Vec2 α where
  x := (Scalar.natural x + Scalar.half) / Scalar.natural width.toNat
  y := (Scalar.natural y + Scalar.half) / Scalar.natural height.toNat

/-- The particle at a place. -/
def vertexAt (colourAt : Vec2 α → Vec3 α) (place : Vec2 α) : ParticleVertex α :=
  let rgb := colourAt place
  { texcoord := place, rgb, hsv := Colour.hsv rgb }

/-- The grid of a colour for every place. -/
def build (width height : UInt32) (colourAt : Vec2 α → Vec3 α) :
    Except ConfigError (ParticleGrid α) := do
  let _ ← gridParticleCount width height
  return Nat.fold height.toNat (fun y _ g =>
    Nat.fold width.toNat (fun x _ g =>
      g.push (vertexAt colourAt (cellPlace width height x y))) g)
    ⟨width, height, #[], #[], #[]⟩

/-- A ramp of colours. -/
def gradient (width height : UInt32) : Except ConfigError (ParticleGrid α) :=
  build width height fun place => ⟨place.x, place.y, Scalar.one - place.x⟩

/-- A picture laid onto the grid; an empty picture is refused first. -/
def ofPicture (p : Picture) (width height : UInt32) (scaling : ImageScaling) :
    Except ConfigError (ParticleGrid α) :=
  if p.isEmpty then .error (.emptyGrid p.width p.height)
  else
    build width height fun place =>
      PictureMap.colourAt p ((PictureMap.laying p width height scaling).apply place)

/-- The grid of a timeline, from a picture if there is one. -/
def sample (p : Option Picture) (c : TimelineConfig) : Except ConfigError (ParticleGrid α) :=
  match p with
  | some p => ofPicture p c.gridWidth c.gridHeight c.scaling
  | none => gradient c.gridWidth c.gridHeight

end Build

/-- The number of particles. -/
def size (g : ParticleGrid α) : Nat := g.width.toNat * g.height.toNat

def isEmpty (g : ParticleGrid α) : Bool := g.size = 0

/-- The `i`th pair of a buffer. -/
def pair? (buffer : Array α) (i : Nat) : Option (Vec2 α) := do
  return ⟨← buffer[2 * i]?, ← buffer[2 * i + 1]?⟩

/-- The `i`th triple of a buffer. -/
def triple? (buffer : Array α) (i : Nat) : Option (Vec3 α) := do
  return ⟨← buffer[3 * i]?, ← buffer[3 * i + 1]?, ← buffer[3 * i + 2]?⟩

/-- The `i`th particle. -/
def vertex? (g : ParticleGrid α) (i : Nat) : Option (ParticleVertex α) :=
  if i < g.size then do
    return { texcoord := ← pair? g.texcoord i, rgb := ← triple? g.rgb i, hsv := ← triple? g.hsv i }
  else none

/-! ## As bytes -/

/-- The four bytes of a single, the lowest first. -/
def singleBytes (x : Float32) : List UInt8 :=
  let n := x.toBits
  [n.toUInt8, (n >>> 8).toUInt8, (n >>> 16).toUInt8, (n >>> 24).toUInt8]

/-- The bytes of one particle: place, colour, and hue, saturation, value. -/
def vertexBytes (v : ParticleVertex Float32) : List UInt8 :=
  (v.texcoord.toList ++ v.rgb.toList ++ v.hsv.toList).flatMap singleBytes

/-- The particles one after the other, for an upload in one piece. -/
def bytes (g : ParticleGrid Float32) : List UInt8 :=
  ((List.range g.size).filterMap g.vertex?).flatMap vertexBytes

end ParticleGrid

end ParticleTimeline
