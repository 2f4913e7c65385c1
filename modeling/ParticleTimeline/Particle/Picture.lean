import ParticleTimeline.Number.Scalar
/-!
# Pictures

A picture is a rectangle of pixels, row after row from the top. Colours are
taken with the alpha multiplied in, each channel between zero and one.
-/

namespace ParticleTimeline

/-- Red, green, blue and alpha in one byte each. -/
structure Pixel where
  r : UInt8
  g : UInt8
  b : UInt8
  a : UInt8
deriving DecidableEq, Repr

namespace Pixel

def transparent : Pixel := ⟨0, 0, 0, 0⟩

variable {α : Type} [Scalar α]

/-- A byte as a number between zero and one. -/
def channel (byte : UInt8) : α := Scalar.natural byte.toNat / Scalar.natural 255

/-- The colour with the alpha multiplied in. -/
def premultiplied (p : Pixel) : Vec3 α where
  x := channel p.r * channel p.a
  y := channel p.g * channel p.a
  z := channel p.b * channel p.a

end Pixel

/-- A rectangle of pixels. -/
structure Picture where
  width : UInt32
  height : UInt32
  pixels : Array Pixel
  size_pixels : pixels.size = width.toNat * height.toNat

namespace Picture

/-- The picture whose pixels are numbered in reading order. -/
def ofFn (width height : UInt32) (pixel : Nat → Pixel) : Picture where
  width
  height
  pixels := Array.ofFn fun i : Fin (width.toNat * height.toNat) => pixel i
  size_pixels := by simp

/-- The pixels of four bytes each. -/
def pixelsOfBytes : List UInt8 → List Pixel
  | r :: g :: b :: a :: rest => ⟨r, g, b, a⟩ :: pixelsOfBytes rest
  | _ => []

/-- A picture filled with some pixels, again and again. -/
def tiled (width height : UInt32) (tile : Array Pixel) : Picture :=
  ofFn width height fun i => tile.getD (i % tile.size) .transparent

/-- The pixel of a column and a row, the row counted from the top. -/
def pixel (p : Picture) (column row : Nat) : Pixel :=
  p.pixels.getD (row * p.width.toNat + column) .transparent

/-- Whether the picture has no pixel. -/
def isEmpty (p : Picture) : Bool := p.width = 0 || p.height = 0

end Picture

end ParticleTimeline
