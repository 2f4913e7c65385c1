import ParticleTimeline.Number.Scalar
/-!
# Colours by hue

Hue, saturation and value of a colour, the hue as a part of the full circle.
A colour without a difference between its channels has hue zero, and black
has saturation zero.
-/

namespace ParticleTimeline

namespace Colour

variable {α : Type} [Scalar α]

def largest (c : Vec3 α) : α := Scalar.max (Scalar.max c.x c.y) c.z
def smallest (c : Vec3 α) : α := Scalar.min (Scalar.min c.x c.y) c.z

/-- Sixths of the circle. -/
def six : α := Scalar.natural 6

/-- The hue of a colour whose largest channel is `most` and whose channels
are `spread` apart. Of equal channels the first one counts as the largest. -/
def hue (c : Vec3 α) (most spread : α) : α :=
  if Scalar.le spread Scalar.epsilon then Scalar.zero
  else if Scalar.same most c.x then Scalar.remEuclid ((c.y - c.z) / spread) six / six
  else if Scalar.same most c.y then ((c.z - c.x) / spread + Scalar.natural 2) / six
  else ((c.x - c.y) / spread + Scalar.natural 4) / six

def saturation (most spread : α) : α :=
  if Scalar.le most Scalar.epsilon then Scalar.zero else spread / most

/-- Hue, saturation and value of red, green and blue. -/
def hsv (c : Vec3 α) : Vec3 α where
  x := hue c (largest c) (largest c - smallest c)
  y := saturation (largest c) (largest c - smallest c)
  z := largest c

end Colour

end ParticleTimeline
