import ParticleTimeline.Number.Binary
/-!
# Numbers to calculate with

The clock, the sampling of pictures and the colour formulas are written once
over this interface. They run on doubles and singles, where every operation
rounds, and can be read over any exact ordered field as well.
-/

namespace ParticleTimeline

/-- Arithmetic, comparison, and the few conversions the formulas use. -/
class Scalar (α : Type) extends Add α, Sub α, Mul α, Div α where
  /-- The number nearest to a natural number. -/
  natural : Nat → α
  lt : α → α → Bool
  le : α → α → Bool
  /-- The remainder of smallest size that is not negative. -/
  remEuclid : α → α → α
  /-- The whole part as a 32-bit word, held within its range; zero of what
  is no number. -/
  truncate : α → UInt32

namespace Scalar

variable {α : Type} [Scalar α]

/-- What is no number is not below itself. -/
def isNumber (x : α) : Bool := le x x

/-- Equal in value: both zeros are equal, and nothing is equal to what is no
number. -/
def same (x y : α) : Bool := le x y && le y x

/-- The larger of two; the second when they are equal in value; the other one
of what is no number. -/
def max (x y : α) : α := if le x y || !isNumber x then y else x

/-- The smaller of two; the second when they are equal in value; the other
one of what is no number. -/
def min (x y : α) : α := if le y x || !isNumber x then y else x

def zero : α := natural 0
def one : α := natural 1
def half : α := natural 1 / natural 2

/-- The gap above one in a single: two to the minus twenty-three. -/
def epsilon : α := natural 1 / natural 8388608

end Scalar

instance : Scalar Float where
  natural := Float.ofNat
  lt x y := x < y
  le x y := x ≤ y
  remEuclid := Binary.remEuclid
  truncate := Float.toUInt32

instance : Scalar Float32 where
  natural := Float32.ofNat
  lt x y := x < y
  le x y := x ≤ y
  remEuclid := Binary.remEuclid32
  truncate := Float32.toUInt32

/-- Two numbers. -/
structure Vec2 (α : Type) where
  x : α
  y : α
deriving DecidableEq

/-- Three numbers. -/
structure Vec3 (α : Type) where
  x : α
  y : α
  z : α
deriving DecidableEq

/-- Four numbers. -/
structure Vec4 (α : Type) where
  x : α
  y : α
  z : α
  w : α
deriving DecidableEq

namespace Vec2
variable {α β : Type}
def toList (v : Vec2 α) : List α := [v.x, v.y]
def map (f : α → β) (v : Vec2 α) : Vec2 β := ⟨f v.x, f v.y⟩
end Vec2

namespace Vec3
variable {α β : Type}
def toList (v : Vec3 α) : List α := [v.x, v.y, v.z]
def map (f : α → β) (v : Vec3 α) : Vec3 β := ⟨f v.x, f v.y, f v.z⟩
end Vec3

namespace Vec4
variable {α : Type}
def toList (v : Vec4 α) : List α := [v.x, v.y, v.z, v.w]
end Vec4

end ParticleTimeline
