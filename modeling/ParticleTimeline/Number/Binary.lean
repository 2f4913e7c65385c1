/-!
# Floating-point numbers, taken apart

A float is a signed zero, a signed infinity, not a number, or a signed
natural number times a power of two. Everything here goes through that
reading: `widen` and `narrow` change the width, `remainder` is the exact
remainder of a truncated division, and `integer?` reads off an integral
value. Widening and the remainder are exact; narrowing rounds to the
nearest representable number, a tie to the even one.
-/

namespace ParticleTimeline

namespace Binary

open Float.Model

/-- A float taken apart, in either width. -/
abbrev Parts := UnpackedFloat

/-- The parts of a double. -/
def ofDouble (x : Float) : Parts := x.toModel.unpack

/-- The parts of a single. -/
def ofSingle (x : Float32) : Parts := x.toModel.unpack

/-- The parts, rounded to a double. -/
def toDouble : Parts → Float
  | .finite s m e _ => .ofModel (.pack (UnpackedFloat.round .binary64 s m e))
  | special => .ofModel (.pack special)

/-- The parts, rounded to a single. -/
def toSingle : Parts → Float32
  | .finite s m e _ => .ofModel (.pack (UnpackedFloat.round .binary32 s m e))
  | special => .ofModel (.pack special)

/-- The double of the same value as a single. -/
def widen (x : Float32) : Float := toDouble (ofSingle x)

/-- The single nearest to a double; beyond the range, an infinity. -/
def narrow (x : Float) : Float32 := toSingle (ofDouble x)

/-- What is left of `x` after taking away a whole number of `y`, the
quotient cut towards zero: it has the sign of `x`, is smaller than `y` in
size, and is exact. There is none of an infinity, nor by zero. -/
def remainder : Parts → Parts → Parts
  | .notANumber, _ | _, .notANumber | .infinity _, _ | _, .zero _ => .notANumber
  | .zero s, _ => .zero s
  | .finite s m e h, .infinity _ => .finite s m e h
  | .finite s m e _, .finite _ n f _ =>
    let g := min e f
    let r := (m <<< (e - g).toNat) % (n <<< (f - g).toNat)
    if h : 0 < r then .finite s r g h else .zero s

/-- The size of an integral value, and whether it carries a minus sign. -/
def integer? : Parts → Option (Bool × Nat)
  | .notANumber | .infinity _ => none
  | .zero s => some (s == .negative, 0)
  | .finite s m e _ =>
    if 0 ≤ e then some (s == .negative, m <<< e.toNat)
    else if m % Nat.pow 2 (-e).toNat = 0 then some (s == .negative, m >>> (-e).toNat)
    else none

/-- The remainder of smallest size that is not negative, of two doubles:
the truncated remainder, moved up by the size of the divisor when it is
below zero. -/
def remEuclid (x y : Float) : Float :=
  let r := toDouble (remainder (ofDouble x) (ofDouble y))
  if r < 0 then r + y.abs else r

/-- The remainder of smallest size that is not negative, of two singles. A
number of smaller size than the divisor is its own truncated remainder. -/
def remEuclid32 (x y : Float32) : Float32 :=
  let r := if x.abs < y.abs then x else toSingle (remainder (ofSingle x) (ofSingle y))
  if r < 0 then r + y.abs else r

end Binary

end ParticleTimeline
