import ParticleTimeline.Number.Text
/-!
# Floats from text

The inverse of the plain layout: decimal digits with a point and an exponent
are rounded once to the nearest double, and the words for infinity and for
what is no number are read whatever the case of their letters.
-/

namespace ParticleTimeline

namespace FloatText

/-- A sign and the rest. -/
def splitSign : List Char → Bool × List Char
  | '-' :: cs => (true, cs)
  | '+' :: cs => (false, cs)
  | cs => (false, cs)

/-- The digits at the front, as a number, how many they are, and the rest. -/
def splitDigits (cs : List Char) : Nat × Nat × List Char :=
  let digits := cs.takeWhile Char.isDigit
  (digits.foldl (fun n c => 10 * n + (c.toNat - '0'.toNat)) 0, digits.length,
    cs.dropWhile Char.isDigit)

/-- The exponent at the end of a decimal; none is zero. -/
def readExponent : List Char → Int
  | 'e' :: cs =>
    let (negative, cs) := splitSign cs
    let (n, _, _) := splitDigits cs
    if negative then -n else n
  | _ => 0

/-- A decimal without sign. -/
def readSize (cs : List Char) : Float :=
  let (whole, _, rest) := splitDigits cs
  let (fraction, places, rest) := match rest with
    | '.' :: rest => splitDigits rest
    | rest => (0, 0, rest)
  let exponent := readExponent rest - places
  Float.ofScientific (whole * Nat.pow 10 places + fraction) (exponent < 0) exponent.natAbs

/-- The double of a text. -/
def read (text : String) : Float :=
  let (negative, cs) := splitSign (text.toList.map Char.toLower)
  let size :=
    if cs = "inf".toList ∨ cs = "infinity".toList then 1.0 / 0.0
    else if cs = "nan".toList then 0.0 / 0.0
    else readSize cs
  if negative then -size else size

end FloatText

end ParticleTimeline
