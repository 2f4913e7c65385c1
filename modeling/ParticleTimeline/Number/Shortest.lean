import ParticleTimeline.Number.Binary
/-!
# The fewest digits that read back

A float stands for every real number that rounds to it, an interval around
its value whose ends belong to it exactly when its binary digits are even.
The shortest decimal of the float is a point of that interval on the
coarsest decimal grid that has one there, and of two such points the one
nearer to the value. `shortest` walks the grids from coarse to fine and
looks at the two neighbours of the value on each.
-/

namespace ParticleTimeline

namespace Shortest

/-- Which of two equally near decimals is taken. -/
inductive Tie where
  /-- The larger one. -/
  | up
  /-- The one with an even last digit. -/
  | even
deriving DecidableEq, Repr

/-- The natural number `digits`, times ten to the `exponent`. -/
structure Decimal where
  digits : Nat
  exponent : Int
deriving DecidableEq, Repr

/-- A value and the interval of reals that round to it, as multiples of one
power of two: `unit` for the exponent of that power. -/
structure Interval where
  low : Nat
  value : Nat
  high : Nat
  unit : Int
  /-- The ends round to the value too. -/
  closed : Bool
deriving Repr

/-- The interval around `m * 2 ^ e` for a format of `bits` binary digits
whose smallest exponent is `least`. Below a power of two the numbers lie
twice as close, so the lower end is half as far away there. -/
def Interval.around (bits : Nat) (least : Int) (m : Nat) (e : Int) : Interval where
  low := 4 * m - (if m = Nat.pow 2 (bits - 1) ∧ least < e then 1 else 2)
  value := 4 * m
  high := 4 * m + 2
  unit := e - 2
  closed := m % 2 = 0

/-- `n` times two to the `unit`, as a fraction over ten to the `g`. -/
def scaled (unit g : Int) (n : Nat) : Nat :=
  n * Nat.pow 2 unit.toNat * Nat.pow 10 (-g).toNat

/-- The denominator that goes with `scaled`. -/
def scale (unit g : Int) : Nat :=
  Nat.pow 2 (-unit).toNat * Nat.pow 10 g.toNat

/-- The multiple of ten to the `g` that lies in the interval and nearest to
its value, if any does. -/
def nearest? (tie : Tie) (i : Interval) (g : Int) : Option Nat :=
  let s := scale i.unit g
  let low := scaled i.unit g i.low
  let value := scaled i.unit g i.value
  let high := scaled i.unit g i.high
  let c := value / s
  let below := if i.closed then low ≤ c * s else low < c * s
  let above := if i.closed then (c + 1) * s ≤ high else (c + 1) * s < high
  match decide below, decide above with
  | false, false => none
  | true, false => some c
  | false, true => some (c + 1)
  | true, true =>
    match compare (2 * (value - c * s)) s with
    | .lt => some c
    | .gt => some (c + 1)
    | .eq => some (if tie = .up then c + 1 else c + c % 2)

/-- Walks at most `fuel` grids down from ten to the `g`. -/
def search (tie : Tie) (i : Interval) : (fuel : Nat) → (g : Int) → Decimal
  | 0, g => ⟨scaled i.unit g i.value / scale i.unit g, g⟩
  | fuel + 1, g =>
    match nearest? tie i g with
    | some d => ⟨d, g⟩
    | none => search tie i fuel (g - 1)

/-- The first grid looked at is coarser than the interval, so the first one
with a point in it gives digits that do not end in a zero; seventeen digits
tell any two doubles apart, so twenty grids are enough. -/
def decimal (tie : Tie) (bits : Nat) (least : Int) (m : Nat) (e : Int) : Decimal :=
  let top : Int := ((m.log2 : Int) + 1 + e) * 1233 / 4096 + 1
  search tie (.around bits least m e) 20 top

/-- The shortest decimal of a positive double `m * 2 ^ e`. -/
def double (tie : Tie) (m : Nat) (e : Int) : Decimal := decimal tie 53 (-1074) m e

/-- The shortest decimal of a positive single `m * 2 ^ e`. -/
def single (tie : Tie) (m : Nat) (e : Int) : Decimal := decimal tie 24 (-149) m e

example : double .up 0x1999999999999a (-56) = ⟨1, -1⟩ := by decide +kernel
example : double .even 1 (-1074) = ⟨5, -324⟩ := by decide +kernel
example : single .up 8388609 (-2) = ⟨20971523, -1⟩ := by decide +kernel
example : single .even 8388609 (-2) = ⟨20971522, -1⟩ := by decide +kernel

end Shortest

end ParticleTimeline
