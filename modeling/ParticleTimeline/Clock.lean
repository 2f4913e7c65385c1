import ParticleTimeline.Fault
import ParticleTimeline.Number.Scalar
/-!
# The clock of a timeline

A clock follows instants, counted in nanoseconds, and keeps a position in
milliseconds that starts again at zero whenever it reaches the period. What
happens to it is queued as events: listeners hear of them at the start of
the next tick or when asked to, never inside the call that queued them.

The position is found by taking the period away until it fits. The rounds
are counted in 32 bits: a tick that would need more of them is a fault, and
so is one whose rounds leave the position where it is.
-/

namespace ParticleTimeline

/-- What a clock tells its listeners. -/
inductive ClockEvent where
  | wrapped
  | paused
  | resumed
deriving DecidableEq, Repr

/-- An event on its way to a listener. -/
structure Delivery where
  listener : Nat
  event : ClockEvent
deriving DecidableEq, Repr

/-- What a frame is drawn for: the position and the time since the last
tick, in milliseconds, and the size of the viewport. -/
structure FrameContext where
  time : Float
  delta : Float
  width : UInt32
  height : UInt32
deriving DecidableEq

/-- A clock over numbers of type `α`. -/
structure Clock (α : Type) where
  time : α
  delta : α
  period : α
  paused : Bool := false
  /-- The instant of the last tick or resumption. -/
  anchor : Option Nat := none
  /-- Events that no listener has heard of, oldest first. -/
  pending : List ClockEvent := []
  /-- The listeners in the order they came. -/
  listeners : List Nat := []
  nextListener : Nat := 0

namespace Clock

variable {α : Type} [Scalar α]

/-- A period is never negative. -/
def heldPeriod (period : α) : α := Scalar.max period Scalar.zero

/-- A clock at zero. -/
def ofPeriod (period : α) : Clock α where
  time := Scalar.zero
  delta := Scalar.zero
  period := heldPeriod period

/-- The position within the period; without a period it is zero. -/
def position (period time : α) : α :=
  if Scalar.lt Scalar.zero period then Scalar.remEuclid time period else Scalar.zero

/-- Jumps to a position. -/
def seek (c : Clock α) (time : α) : Clock α := { c with time := position c.period time }

/-- Changes the period, and moves the position into it. -/
def setPeriod (c : Clock α) (period : α) : Clock α :=
  { c with period := heldPeriod period, time := position (heldPeriod period) c.time }

/-- Stops the clock, if it runs. -/
def pause (c : Clock α) : Clock α :=
  if c.paused then c
  else { c with paused := true, delta := Scalar.zero, pending := c.pending ++ [.paused] }

/-- Lets a stopped clock run again; the pause is not counted. -/
def resume (c : Clock α) (now : Nat) : Clock α :=
  if c.paused then
    { c with paused := false, anchor := some now, pending := c.pending ++ [.resumed] }
  else c

/-! ## Listeners -/

/-- A new listener and its id. -/
def listen (c : Clock α) : Clock α × Nat :=
  ({ c with listeners := c.listeners ++ [c.nextListener], nextListener := c.nextListener + 1 },
    c.nextListener)

/-- Removes a listener; says whether it was there. -/
def unlisten (c : Clock α) (id : Nat) : Clock α × Bool :=
  ({ c with listeners := c.listeners.filter (· ≠ id) }, c.listeners.contains id)

/-- One event for every listener. -/
def deliver (listeners : List Nat) (event : ClockEvent) : List Delivery :=
  listeners.map fun listener => { listener, event }

/-- Delivers the queue, event by event. -/
def dispatch (c : Clock α) : Clock α × List Delivery :=
  ({ c with pending := [] }, c.pending.flatMap (deliver c.listeners))

/-! ## Ticks -/

/-- A span of nanoseconds in milliseconds: the seconds and their fraction
are rounded apart. -/
def milliseconds (span : Nat) : α :=
  (Scalar.natural (span / 1000000000)
    + Scalar.natural (span % 1000000000) / Scalar.natural 1000000000) * Scalar.natural 1000

/-- Where taking the period away has led. -/
structure Wrapping (α : Type) where
  time : α
  wraps : Nat
  /-- Whether the count was used up before the position was below the
  period. -/
  overflown : Bool

/-- Takes the period away until the position is below it; the last of the
rounds that are left must not be needed. -/
def wrap (period time : α) (wraps : Nat) : (left : Nat) → Wrapping α
  | 0 => { time, wraps, overflown := true }
  | left + 1 =>
    if Scalar.le period time then wrap period (time - period) (wraps + 1) left
    else { time, wraps, overflown := false }

/-- The position within the period, by as many rounds as 32 bits can count.
When the first round changes nothing none does. -/
def settle (period time : α) : Wrapping α :=
  if Scalar.le period time && Scalar.same (time - period) time then
    { time, wraps := UInt32.size, overflown := true }
  else wrap period time 0 UInt32.size

/-- The time since the last tick or resumption; nothing on the first tick. -/
def elapsed (c : Clock α) (now : Nat) : α :=
  match c.anchor with
  | some anchor => milliseconds (now - anchor)
  | none => Scalar.zero

/-- Moves a running clock on to an instant. -/
def advance (c : Clock α) (now : Nat) : Clock α × Option Fault :=
  let c := { c with delta := c.elapsed now, anchor := some now }
  if Scalar.le c.period Scalar.zero then ({ c with time := Scalar.zero }, none)
  else
    let w := settle c.period (c.time + c.delta)
    if w.overflown then ({ c with time := w.time }, some .overflow)
    else ({ c with time := w.time, pending := c.pending ++ List.replicate w.wraps .wrapped }, none)

/-- One tick: what is pending is delivered, then the clock moves on, unless
it is paused. -/
def tick (c : Clock α) (now : Nat) : Clock α × List Delivery × Option Fault :=
  let (c, deliveries) := c.dispatch
  if c.paused then ({ c with delta := Scalar.zero }, deliveries, none)
  else
    let (c, fault) := c.advance now
    (c, deliveries, fault)

/-- The clock as a frame sees it. -/
def frame (c : Clock Float) (width height : UInt32) : FrameContext where
  time := c.time
  delta := c.delta
  width
  height

end Clock

end ParticleTimeline
