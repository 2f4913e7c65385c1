import ParticleTimeline.Proofs.Clock
/-!
# Operations on a clock

What can be done to a clock is one of a few operations, and a run is a list
of them. A tick whose rounds cannot be counted leaves a clock too, so a run
goes on behind it. What the operations of a run give out, one after the
other, is gathered along it (`ClockOperation.along`).
-/

namespace ParticleTimeline

/-- Something done to a clock. -/
inductive ClockOperation (α : Type) where
  | tick (now : Nat)
  | setPaused (paused : Bool) (now : Nat)
  | seek (time : α)
  | setPeriod (period : α)
  | dispatch
  | listen
  | unlisten (id : Nat)

namespace ClockOperation

variable {α : Type} [Scalar α]

/-- What an operation makes of a clock, with what listeners are told
meanwhile and the fault that ends it. -/
def perform : ClockOperation α → Clock α → Clock α × List Delivery × Option Fault
  | tick now, c => c.tick now
  | setPaused true _, c => (c.pause, [], none)
  | setPaused false now, c => (c.resume now, [], none)
  | seek time, c => (c.seek time, [], none)
  | setPeriod period, c => (c.setPeriod period, [], none)
  | dispatch, c => (c.dispatch.1, c.dispatch.2, none)
  | listen, c => (c.listen.1, [], none)
  | unlisten id, c => ((c.unlisten id).1, [], none)

/-- The clock after an operation. -/
def after (op : ClockOperation α) (c : Clock α) : Clock α := (op.perform c).1

/-- What listeners are told in an operation. -/
def deliveries (op : ClockOperation α) (c : Clock α) : List Delivery := (op.perform c).2.1

/-- The fault of an operation, if it has one. -/
def faults (op : ClockOperation α) (c : Clock α) : List Fault := (op.perform c).2.2.toList

/-- The clock after some operations, one after the other. -/
def run (ops : List (ClockOperation α)) (c : Clock α) : Clock α :=
  ops.foldl (fun c op => op.after c) c

/-- What the operations of a run give out. -/
def along {β : Type} (gives : ClockOperation α → Clock α → List β) :
    List (ClockOperation α) → Clock α → List β
  | [], _ => []
  | op :: ops, c => gives op c ++ along gives ops (op.after c)

section Runs

variable {β : Type} (gives : ClockOperation α → Clock α → List β)
variable (op : ClockOperation α) (ops earlier later : List (ClockOperation α)) (c : Clock α)

@[simp] theorem run_nil : run [] c = c := rfl

@[simp] theorem run_cons : run (op :: ops) c = run ops (op.after c) := rfl

theorem run_append : run (earlier ++ later) c = run later (run earlier c) := List.foldl_append

@[simp] theorem along_nil : along gives [] c = [] := rfl

@[simp] theorem along_cons : along gives (op :: ops) c
    = gives op c ++ along gives ops (op.after c) := rfl

theorem along_append : along gives (earlier ++ later) c
    = along gives earlier c ++ along gives later (run earlier c) := by
  induction earlier generalizing c with
  | nil => rfl
  | cons op ops ih => simp [ih]

end Runs

/-! ## What an operation leaves of a clock -/

/-- Whether an operation hands the queue to the listeners. -/
def dispatches : ClockOperation α → Bool
  | .tick _ | .dispatch => true
  | _ => false

/-- The events that an operation hands to the listeners. -/
def dispatched (op : ClockOperation α) (c : Clock α) : List ClockEvent :=
  if op.dispatches then c.pending else []

/-- What a change to a pause or back is told as. -/
def changeTo (paused : Bool) : ClockEvent := if paused then .paused else .resumed

/-- The events that an operation queues: a tick one for each round of its
course, a pause or its end one if it is a change. -/
def queued : ClockOperation α → Clock α → List ClockEvent
  | .tick now, c => if c.paused then [] else List.replicate (c.course now).counted .wrapped
  | .setPaused paused _, c => if c.paused = paused then [] else [changeTo paused]
  | _, _ => []

/-- Whether the clock is paused after an operation. -/
def leavesPaused : ClockOperation α → Bool → Bool
  | .setPaused paused _, _ => paused
  | _, paused => paused

section Steps

variable (paused : Bool) (now : Nat) (c : Clock α)

/-- A tick empties the queue, and moves a clock that runs along its course. -/
theorem after_tick : (tick now).after c =
    if c.paused then { c with delta := Scalar.zero, pending := [] }
    else
      { c with
        time := (c.course now).time
        delta := c.elapsed now
        anchor := some now
        pending := List.replicate (c.course now).counted .wrapped } := by
  rw [after, perform, Clock.tick_eq]
  split <;> rfl

/-- Only a change to a pause or back does anything. -/
theorem after_setPaused : (setPaused paused now).after c =
    if c.paused = paused then c
    else
      { c with
        paused
        delta := if paused then Scalar.zero else c.delta
        anchor := if paused then c.anchor else some now
        pending := c.pending ++ [changeTo paused] } := by
  cases paused <;> cases hpaused : c.paused <;>
    simp [after, perform, Clock.pause, Clock.resume, hpaused, changeTo]

end Steps

variable (op : ClockOperation α) (c : Clock α)

theorem after_pending :
    (op.after c).pending = (if op.dispatches then [] else c.pending) ++ op.queued c := by
  cases op with
  | tick now =>
    rw [after_tick, queued]
    split <;> rfl
  | setPaused paused now =>
    rw [after_setPaused, queued]
    split <;> simp [dispatches]
  | _ => simp [after, perform, Clock.seek, Clock.setPeriod, Clock.dispatch, Clock.listen,
      Clock.unlisten, queued, dispatches]

theorem after_paused : (op.after c).paused = op.leavesPaused c.paused := by
  cases op with
  | tick now =>
    rw [after_tick]
    split <;> rfl
  | setPaused paused now =>
    rw [after_setPaused]
    split
    · assumption
    · rfl
  | _ => rfl

theorem deliveries_eq :
    op.deliveries c = (op.dispatched c).flatMap (Clock.deliver c.listeners) := by
  cases op with
  | tick now =>
    simp only [deliveries, perform, Clock.tick_eq, dispatched, dispatches, if_true]
    split <;> rfl
  | setPaused paused now => cases paused <;> rfl
  | _ => rfl

/-- What is in the queue is handed on or stays, and what an operation queues
comes behind it. -/
theorem dispatched_append_pending :
    op.dispatched c ++ (op.after c).pending = c.pending ++ op.queued c := by
  rw [after_pending, dispatched]
  split <;> simp

end ClockOperation

end ParticleTimeline
