import ParticleTimeline.Clock
import ParticleTimeline.Proofs.Number.Order
/-!
# What ticks do to a clock

Where a running clock gets by an instant, and after how many rounds, is its
course (`Clock.course`). What a tick does is said once in its terms
(`Clock.tick_eq`): it delivers what is pending, and moves the clock along its
course unless the clock is paused. So a tick leaves the period alone
(`Clock.tick_period`), and all that can go wrong in it is that its rounds
cannot be counted (`Clock.tick_fault`). A clock holds a period as it was
given, if that is a number which is not below zero (`Clock.same_heldPeriod`).
-/

namespace ParticleTimeline

namespace Clock

variable {α : Type} [Scalar α]

/-! ## The course of a tick -/

namespace Wrapping

/-- The rounds, if they could be counted. -/
def counted (w : Wrapping α) : Nat := if w.overflown then 0 else w.wraps

/-- The fault of rounds that could not be counted. -/
def fault? (w : Wrapping α) : Option Fault := if w.overflown then some .overflow else none

end Wrapping

/-- Where a running clock gets by an instant. Without a period it is at zero. -/
def course (c : Clock α) (now : Nat) : Wrapping α :=
  if Scalar.le c.period Scalar.zero then { time := Scalar.zero, wraps := 0, overflown := false }
  else settle c.period (c.time + c.elapsed now)

theorem advance_eq (c : Clock α) (now : Nat) : c.advance now =
    ({ c with
        time := (c.course now).time
        delta := c.elapsed now
        anchor := some now
        pending := c.pending ++ List.replicate (c.course now).counted .wrapped },
      (c.course now).fault?) := by
  unfold advance course
  by_cases hperiod : Scalar.le c.period Scalar.zero = true
  · simp [hperiod, Wrapping.counted, Wrapping.fault?]
  · cases hcount : (settle c.period (c.time + c.elapsed now)).overflown <;>
      simp [hperiod, hcount, Wrapping.counted, Wrapping.fault?]

/-- **What a tick does.** -/
theorem tick_eq (c : Clock α) (now : Nat) : c.tick now =
    if c.paused then
      ({ c with delta := Scalar.zero, pending := [] }, c.pending.flatMap (deliver c.listeners),
        none)
    else
      ({ c with
          time := (c.course now).time
          delta := c.elapsed now
          anchor := some now
          pending := List.replicate (c.course now).counted .wrapped },
        c.pending.flatMap (deliver c.listeners), (c.course now).fault?) := by
  by_cases hpaused : c.paused = true
  · simp only [tick, dispatch, hpaused, if_true]
  · have htick : c.tick now =
        ((({ c with pending := [] } : Clock α).advance now).1,
          c.pending.flatMap (deliver c.listeners),
          (({ c with pending := [] } : Clock α).advance now).2) := by
      simp only [tick, dispatch, hpaused, Bool.false_eq_true, if_false]
    -- The queue has no part in where the clock gets.
    rw [if_neg hpaused, htick, advance_eq]
    rfl

/-! ## The period -/

theorem tick_period (c : Clock α) (now : Nat) : (c.tick now).1.period = c.period := by
  rw [tick_eq]
  split <;> rfl

theorem same_heldPeriod {period : Float} (h : (0.0 : Float) ≤ period) :
    Scalar.same (heldPeriod period) period = true :=
  Scalar.same_max_zero h

/-! ## Faults -/

/-- A clock only ever fails to count its rounds. -/
theorem tick_fault {c : Clock α} {now : Nat} {fault : Fault}
    (h : (c.tick now).2.2 = some fault) : fault = .overflow := by
  rw [tick_eq] at h
  split at h
  · simp at h
  · simp only [Wrapping.fault?] at h
    split at h
    · exact (Option.some.inj h).symm
    · simp at h

end Clock

end ParticleTimeline
