import Mathlib.Algebra.Order.Floor.Ring
import Mathlib.Algebra.Order.Floor.Semifield
import Mathlib.Tactic.Linarith
import Mathlib.Tactic.Ring
import ParticleTimeline.Proofs.Clock.Operation
import ParticleTimeline.Proofs.Number.Rational
/-!
# Where ticks lead

Over exact numbers the position of a running clock is a remainder: taking the
period away until the rest fits leaves what division leaves, and counts the
quotient (`Clock.wrap_eq`). So each tick brings a clock to the remainder of
the time it has covered (`Clock.course_eq`), and what it covers from there is
less by whole periods only (`ClockOperation.turns_after_tick`). However often
a clock is ticked, it therefore gets to the same position with the same
rounds (`ClockOperation.ticks_arrive`).
-/

namespace ParticleTimeline

namespace Clock

/-! ## Rounds -/

/-- **Taking the period away is division.** -/
theorem wrap_eq {period time : ℚ} (hperiod : 0 < period) (htime : 0 ≤ time) (wraps : Nat)
    {left : Nat} (hleft : ⌊time / period⌋₊ < left) :
    wrap period time wraps left =
      { time := time - period * ⌊time / period⌋₊, wraps := wraps + ⌊time / period⌋₊,
        overflown := false } := by
  induction left generalizing time wraps with
  | zero => exact absurd hleft (Nat.not_lt_zero _)
  | succ left ih =>
    rw [wrap]
    by_cases hround : period ≤ time
    · have hone : 1 ≤ ⌊time / period⌋₊ := Nat.floor_pos.2 ((one_le_div hperiod).2 hround)
      have hfewer : ⌊(time - period) / period⌋₊ = ⌊time / period⌋₊ - 1 := by
        rw [sub_div, div_self hperiod.ne', Nat.floor_sub_one]
      rw [if_pos (Scalar.le_rat.2 hround)]
      refine (ih (sub_nonneg.2 hround) (wraps + 1) (by omega)).trans ?_
      rw [hfewer, Nat.cast_sub hone, Nat.add_assoc, Nat.add_sub_cancel' hone]
      congr 1
      push_cast
      ring
    · have hnone : ⌊time / period⌋₊ = 0 :=
        Nat.floor_eq_zero.2 ((div_lt_one hperiod).2 (not_le.1 hround))
      rw [if_neg (fun h => hround (Scalar.le_rat.1 h)), hnone]
      simp

theorem settle_eq {period time : ℚ} (hperiod : 0 < period) (htime : 0 ≤ time)
    (hcount : ⌊time / period⌋₊ < UInt32.size) :
    settle period time =
      { time := time - period * ⌊time / period⌋₊, wraps := ⌊time / period⌋₊,
        overflown := false } := by
  have hmoves : Scalar.same (time - period) time = false := by
    rw [← Bool.not_eq_true, Scalar.same_rat]
    intro hstays
    linarith
  unfold settle
  rw [hmoves, Bool.and_false, if_neg Bool.false_ne_true, wrap_eq hperiod htime 0 hcount,
    Nat.zero_add]

/-- There are a million nanoseconds in a millisecond. -/
theorem milliseconds_eq (span : Nat) : (milliseconds span : ℚ) = span / 1000000 := by
  have hspan : ((1000000000 * (span / 1000000000) + span % 1000000000 : Nat) : ℚ) = span := by
    rw [Nat.div_add_mod]
  push_cast at hspan
  simp only [milliseconds, Scalar.natural_rat]
  push_cast
  linarith

/-! ## Running clocks -/

/-- A clock that runs since an instant, with a position within its period. -/
structure Running (c : Clock ℚ) (anchor : Nat) : Prop where
  unpaused : c.paused = false
  anchored : c.anchor = some anchor
  period_pos : 0 < c.period
  time_nonneg : 0 ≤ c.time
  time_lt : c.time < c.period

/-- The time from the last start at zero to an instant. -/
def covered (c : Clock ℚ) (anchor now : Nat) : ℚ := c.time + ((now : ℚ) - anchor) / 1000000

/-- How often the position starts again until an instant. -/
def turns (c : Clock ℚ) (anchor now : Nat) : Nat := ⌊c.covered anchor now / c.period⌋₊

variable {c : Clock ℚ} {anchor now later : Nat}

theorem covered_anchor : c.covered anchor anchor = c.time := by
  simp [covered]

theorem Running.covered_nonneg (h : c.Running anchor) (hnow : anchor ≤ now) :
    0 ≤ c.covered anchor now := by
  have hspan : (anchor : ℚ) ≤ now := Nat.cast_le.2 hnow
  have hposition := h.time_nonneg
  unfold covered
  linarith

theorem Running.turns_anchor (h : c.Running anchor) : c.turns anchor anchor = 0 := by
  rw [turns, covered_anchor]
  exact Nat.floor_eq_zero.2 ((div_lt_one h.period_pos).2 h.time_lt)

theorem Running.turns_mono (h : c.Running anchor) (hlater : now ≤ later) :
    c.turns anchor now ≤ c.turns anchor later := by
  have hspan : (now : ℚ) ≤ later := Nat.cast_le.2 hlater
  refine Nat.floor_mono (div_le_div_of_nonneg_right ?_ h.period_pos.le)
  unfold covered
  linarith

/-- **A running clock gets to the remainder of the time it has covered.** -/
theorem course_eq (h : c.Running anchor) (hnow : anchor ≤ now)
    (hcount : c.turns anchor now < UInt32.size) :
    c.course now =
      { time := c.covered anchor now - c.period * c.turns anchor now,
        wraps := c.turns anchor now, overflown := false } := by
  have helapsed : c.time + c.elapsed now = c.covered anchor now := by
    rw [elapsed, h.anchored, covered, ← Nat.cast_sub hnow]
    exact congrArg (c.time + ·) (milliseconds_eq _)
  have hperiod : ¬Scalar.le c.period Scalar.zero = true := fun hzero =>
    absurd h.period_pos (not_lt.2 (Scalar.le_rat.1 hzero))
  rw [course, if_neg hperiod, helapsed]
  exact settle_eq h.period_pos (h.covered_nonneg hnow) hcount

end Clock

namespace ClockOperation

open Clock (Running)

/-! ## One tick -/

variable {c : Clock ℚ} {anchor now : Nat}

section Tick

variable (h : c.Running anchor) (hnow : anchor ≤ now) (hcount : c.turns anchor now < UInt32.size)
include h hnow hcount

theorem after_tick_eq :
    (tick now).after c =
      { c with
        time := c.covered anchor now - c.period * c.turns anchor now
        delta := c.elapsed now
        anchor := some now
        pending := List.replicate (c.turns anchor now) .wrapped } := by
  simp [after_tick, h.unpaused, Clock.course_eq h hnow hcount, Clock.Wrapping.counted]

theorem faults_tick_eq : (tick now).faults c = [] := by
  simp [faults, perform, Clock.tick_eq, h.unpaused, Clock.course_eq h hnow hcount,
    Clock.Wrapping.fault?]

/-- A tick brings the position into the period. -/
theorem running_after_tick : ((tick now).after c).Running now := by
  have hcovered := h.covered_nonneg hnow
  have hbelow := Nat.floor_le (div_nonneg hcovered h.period_pos.le)
  have habove := Nat.lt_floor_add_one (c.covered anchor now / c.period)
  rw [le_div_iff₀ h.period_pos] at hbelow
  rw [div_lt_iff₀ h.period_pos] at habove
  rw [after_tick_eq h hnow hcount]
  refine ⟨h.unpaused, rfl, h.period_pos, ?_, ?_⟩
  · simp only [Clock.turns]
    linarith
  · simp only [Clock.turns]
    linarith

/-- Behind a tick less is covered, by the periods that it took away. -/
theorem covered_after_tick (later : Nat) :
    ((tick now).after c).covered now later
      = c.covered anchor later - c.period * c.turns anchor now := by
  rw [after_tick_eq h hnow hcount]
  simp only [Clock.covered]
  ring

/-- **Behind a tick the rounds are fewer** by those that it took. -/
theorem turns_after_tick (later : Nat) :
    ((tick now).after c).turns now later = c.turns anchor later - c.turns anchor now := by
  have hperiod : ((tick now).after c).period = c.period := by rw [after_tick_eq h hnow hcount]
  rw [Clock.turns, covered_after_tick h hnow hcount, hperiod, sub_div,
    mul_div_cancel_left₀ _ h.period_pos.ne', Nat.floor_sub_natCast]
  rfl

end Tick

/-! ## Many ticks -/

/-- Some operations bring a running clock where the time up to an instant
does, and fail nowhere on the way. -/
structure Arrives (c : Clock ℚ) (anchor now : Nat) (ops : List (ClockOperation ℚ)) : Prop where
  /-- The position is the remainder of the time that was covered. -/
  time : (run ops c).time = c.covered anchor now - c.period * c.turns anchor now
  /-- Behind what was pending before there is a wrap for each round. -/
  events : along dispatched ops c ++ (run ops c).pending
    = c.pending ++ List.replicate (c.turns anchor now) .wrapped
  faultless : along faults ops c = []
  running : (run ops c).Running now

theorem Arrives.nil (h : c.Running anchor) : Arrives c anchor anchor [] where
  time := by simp [Clock.covered_anchor, h.turns_anchor]
  events := by simp [h.turns_anchor]
  faultless := rfl
  running := h

/-- A tick on the way changes nothing about where a clock arrives. -/
theorem Arrives.tick {later : Nat} {ops : List (ClockOperation ℚ)} (h : c.Running anchor)
    (hnow : anchor ≤ now) (hcount : c.turns anchor now < UInt32.size) (hlater : now ≤ later)
    (harrives : Arrives ((ClockOperation.tick now).after c) now later ops) :
    Arrives c anchor later (.tick now :: ops) where
  time := by
    rw [run_cons, harrives.time, covered_after_tick h hnow hcount, turns_after_tick h hnow hcount,
      Nat.cast_sub (h.turns_mono hlater), after_tick_eq h hnow hcount]
    ring
  events := by
    have hpending : ((ClockOperation.tick now).after c).pending
        = List.replicate (c.turns anchor now) .wrapped := by
      rw [after_tick_eq h hnow hcount]
    rw [along_cons, run_cons, List.append_assoc, harrives.events, hpending,
      turns_after_tick h hnow hcount, ← List.replicate_add,
      Nat.add_sub_cancel' (h.turns_mono hlater)]
    rfl
  faultless := by
    rw [along_cons, faults_tick_eq h hnow hcount, harrives.faultless]
    rfl
  running := harrives.running

theorem le_getLastD {instants : List Nat} (h : (anchor :: instants).Pairwise (· ≤ ·)) :
    anchor ≤ instants.getLastD anchor := by
  rcases List.eq_nil_or_concat' instants with rfl | ⟨earlier, last, rfl⟩
  · exact Nat.le_refl _
  · rw [List.getLastD_concat]
    exact (List.pairwise_cons.1 h).1 last (by simp)

/-- However many ticks there are on the way, the clock arrives. -/
theorem arrives_ticks {instants : List Nat} (h : c.Running anchor)
    (hordered : (anchor :: instants).Pairwise (· ≤ ·))
    (hcount : (anchor :: instants).IsChain fun earlier later =>
      c.turns anchor later < c.turns anchor earlier + UInt32.size) :
    Arrives c anchor (instants.getLastD anchor) (instants.map .tick) := by
  induction instants generalizing c anchor with
  | nil => exact .nil h
  | cons now instants ih =>
    obtain ⟨hlater, hrest⟩ := List.pairwise_cons.1 hordered
    obtain ⟨hfirst, hcounts⟩ := List.isChain_cons_cons.1 hcount
    have hnow : anchor ≤ now := hlater now List.mem_cons_self
    have hlast : now ≤ instants.getLastD now := le_getLastD hrest
    rw [h.turns_anchor, Nat.zero_add] at hfirst
    rw [List.getLastD_cons]
    refine .tick h hnow hfirst hlast (ih (running_after_tick h hnow hfirst) hrest ?_)
    -- Each tick takes the rounds it took before, now that fewer are to come.
    refine hcounts.imp fun earlier later hfits => ?_
    rw [turns_after_tick h hnow hfirst, turns_after_tick h hnow hfirst]
    omega

/-- **The frame rate has no part in where a clock gets.** Ticked at any
instants, none of them too far from the one before for its rounds to be
counted, a running clock has the position and has queued the wraps that one
tick at the last of the instants comes to. -/
theorem ticks_arrive {instants : List Nat} (h : c.Running anchor)
    (hordered : (anchor :: instants).Pairwise (· ≤ ·))
    (hcount : (anchor :: instants).IsChain fun earlier later =>
      c.turns anchor later < c.turns anchor earlier + UInt32.size) :
    let last := instants.getLastD anchor
    Arrives c anchor last (instants.map .tick) ∧
      (c.turns anchor last < UInt32.size → Arrives c anchor last [.tick last]) := by
  intro last
  refine ⟨arrives_ticks h hordered hcount, fun hfits => ?_⟩
  -- A single tick is one of the ways to get there.
  have hlast : [anchor, last].Pairwise (· ≤ ·) := List.pairwise_pair.2 (le_getLastD hordered)
  have honce : ([anchor, last] : List Nat).IsChain fun earlier later =>
      c.turns anchor later < c.turns anchor earlier + UInt32.size := by
    simpa [h.turns_anchor] using hfits
  exact arrives_ticks h hlast honce

/-- A clock at a quarter of its second is ticked when the second is full, and
once more three seconds after the start. It has gone round three times, with
the first tick or without. -/
theorem ticks_arrive_through_end :
    let c : Clock ℚ := { time := 250, delta := 0, period := 1000, anchor := some 0 }
    c.turns 0 750000000 = 1 ∧ c.turns 0 3000000000 = 3 ∧
      Arrives c 0 3000000000 [.tick 750000000, .tick 3000000000] ∧
      Arrives c 0 3000000000 [.tick 3000000000] := by
  intro c
  have hfull : c.turns 0 750000000 = 1 := by norm_num [c, Clock.turns, Clock.covered]
  have hlast : c.turns 0 3000000000 = 3 := by norm_num [c, Clock.turns, Clock.covered]
  have hruns : c.Running 0 :=
    ⟨rfl, rfl, by norm_num [c], by norm_num [c], by norm_num [c]⟩
  have hcount : ([0, 750000000, 3000000000] : List Nat).IsChain fun earlier later =>
      c.turns 0 later < c.turns 0 earlier + UInt32.size := by
    simp [hruns.turns_anchor, hfull, hlast, UInt32.size]
  obtain ⟨hticks, honce⟩ := ticks_arrive hruns (by decide) hcount
  refine ⟨hfull, hlast, hticks, honce ?_⟩
  exact hlast ▸ by decide

end ClockOperation

end ParticleTimeline
