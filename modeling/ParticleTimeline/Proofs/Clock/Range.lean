import ParticleTimeline.Proofs.Clock.Doubles
/-!
# Where a clock is

A clock that is only ever given finite numbers, and whose rounds can all be
counted, is at a position from zero up to the period. It is below the period
unless the position was last sought below zero by so little that it rounds up
to the period (`Binary.RoundsUp`), and then it is at the period itself. Without
a period it is at zero. The time since the last tick is never below zero, and
is zero during a pause.

This is kept by each operation (`ClockOperation.ranged_after`), and so holds
after every run (`ClockOperation.ranged_run`).
-/

namespace ParticleTimeline

open Binary

namespace Clock

/-! ## Ticks over doubles -/

/-- A period is an amount if it is given as a finite number. -/
theorem amount_heldPeriod {period : Float} (h : period.isFinite = true) :
    Amount (heldPeriod period) := by
  rw [heldPeriod, Scalar.max]
  split
  · exact amount_zero
  · rename_i hmore
    simp only [Bool.or_eq_true, not_or] at hmore
    refine ⟨h, ?_⟩
    have habove : ¬ period ≤ 0 := fun hle => hmore.1 (decide_eq_true hle)
    rw [le_iff_exact h amount_zero.finite, exact_zero] at habove
    exact (not_le.1 habove).le

theorem isPositive_thousand : Scalar.IsPositive (Scalar.natural 1000) :=
  by decide +kernel

theorem isPositive_billion : Scalar.IsPositive (Scalar.natural 1000000000) :=
  by decide +kernel

theorem zero_le_milliseconds (span : Nat) : (0 : Float) ≤ milliseconds span :=
  Scalar.zero_le_mul
    (Scalar.zero_le_add (Scalar.zero_le_natural _)
      (Scalar.zero_le_div (Scalar.zero_le_natural _) isPositive_billion))
    isPositive_thousand

theorem zero_le_elapsed (c : Clock Float) (now : Nat) : 0 ≤ c.elapsed now := by
  rw [elapsed]
  split
  · exact zero_le_milliseconds _
  · exact amount_zero.zero_le

variable {c : Clock Float} {now : Nat}

/-- A course whose rounds could be counted leads to an amount below the period. -/
theorem course_below (hperiod : Amount c.period) (hpos : 0 < c.period) (htime : Amount c.time)
    (h : (c.course now).overflown = false) :
    Amount (c.course now).time ∧ exact (c.course now).time < exact c.period := by
  have hzero : ¬ Scalar.le c.period Scalar.zero = true :=
    fun hle => (le_zero_iff hperiod).1 hle hpos
  have hfrom : 0 ≤ c.time + c.elapsed now :=
    Scalar.zero_le_add htime.zero_le (zero_le_elapsed c now)
  rw [course, if_neg hzero] at h ⊢
  cases hfinite : (c.time + c.elapsed now).isFinite with
  | false =>
    -- No number of rounds brings an infinity below the period.
    have hoverflown := overflown_settle_infinity hperiod (infinity_of_not_finite hfrom hfinite)
    exact absurd (hoverflown.symm.trans h) Bool.noConfusion
  | true =>
    have hamount : Amount (c.time + c.elapsed now) := amount_iff.2 ⟨hfinite, hfrom⟩
    refine ⟨settle_keeps (fun y => amount_round hperiod) hamount, ?_⟩
    have hwrap := settle_eq_wrap h
    rw [hwrap] at h ⊢
    exact wrap_lt hperiod hamount h

/-- A clock without a period gets to zero. -/
theorem course_of_not_pos (hperiod : Amount c.period) (hpos : ¬ 0 < c.period) :
    (c.course now).time = 0 := by
  rw [course, if_pos ((le_zero_iff hperiod).2 hpos)]
  rfl

/-! ## Positions -/

/-- Where a clock is in its period, and how it got there if a position was
sought since it moved on. -/
structure Placed (sought : Option Float) (period time : Float) : Prop where
  amount : Amount time
  time_le : 0 < period → exact time ≤ exact period
  at_period : 0 < period → (exact time = exact period ↔ ∃ t ∈ sought, RoundsUp t period)
  without_period : ¬ 0 < period → time = 0

theorem placed_of_lt {period time : Float} (htime : Amount time) (hpos : 0 < period)
    (hlt : exact time < exact period) : Placed none period time where
  amount := htime
  time_le _ := hlt.le
  at_period _ := ⟨fun h => absurd h hlt.ne, nofun⟩
  without_period h := absurd hpos h

theorem placed_zero {period : Float} (sought : Option Float) (hpos : ¬ 0 < period) :
    Placed sought period 0 where
  amount := amount_zero
  time_le h := absurd h hpos
  at_period h := absurd h hpos
  without_period _ := rfl

/-- A position that is sought is the remainder by the period. -/
theorem placed_position {period time : Float} (hperiod : Amount period)
    (htime : time.isFinite = true) : Placed (some time) period (position period time) := by
  rw [position]
  split
  · rename_i hlt
    have hpos : 0 < period := of_decide_eq_true hlt
    obtain ⟨hamount, hle, heq⟩ := amount_remEuclid htime hperiod hpos
    refine ⟨hamount, fun _ => hle, fun _ => heq.trans ?_, fun h => absurd hpos h⟩
    simp
  · rename_i hlt
    exact placed_zero _ fun hpos => hlt (decide_eq_true hpos)

/-- **A position just below zero** is sought at the period. -/
theorem seek_just_below_zero {c : Clock Float} (hperiod : Amount c.period) {time : Float}
    (htime : time.isFinite = true) (hneg : exact time < 0)
    (h : -exact time * 2 ^ 55 ≤ exact c.period) : (c.seek time).time = c.period := by
  have hpositive : 0 < exact c.period := by linarith
  have hpos : 0 < c.period := (zero_lt_iff hperiod.finite).2 hpositive
  have hplaced : Placed (some time) c.period (c.seek time).time :=
    placed_position hperiod htime
  have hexact : exact (c.seek time).time = exact c.period :=
    (hplaced.at_period hpos).2 ⟨time, rfl, roundsUp_of_small hperiod.finite hneg h⟩
  exact eq_of_exact hplaced.amount.finite hperiod.finite hexact hpositive.ne'

/-- An amount that is moved into a period does not reach it. -/
theorem Placed.of_amount {period time position : Float}
    (h : Placed (some time) period position) (htime : Amount time) :
    Placed none period position where
  amount := h.amount
  time_le := h.time_le
  at_period hpos := by
    refine ⟨fun heq => ?_, nofun⟩
    obtain ⟨t, ht, hrounds⟩ := (h.at_period hpos).1 heq
    obtain rfl := Option.some.inj ht
    exact absurd htime.nonneg hrounds.1.not_ge
  without_period := h.without_period

/-- Where a clock is, and what it says of the last tick. -/
structure Ranged (sought : Option Float) (c : Clock Float) : Prop where
  period : Amount c.period
  placed : Placed sought c.period c.time
  delta : 0 ≤ c.delta
  paused : c.paused = true → c.delta = 0

theorem ranged_ofPeriod {period : Float} (h : period.isFinite = true) :
    Ranged none (ofPeriod period) where
  period := amount_heldPeriod h
  placed := by
    by_cases hpos : 0 < (heldPeriod period : Float)
    · refine placed_of_lt amount_zero hpos ?_
      change exact 0 < exact (heldPeriod period)
      rw [exact_zero]
      exact (zero_lt_iff (amount_heldPeriod h).finite).1 hpos
    · exact placed_zero none hpos
  delta := amount_zero.zero_le
  paused := nofun

end Clock

namespace ClockOperation

/-! ## Runs -/

/-- The position that was sought last, if the clock has not moved on since: a
change of the period moves it into that, and a tick moves it on if it runs. -/
def sought {α : Type} (op : ClockOperation α) (c : Clock α) (earlier : Option α) : Option α :=
  match op with
  | .seek time => some time
  | .setPeriod _ => none
  | .tick _ => if c.paused then earlier else none
  | _ => earlier

/-- The position that is sought last in a run. -/
def soughtAlong {α : Type} [Scalar α] :
    List (ClockOperation α) → Clock α → Option α → Option α
  | [], _, earlier => earlier
  | op :: ops, c, earlier => soughtAlong ops (op.after c) (op.sought c earlier)

/-- Whether what an operation is given is finite. -/
def Given : ClockOperation Float → Prop
  | .seek time => time.isFinite = true
  | .setPeriod period => period.isFinite = true
  | _ => True

instance (op : ClockOperation Float) : Decidable op.Given :=
  match op with
  | .seek time => inferInstanceAs (Decidable (time.isFinite = true))
  | .setPeriod period => inferInstanceAs (Decidable (period.isFinite = true))
  | .tick _ | .setPaused _ _ | .dispatch | .listen | .unlisten _ => isTrue trivial

open Clock

variable {op : ClockOperation Float} {c : Clock Float} {earlier : Option Float}

/-- **Every operation keeps a clock in its range.** -/
theorem ranged_after (h : Ranged earlier c) (hgiven : op.Given) (hfault : op.faults c = []) :
    Ranged (op.sought c earlier) (op.after c) := by
  obtain ⟨hperiod, hplaced, hdelta, hpaused⟩ := h
  cases op with
  | tick now =>
    rw [after_tick, sought]
    split
    · exact ⟨hperiod, hplaced, amount_zero.zero_le, fun _ => rfl⟩
    · rename_i hruns
      refine ⟨hperiod, ?_, zero_le_elapsed c now, fun hp => absurd hp hruns⟩
      by_cases hpos : 0 < c.period
      · have hcounted : (c.course now).overflown = false := by
          rw [faults, perform, tick_eq, if_neg hruns] at hfault
          cases hover : (c.course now).overflown with
          | false => rfl
          | true => simp [Wrapping.fault?, hover] at hfault
        -- The loop has come to its end, so the time is below the period.
        obtain ⟨hamount, hlt⟩ := course_below hperiod hpos hplaced.amount hcounted
        exact placed_of_lt hamount hpos hlt
      · have hzero : (c.course now).time = 0 := course_of_not_pos hperiod hpos
        change Placed none c.period (c.course now).time
        rw [hzero]
        exact placed_zero none hpos
  | setPaused paused now =>
    rw [after_setPaused]
    split
    · exact ⟨hperiod, hplaced, hdelta, hpaused⟩
    · refine ⟨hperiod, hplaced, ?_, fun hp => if_pos hp⟩
      change 0 ≤ if paused then Scalar.zero else c.delta
      split
      · exact amount_zero.zero_le
      · exact hdelta
  | seek time => exact ⟨hperiod, placed_position hperiod hgiven, hdelta, hpaused⟩
  | setPeriod period =>
    -- The old position is not below zero, so nothing rounds up.
    have hheld : Amount (heldPeriod period) := amount_heldPeriod hgiven
    exact ⟨hheld, (placed_position hheld hplaced.amount.finite).of_amount hplaced.amount, hdelta,
      hpaused⟩
  | _ => exact ⟨hperiod, hplaced, hdelta, hpaused⟩

theorem ranged_run {ops : List (ClockOperation Float)} (h : Ranged earlier c)
    (hgiven : ∀ op ∈ ops, op.Given) (hfaults : along faults ops c = []) :
    Ranged (soughtAlong ops c earlier) (run ops c) := by
  induction ops generalizing c earlier with
  | nil => exact h
  | cons op ops ih =>
    rw [List.forall_mem_cons] at hgiven
    rw [along_cons, List.append_eq_nil_iff] at hfaults
    exact ih (ranged_after h hgiven.1 hfaults.1) hgiven.2 hfaults.2

/-- **A clock is within its period**, from zero on, unless a position was sought
last that rounds up to the period. Without a period it is at zero, and the time
since the last tick is not below zero, and zero during a pause. -/
theorem run_inRange {period : Float} (hperiod : period.isFinite = true)
    {ops : List (ClockOperation Float)} (hgiven : ∀ op ∈ ops, op.Given)
    (hfaults : along faults ops (.ofPeriod period) = []) :
    let c := run ops (.ofPeriod period)
    (0 < c.period → 0 ≤ c.time ∧ c.time ≤ c.period ∧
        (c.time < c.period ↔
          ∀ t ∈ soughtAlong ops (.ofPeriod period) none, ¬ RoundsUp t c.period)) ∧
      (¬ 0 < c.period → c.time = 0) ∧ 0 ≤ c.delta ∧ (c.paused = true → c.delta = 0) := by
  intro c
  obtain ⟨hamount, hplaced, hdelta, hpaused⟩ : Ranged _ c :=
    ranged_run (ranged_ofPeriod hperiod) hgiven hfaults
  refine ⟨fun hpos => ⟨hplaced.amount.zero_le, ?_, ?_⟩, hplaced.without_period, hdelta,
    hpaused⟩
  · rw [le_iff_exact hplaced.amount.finite hamount.finite]
    exact hplaced.time_le hpos
  · rw [lt_iff_exact hplaced.amount.finite hamount.finite, (hplaced.time_le hpos).lt_iff_ne, ne_eq,
      hplaced.at_period hpos, not_exists]
    exact forall_congr' fun t => not_and

/-- A clock that is sought below zero, runs, is paused, and gets another
period. -/
theorem run_inRange_renormalised :
    let ops : List (ClockOperation Float) :=
      [.seek (-1), .tick 0, .tick 5000000, .setPaused true 6000000, .setPeriod 0.25]
    let c := run ops (.ofPeriod 1000)
    (∀ op ∈ ops, op.Given) ∧ along faults ops (.ofPeriod 1000) = [] ∧ 0 < c.period ∧
      0 ≤ c.time ∧ c.time < c.period ∧ c.delta = 0 := by
  intro ops c
  have hgiven : ∀ op ∈ ops, op.Given := by decide +kernel
  have hfaults : along faults ops (.ofPeriod 1000) = [] := by decide +kernel
  have hpos : 0 < c.period := by decide +kernel
  obtain ⟨hrange, -, -, hpaused⟩ := run_inRange (by decide +kernel) hgiven hfaults
  obtain ⟨hlow, -, hbelow⟩ := hrange hpos
  have hnone : soughtAlong ops (.ofPeriod 1000) none = none := rfl
  have hlt : c.time < c.period := hbelow.2 (by rw [hnone]; exact nofun)
  exact ⟨hgiven, hfaults, hpos, hlow, hlt, hpaused (by decide +kernel)⟩

/-- A position that is sought just below zero rounds up to the period. -/
theorem seek_reaches_period :
    let ops : List (ClockOperation Float) := [.seek (-1e-20)]
    let c := run ops (.ofPeriod 1000)
    (∀ op ∈ ops, op.Given) ∧ along faults ops (.ofPeriod 1000) = [] ∧ 0 < c.period ∧
      ¬ (0 ≤ c.time ∧ c.time < c.period) := by
  intro ops c
  exact ⟨by decide +kernel, rfl, by decide +kernel, by decide +kernel⟩

end ClockOperation

end ParticleTimeline
