import ParticleTimeline.Proofs.Clock.Range
import ParticleTimeline.Proofs.Number.Single
/-!
# Whether the rounds of a tick can be counted

Rounds are counted in 32 bits. They can be counted if the period goes into the
time no more often than that, less one part in two million, and they cannot be
if it goes into it that much more often; in between it depends on how the single
rounds are rounded (`Clock.Rounds`). Beyond that there are periods so small that
a round changes nothing, and then the rounds would not end however they were
counted.

This holds in every state of a clock whose periods are finite, whatever
positions were sought (`ClockOperation.run_rounds`).
-/

namespace ParticleTimeline

open Binary
open Float.Model

namespace Clock

/-- What rounds over a time come to, and the fault of those that cannot be
counted. -/
structure Rounds (period time : Float) (fault : Option Fault) : Prop where
  /-- One of as many rounds as can be counted finds the time below the period. -/
  counted : fault = none ↔ ∃ n < UInt32.size, ¬ period ≤ (· - period)^[n] time
  /-- The period goes into the time a little less often than can be counted. -/
  enough : time.isInf = false → exact time ≤ (2 ^ 32 - 2 ^ 11) * exact period → fault = none
  /-- The period goes into the time a little more often than can be counted. -/
  short : time.isInf = true ∨ (2 ^ 32 + 2 ^ 11) * exact period ≤ exact time →
    fault = some .overflow
  /-- The rounds come to an end, whether or not they can be counted. -/
  halting : time.isInf = false → exact time ≤ 2 ^ 51 * exact period →
    ∃ n, ¬ period ≤ (· - period)^[n] time
  /-- The rounds never come to an end. -/
  endless : time.isInf = true ∨ 2 ^ 55 * exact period ≤ exact time →
    ∀ n, period ≤ (· - period)^[n] time

section Rounds

variable {period x : Float}

theorem finite_of_isInf (h : x.isInf = false) (hx : 0 ≤ x) : x.isFinite = true := by
  cases hfinite : x.isFinite with
  | true => rfl
  | false =>
    have hparts := infinity_of_not_finite hx hfinite
    have hinf : x.isInf = (ofDouble x).isInf := rfl
    rw [hinf, hparts] at h
    cases h

theorem infinity_of_isInf (h : x.isInf = true) (hx : x.isNaN = true ∨ 0 ≤ x) :
    ofDouble x = .infinity .positive := by
  have hinf : (ofDouble x).isInf = true := h
  rcases hx with hnan | hx
  · have hparts : (ofDouble x).isNaN = true := hnan
    cases hu : ofDouble x with
    | notANumber => rw [hu] at hinf; cases hinf
    | _ => rw [hu] at hparts; cases hparts
  · refine infinity_of_not_finite hx ?_
    rw [isFinite_double]
    cases hu : ofDouble x with
    | infinity s => rfl
    | _ => rw [hu] at hinf; cases hinf

/-- Only a finite double has a value above zero. -/
theorem amount_of_exact_pos (h : 0 < exact x) : Amount x := by
  refine ⟨?_, h.le⟩
  rw [isFinite_double]
  rw [exact] at h
  cases hu : ofDouble x with
  | zero s => rfl
  | finite s m e hm => rfl
  | _ => rw [hu] at h; exact absurd h (lt_irrefl 0)

variable (hperiod : Amount period) (hpos : 0 < period) (hx : x.isNaN = true ∨ 0 ≤ x)

include hperiod hpos hx

/-- **So many rounds bring a time below the period.** -/
theorem rounds_end (hinf : x.isInf = false) {k left : Nat} (hk : k < left)
    (h : exact x < (k + 1) * (1 - k / 2 ^ 53) * exact period) :
    ∃ n < left, ¬ period ≤ (· - period)^[n] x := by
  rcases hx with hnan | hx
  · refine ⟨0, Nat.zero_lt_of_lt hk, fun hle => ?_⟩
    have hparts : (ofDouble x).isNaN = true := hnan
    have hnumber := (isNaN_eq_false_of_le (Scalar.le_iff_unpack.1 hle)).2
    exact absurd (hparts.symm.trans hnumber) Bool.noConfusion
  · have hamount : Amount x := amount_iff.2 ⟨finite_of_isInf hinf hx, hx⟩
    have hcounted : (wrap period x 0 left).overflown = false :=
      overflown_wrap_of_lt hperiod ((zero_lt_iff hperiod.finite).1 hpos) hamount hk h
    simpa only [below_iff] using (overflown_wrap_iff 0 left).1 hcounted

/-- So many rounds do not. -/
theorem overflown_settle_of_le
    (h : x.isInf = true ∨ (2 ^ 32 + 2 ^ 11) * exact period ≤ exact x) :
    (settle period x).overflown = true := by
  have hpositive := (zero_lt_iff hperiod.finite).1 hpos
  rcases h with hinf | hle
  · exact overflown_settle_infinity hperiod (infinity_of_isInf hinf hx)
  · have hamount : Amount x := amount_of_exact_pos (by linarith)
    have hneeded : (wrap period x 0 UInt32.size).overflown = true := by
      refine overflown_wrap_of_le hperiod hpositive hamount (by decide) ?_
      rw [UInt32.size]
      push_cast
      linarith
    cases hcount : (settle period x).overflown with
    | true => rfl
    | false =>
      have hwrap := settle_eq_wrap hcount
      rw [hwrap, hneeded] at hcount
      cases hcount

/-- A period that is too small for the last bit of a time is not taken from it. -/
theorem round_changes_nothing (h : x.isInf = true ∨ 2 ^ 55 * exact period ≤ exact x) :
    x - period = x ∧ period ≤ x := by
  have hpositive := (zero_lt_iff hperiod.finite).1 hpos
  rcases h with hinf | hle
  · have hparts := infinity_of_isInf hinf hx
    exact ⟨sub_of_infinity hparts hperiod.finite, le_infinity hparts hperiod.finite⟩
  · have hamount : Amount x := amount_of_exact_pos (by linarith)
    refine ⟨sub_eq_self_of_small hamount hperiod hpositive (by linarith), ?_⟩
    exact (le_iff_exact hperiod.finite hamount.finite).2 (by linarith)

/-- **The rounds of a time** by a period. -/
theorem rounds_settle : Rounds period x (settle period x).fault? := by
  have hpositive := (zero_lt_iff hperiod.finite).1 hpos
  have hfault : (settle period x).fault? = none ↔ (settle period x).overflown = false := by
    rw [Wrapping.fault?]
    cases (settle period x).overflown <;> simp
  have hcounted := hfault.trans (overflown_settle_iff hperiod hpos)
  constructor
  case counted => exact hcounted
  case enough =>
    intro hinf hle
    refine hcounted.2 (rounds_end hperiod hpos hx hinf (k := 2 ^ 32 - 1) (by decide) ?_)
    push_cast
    linarith
  case short =>
    intro h
    rw [Wrapping.fault?, overflown_settle_of_le hperiod hpos hx h, if_pos rfl]
  case halting =>
    intro hinf hle
    have hend := rounds_end hperiod hpos hx hinf (k := 2 ^ 52) (Nat.lt_succ_self _)
    obtain ⟨n, -, hn⟩ := hend (by push_cast; linarith)
    exact ⟨n, hn⟩
  case endless =>
    intro h n
    -- The period is lost beside the time, and every round leaves it as it was.
    obtain ⟨hfixed, hle⟩ := round_changes_nothing hperiod hpos hx h
    rwa [iterate_round hfixed]

end Rounds

/-! ## Reachable clocks -/

/-- A period that is an amount, and a position that is not below zero, if it is
a number. It is none once a position that is not finite was sought. -/
structure Timed (c : Clock Float) : Prop where
  period : Amount c.period
  time : c.time.isNaN = true ∨ 0 ≤ c.time

theorem isNaN_add {x : Float} (h : x.isNaN = true) (y : Float) : (x + y).isNaN = true := by
  have hparts : (ofDouble x).isNaN = true := h
  have hsum : UnpackedFloat.add .binary64 (ofDouble x) (ofDouble y) = .notANumber := by
    cases hu : ofDouble x with
    | notANumber => rfl
    | _ => rw [hu] at hparts; cases hparts
  have hpacked : x + y = packed (UnpackedFloat.add .binary64 (ofDouble x) (ofDouble y)) := rfl
  rw [hpacked, hsum]
  decide +kernel

section Timed

variable {c : Clock Float}

/-- Where the rounds of a tick begin. -/
theorem Timed.time_add (h : Timed c) (now : Nat) :
    (c.time + c.elapsed now).isNaN = true ∨ 0 ≤ c.time + c.elapsed now :=
  h.time.imp (fun hnan => isNaN_add hnan _)
    fun htime => Scalar.zero_le_add htime (zero_le_elapsed c now)

theorem zero_le_round {period x : Float} (hperiod : Amount period) (hle : period ≤ x) :
    0 ≤ x - period := by
  have hx : 0 ≤ x := Scalar.zero_le_trans hperiod.zero_le hle
  cases hfinite : x.isFinite with
  | false => rwa [sub_of_infinity (infinity_of_not_finite hx hfinite) hperiod.finite]
  | true =>
    have hexact := (le_iff_exact hperiod.finite hfinite).1 hle
    exact (amount_sub (amount_iff.2 ⟨hfinite, hx⟩) hperiod hexact).zero_le

theorem Timed.course (h : Timed c) (now : Nat) :
    (c.course now).time.isNaN = true ∨ 0 ≤ (c.course now).time := by
  rw [Clock.course]
  split
  · exact .inr amount_zero.zero_le
  · exact settle_keeps (P := fun y : Float => y.isNaN = true ∨ 0 ≤ y)
      (fun y _ hround => .inr (zero_le_round h.period (of_decide_eq_true hround))) (h.time_add now)

theorem unsigned_position {period time : Float} (hperiod : Amount period) :
    (position period time).isNaN = true ∨ 0 ≤ position period time := by
  cases htime : time.isFinite with
  | true => exact .inr (placed_position hperiod htime).amount.zero_le
  | false =>
    rw [position]
    split
    · exact .inl (isNaN_remEuclid htime)
    · exact .inr amount_zero.zero_le

end Timed

end Clock

namespace ClockOperation

/-- Whether the period that an operation gives, if any, is finite. -/
def GivesPeriod : ClockOperation Float → Prop
  | .setPeriod period => period.isFinite = true
  | _ => True

open Clock

variable {op : ClockOperation Float} {c : Clock Float}

theorem timed_after (h : Timed c) (hgives : op.GivesPeriod) : Timed (op.after c) := by
  cases op with
  | tick now =>
    rw [after_tick]
    split
    · exact ⟨h.period, h.time⟩
    · exact ⟨h.period, h.course now⟩
  | setPaused paused now =>
    rw [after_setPaused]
    split
    · exact h
    · exact ⟨h.period, h.time⟩
  | seek time => exact ⟨h.period, unsigned_position h.period⟩
  | setPeriod period =>
    have hheld : Amount (heldPeriod period) := amount_heldPeriod hgives
    exact ⟨hheld, unsigned_position hheld⟩
  | _ => exact ⟨h.period, h.time⟩

theorem timed_run {ops : List (ClockOperation Float)} (h : Timed c)
    (hgives : ∀ op ∈ ops, op.GivesPeriod) : Timed (run ops c) := by
  induction ops generalizing c with
  | nil => exact h
  | cons op ops ih =>
    rw [List.forall_mem_cons] at hgives
    exact ih (timed_after h hgives.1) hgives.2

/-- **Whether a tick can count its rounds**, in any state of a clock whose
periods are finite. -/
theorem run_rounds {period : Float} (hperiod : period.isFinite = true)
    {ops : List (ClockOperation Float)} (hgives : ∀ op ∈ ops, op.GivesPeriod) (now : Nat) :
    let c := run ops (.ofPeriod period)
    (c.paused = true ∨ ¬ 0 < c.period → (c.tick now).2.2 = none) ∧
      (c.paused = false → 0 < c.period →
        Rounds c.period (c.time + c.elapsed now) (c.tick now).2.2) := by
  intro c
  have hstart : Timed (.ofPeriod period) :=
    ⟨amount_heldPeriod hperiod, .inr amount_zero.zero_le⟩
  have h : Timed c := timed_run hstart hgives
  refine ⟨fun hidle => ?_, fun hruns hpos => ?_⟩
  · rw [tick_eq]
    split
    · rfl
    · rename_i hruns
      rw [course, if_pos ((le_zero_iff h.period).2 (hidle.resolve_left hruns))]
      rfl
  · have hzero : ¬ Scalar.le c.period Scalar.zero = true :=
      fun hle => (le_zero_iff h.period).1 hle hpos
    rw [tick_eq, if_neg (by rw [hruns]; exact Bool.false_ne_true), course, if_neg hzero]
    exact rounds_settle h.period hpos (h.time_add now)

/-- A clock that is ticked, sought and given another period counts the rounds of
a late tick. -/
theorem run_rounds_late :
    let ops : List (ClockOperation Float) := [.tick 0, .seek 250, .setPeriod 500]
    let c := run ops (.ofPeriod 1000)
    c.paused = false ∧ 0 < c.period ∧ (c.tick 1250000000).2.2 = none ∧
      (c.time + c.elapsed 1250000000).isInf = false ∧
      exact (c.time + c.elapsed 1250000000) ≤ (2 ^ 32 - 2 ^ 11) * exact c.period := by
  intro ops c
  have hgives : ∀ op ∈ ops, op.GivesPeriod := by
    simp only [ops, List.forall_mem_cons]
    exact ⟨trivial, trivial, show Float.isFinite 500 = true by decide +kernel, nofun⟩
  have hpos : 0 < c.period := by decide +kernel
  have hinf : (c.time + c.elapsed 1250000000).isInf = false := by decide +kernel
  have hle : exact (c.time + c.elapsed 1250000000) ≤ (2 ^ 32 - 2 ^ 11) * exact c.period := by
    decide +kernel
  have hperiod : (1000 : Float).isFinite = true := by decide +kernel
  obtain ⟨-, hrounds⟩ := run_rounds hperiod hgives 1250000000
  exact ⟨rfl, hpos, (hrounds rfl hpos).enough hinf hle, hinf, hle⟩

/-- A period that is next to nothing leaves a tick without an end. -/
theorem tick_endless :
    let c : Clock Float := run [.tick 0] (.ofPeriod 1e-300)
    along faults [.tick 0] (.ofPeriod (1e-300 : Float)) = [] ∧ 0 ≤ c.period ∧
      c.period.isFinite = true ∧ (c.tick 1000000).2.2 = some .overflow ∧
      ∀ n, c.period ≤ (· - c.period)^[n] (c.time + c.elapsed 1000000) := by
  intro c
  have hfixed : c.time + c.elapsed 1000000 - c.period = c.time + c.elapsed 1000000 := by
    decide +kernel
  have hround : c.period ≤ c.time + c.elapsed 1000000 := by decide +kernel
  refine ⟨by decide +kernel, by decide +kernel, by decide +kernel, by decide +kernel, ?_⟩
  intro n
  rwa [iterate_round hfixed n]

end ClockOperation

end ParticleTimeline
