import ParticleTimeline.Proofs.Clock.Operation
import ParticleTimeline.Proofs.Number.Amount
/-!
# Rounds on doubles

Over doubles a round is off by its last bit. So the rounds that are needed are
not quite as many as the period goes into the time, and where the period is too
small for a round to change anything they never end. This bounds them from both
sides: a time below so many periods, less a little, is brought below the period
by as many rounds (`Clock.overflown_wrap_of_lt`), and one of so many periods,
and a little more, is not (`Clock.overflown_wrap_of_le`). In any case the rounds
lead to an amount, and to one below the period if they could be counted
(`Clock.amount_round`, `Clock.wrap_lt`).

A first round that changes nothing is looked for before any is made. That does
not decide whether the rounds can be counted (`Clock.overflown_settle_iff`).
-/

namespace ParticleTimeline

namespace Clock

open Binary
open Float.Model

/-! ## Counting -/

section Counting

variable {α : Type} [Scalar α] {period time : α}

/-- **Rounds can be counted** if one of those that are left is not needed. -/
theorem overflown_wrap_iff (wraps left : Nat) :
    (wrap period time wraps left).overflown = false ↔
      ∃ n < left, Scalar.le period ((· - period)^[n] time) = false := by
  induction left generalizing time wraps with
  | zero => exact ⟨nofun, fun ⟨n, hn, _⟩ => absurd hn (Nat.not_lt_zero n)⟩
  | succ left ih =>
    rw [wrap]
    split
    · rename_i hround
      rw [ih]
      constructor
      · rintro ⟨n, hn, hbelow⟩
        exact ⟨n + 1, Nat.succ_lt_succ hn, hbelow⟩
      · rintro ⟨n, hn, hbelow⟩
        cases n with
        | zero => exact absurd (hround.symm.trans hbelow) Bool.noConfusion
        | succ n => exact ⟨n, Nat.lt_of_succ_lt_succ hn, hbelow⟩
    · rename_i hround
      exact ⟨fun _ => ⟨0, Nat.zero_lt_succ left, Bool.eq_false_iff.2 hround⟩, fun _ => rfl⟩

/-- If the first round changes nothing, none does. -/
theorem iterate_round (h : time - period = time) (n : Nat) : (· - period)^[n] time = time :=
  Function.iterate_fixed h n

/-- What every round keeps the rounds keep. -/
theorem wrap_keeps {P : α → Prop}
    (hround : ∀ y, P y → Scalar.le period y = true → P (y - period)) (h : P time)
    (wraps left : Nat) : P (wrap period time wraps left).time := by
  induction left generalizing time wraps with
  | zero => exact h
  | succ left ih =>
    rw [wrap]
    split
    · rename_i hle
      exact ih (hround time h hle) _
    · exact h

theorem settle_keeps {P : α → Prop}
    (hround : ∀ y, P y → Scalar.le period y = true → P (y - period)) (h : P time) :
    P (settle period time).time := by
  rw [settle]
  split
  · exact h
  · exact wrap_keeps hround h _ _

/-- Rounds that could be counted were all made. -/
theorem settle_eq_wrap (h : (settle period time).overflown = false) :
    settle period time = wrap period time 0 UInt32.size := by
  rw [settle] at h ⊢
  split at h
  · cases h
  · rename_i hmoves
    rw [if_neg hmoves]

end Counting

variable {period x : Float}

theorem below_iff : Scalar.le period x = false ↔ ¬ period ≤ x := decide_eq_false_iff_not

/-! ## Positions -/

section Amounts

variable (hperiod : Amount period)

include hperiod

/-- A round is made for an amount that is not below the period. -/
theorem round_iff (hx : x.isFinite = true) :
    Scalar.le period x = true ↔ exact period ≤ exact x :=
  decide_eq_true_iff.trans (le_iff_exact hperiod.finite hx)

/-- A period is not above zero if it is not a positive one. -/
theorem le_zero_iff : Scalar.le period Scalar.zero = true ↔ ¬ 0 < period := by
  rw [round_iff hperiod is_zero.finite, is_zero.exact_eq, zero_lt_iff hperiod.finite, not_lt]

/-- A round leads from an amount to an amount. -/
theorem amount_round (hx : Amount x) (h : Scalar.le period x = true) : Amount (x - period) :=
  amount_sub hx hperiod ((round_iff hperiod hx.finite).1 h)

/-- Rounds that could be counted lead below the period. -/
theorem wrap_lt (hx : Amount x) {wraps left : Nat}
    (h : (wrap period x wraps left).overflown = false) :
    exact (wrap period x wraps left).time < exact period := by
  induction left generalizing x wraps with
  | zero => cases h
  | succ left ih =>
    rw [wrap] at h ⊢
    split at h
    · rename_i hround
      rw [if_pos hround]
      exact ih (amount_round hperiod hx hround) h
    · rename_i hround
      rw [if_neg hround]
      exact not_le.1 fun hle => hround ((round_iff hperiod hx.finite).2 hle)

/-! ## How many rounds -/

/-- **From below**: a time below so many periods, less a bit for each of them,
needs no more rounds. -/
theorem overflown_wrap_of_lt (hpos : 0 < exact period) (hx : Amount x) {k left wraps : Nat}
    (hk : k < left) (h : exact x < (k + 1) * (1 - k / 2 ^ 53) * exact period) :
    (wrap period x wraps left).overflown = false := by
  induction k generalizing x wraps left with
  | zero =>
    obtain ⟨left, rfl⟩ := Nat.exists_eq_succ_of_ne_zero hk.ne'
    have hbelow : ¬ Scalar.le period x = true := by
      rw [round_iff hperiod hx.finite]
      simpa using h
    rw [wrap, if_neg hbelow]
  | succ k ih =>
    obtain ⟨left, rfl⟩ := Nat.exists_eq_succ_of_ne_zero (Nat.ne_zero_of_lt hk)
    rw [wrap]
    split
    · rename_i hround
      have hle := (round_iff hperiod hx.finite).1 hround
      have hsub := (abs_le.1 (abs_exact_sub_le hx hperiod hle)).2
      -- A round leaves a bit of itself too much, which one period less makes up for.
      refine ih (amount_round hperiod hx hround) (Nat.lt_of_succ_lt_succ hk) ?_
      push_cast at h
      generalize exact (x - period) = d at *
      have hless : exact x - exact period < (k + 1) * (1 - (k + 2) / 2 ^ 53) * exact period := by
        linear_combination h
      have hslack : 0 ≤ ((k : ℚ) + 1) * exact period * (1 / 2 ^ 53 + (k + 2) / (2 ^ 53) ^ 2) := by
        positivity
      calc d ≤ (exact x - exact period) * (1 + 1 / 2 ^ 53) := by linear_combination hsub
        _ < (k + 1) * (1 - (k + 2) / 2 ^ 53) * exact period * (1 + 1 / 2 ^ 53) :=
          mul_lt_mul_of_pos_right hless (by positivity)
        _ ≤ (k + 1) * (1 - k / 2 ^ 53) * exact period := by linear_combination hslack
    · rfl

/-- **From above**: a time of so many periods, and a bit more for each of them,
needs them all. -/
theorem overflown_wrap_of_le (hpos : 0 < exact period) (hx : Amount x) {left wraps : Nat}
    (hleft : left ≤ 2 ^ 53) (h : left * (1 + left / 2 ^ 53) * exact period ≤ exact x) :
    (wrap period x wraps left).overflown = true := by
  induction left generalizing x wraps with
  | zero => rfl
  | succ left ih =>
    push_cast at h
    have hle : exact period ≤ exact x := by
      have hmore : 0 ≤ ((left : ℚ) + ((left : ℚ) + 1) ^ 2 / 2 ^ 53) * exact period := by
        positivity
      linear_combination h + hmore
    have hsub := (abs_le.1 (abs_exact_sub_le hx hperiod hle)).1
    -- What a round leaves too little is made up for while there are no more
    -- rounds than bits can tell apart.
    have hsmall : ((left : ℚ) + 1) / 2 ^ 53 ≤ 1 := by
      rw [div_le_one (by positivity)]
      exact_mod_cast hleft
    have hslack : 0 ≤ ((left : ℚ) + 1) / 2 ^ 53 * (1 - ((left : ℚ) + 1) / 2 ^ 53) * exact period :=
      mul_nonneg (mul_nonneg (by positivity) (sub_nonneg.2 hsmall)) hpos.le
    rw [wrap, if_pos ((round_iff hperiod hx.finite).2 hle)]
    refine ih (amount_sub hx hperiod hle) (Nat.le_of_succ_le hleft) ?_
    generalize exact (x - period) = d at *
    calc left * (1 + left / 2 ^ 53) * exact period
        ≤ (exact x - exact period) * (1 - 1 / 2 ^ 53) := by
          linear_combination (1 - 1 / 2 ^ 53) * h + hslack
      _ ≤ d := by linear_combination hsub

/-! ## A round that changes nothing -/

theorem overflown_settle_infinity (hx : ofDouble x = .infinity .positive) :
    (settle period x).overflown = true := by
  have hround : Scalar.le period x = true := decide_eq_true (le_infinity hx hperiod.finite)
  have hself : Scalar.le x x = true := decide_eq_true (Scalar.le_iff_unpack.2 (by
    change UnpackedFloat.le (ofDouble x) (ofDouble x) = true
    rw [hx]
    rfl))
  rw [settle, if_pos]
  simp only [Scalar.same, hround, sub_of_infinity hx hperiod.finite, hself, Bool.and_self]

variable (hpos : 0 < period)

include hpos

/-- **No round changes anything after one that did not**, so those that can be
counted are the same whether it is looked for or not. -/
theorem overflown_settle_iff : (settle period x).overflown = false ↔
    ∃ n < UInt32.size, ¬ period ≤ (· - period)^[n] x := by
  simp only [← below_iff]
  rw [settle]
  split
  · rename_i hstuck
    simp only [Bool.and_eq_true, Scalar.same] at hstuck
    obtain ⟨hround, -, hsame⟩ := hstuck
    have hle : period ≤ x := of_decide_eq_true hround
    -- Being equal in value is being the same here, as the time is not a zero.
    have hfixed : x - period = x :=
      sub_eq_self (Scalar.zero_le_trans hperiod.zero_le hle) hperiod hpos hle
        (of_decide_eq_true hsame)
    constructor
    · intro h
      cases h
    · rintro ⟨n, -, hbelow⟩
      rw [iterate_round hfixed] at hbelow
      exact absurd (hround.symm.trans hbelow) Bool.noConfusion
  · exact overflown_wrap_iff 0 UInt32.size

end Amounts

end Clock

end ParticleTimeline
