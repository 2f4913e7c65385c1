import ParticleTimeline.Proofs.Number.Exact
import ParticleTimeline.Proofs.Number.Sign
/-!
# Doubles that measure an amount

An amount is a finite double that is not below zero (`Binary.Amount`). The
difference of two amounts, the larger one first, is an amount, and no further
from the exact one than in the last bit (`Binary.abs_exact_sub_le`). A
difference that is the larger amount again is that very double
(`Binary.sub_eq_self`).

The smallest remainder that is not negative of any finite double, by an amount,
is an amount (`Binary.amount_remEuclid`). It is below the divisor unless the
double is below zero by so little that taking it from the divisor rounds to the
divisor (`Binary.RoundsUp`).
-/

namespace ParticleTimeline

namespace Binary

open Float.Model

/-- A finite double that is not below zero. -/
structure Amount (x : Float) : Prop where
  finite : x.isFinite = true
  nonneg : 0 ≤ exact x

variable {x y : Float}

theorem exact_zero : exact 0 = 0 := is_zero.exact_eq

theorem amount_zero : Amount 0 := ⟨is_zero.finite, is_zero.exact_eq.ge⟩

theorem zero_le_iff (h : x.isFinite = true) : 0 ≤ x ↔ 0 ≤ exact x := by
  rw [le_iff_exact amount_zero.finite h, exact_zero]

theorem zero_lt_iff (h : x.isFinite = true) : 0 < x ↔ 0 < exact x := by
  rw [lt_iff_exact amount_zero.finite h, exact_zero]

theorem amount_iff : Amount x ↔ x.isFinite = true ∧ 0 ≤ x :=
  ⟨fun h => ⟨h.finite, (zero_le_iff h.finite).2 h.nonneg⟩,
    fun h => ⟨h.1, (zero_le_iff h.1).1 h.2⟩⟩

theorem Amount.zero_le (h : Amount x) : 0 ≤ x := (amount_iff.1 h).2

theorem Is.amount {q : ℚ} (h : Is x q) (hq : 0 ≤ q) : Amount x := ⟨h.finite, h.exact_eq.symm ▸ hq⟩

/-- What is not below zero is an amount or an infinity. -/
theorem infinity_of_not_finite (h : 0 ≤ x) (hfinite : x.isFinite = false) :
    ofDouble x = .infinity .positive := by
  rcases notBelowZero_cases (Scalar.zero_le_iff_unpack.1 h) with heq | ⟨s, heq⟩ | ⟨m, e, hm, heq⟩
  · exact heq
  · rw [isFinite_double, ofDouble, heq] at hfinite
    cases hfinite
  · rw [isFinite_double, ofDouble, heq] at hfinite
    cases hfinite

/-! ## Differences -/

theorem representable_multiple (h : x.isFinite = true) :
    ∃ n : ℤ, exact x = n * (2 : ℚ) ^ Format.binary64.minExponent := by
  obtain ⟨n, hn⟩ := representable_exact h
  obtain ⟨n', hn'⟩ := exists_mul_zpow_of_le (minExponent_le_place .binary64 (exact x)) n
  exact ⟨n', hn.trans hn'⟩

section Difference

variable (hx : Amount x) (hy : Amount y) (h : exact y ≤ exact x)

include hx hy h

theorem rounded_difference_le : rounded .binary64 (exact x - exact y) ≤ exact x := by
  rcases (sub_nonneg.2 h).eq_or_lt with hzero | hpos
  · rw [← hzero, rounded_zero]
    exact hx.nonneg
  · exact rounded_le hpos (sub_le_self _ hy.nonneg) (representable_exact hx.finite)

theorem is_difference : Is (x - y) (rounded .binary64 (exact x - exact y)) := by
  refine is_sub hx.finite hy.finite hx.finite ?_
  rw [abs_of_nonneg (rounded_nonneg (sub_nonneg.2 h)), abs_of_nonneg hx.nonneg]
  exact rounded_difference_le hx hy h

theorem amount_sub : Amount (x - y) :=
  (is_difference hx hy h).amount (rounded_nonneg (sub_nonneg.2 h))

/-- **A difference is exact but for its last bit.** -/
theorem abs_exact_sub_le :
    |exact (x - y) - (exact x - exact y)| ≤ (exact x - exact y) / 2 ^ 53 := by
  rw [(is_difference hx hy h).exact_eq]
  rcases (sub_nonneg.2 h).eq_or_lt with hzero | hpos
  · rw [← hzero, rounded_zero, sub_zero, abs_zero, zero_div]
  · obtain ⟨n, hn⟩ := representable_multiple hx.finite
    obtain ⟨k, hk⟩ := representable_multiple hy.finite
    have hmultiple : exact x - exact y
        = ((n - k : ℤ) : ℚ) * (2 : ℚ) ^ Format.binary64.minExponent := by
      rw [hn, hk]
      push_cast
      ring
    have herror : |rounded .binary64 (exact x - exact y) - (exact x - exact y)|
        * 2 ^ Format.binary64.mantissaBits ≤ exact x - exact y :=
      abs_rounded_sub_le hpos ⟨n - k, hmultiple⟩
    have hbits : Format.binary64.mantissaBits = 53 := by decide
    rw [hbits] at herror
    rwa [le_div_iff₀ (by positivity)]

end Difference

/-! ## Equality -/

/-- A double is the packed form of its parts. -/
theorem packed_ofDouble (x : Float) : packed (ofDouble x) = x := by
  rw [← Float.toBits_inj, ← UInt64.toBitVec_inj]
  exact UnpackedFloat.pack_unpack_of_valid x.toModel.valid

/-- Doubles of the same value are the same, except for zeros. -/
theorem eq_of_exact (hx : x.isFinite = true) (hy : y.isFinite = true)
    (h : exact x = exact y) (hne : exact y ≠ 0) : x = y := by
  have hparts : ofDouble x = ofDouble y :=
    eq_of_value (valued_ofDouble hx).canonical (valued_ofDouble hy).canonical h
      (by rwa [← exact, h])
  rw [← packed_ofDouble x, hparts, packed_ofDouble]

theorem sub_of_infinity (hx : ofDouble x = .infinity .positive) (hy : y.isFinite = true) :
    x - y = x := by
  have hsub : UnpackedFloat.sub .binary64 (ofDouble x) (ofDouble y) = ofDouble x := by
    rw [isFinite_double] at hy
    rw [hx]
    cases hv : ofDouble y with
    | infinity s => rw [hv] at hy; cases hy
    | notANumber => rw [hv] at hy; cases hy
    | _ => rfl
  have hpacked : x - y = packed (UnpackedFloat.sub .binary64 (ofDouble x) (ofDouble y)) := rfl
  rw [hpacked, hsub, packed_ofDouble]

theorem le_infinity (hx : ofDouble x = .infinity .positive) (hy : y.isFinite = true) : y ≤ x := by
  rw [isFinite_double] at hy
  have hparts : UnpackedFloat.le (ofDouble y) (ofDouble x) = true := by
    rw [hx]
    cases hv : ofDouble y with
    | infinity s => rw [hv] at hy; cases hy
    | notANumber => rw [hv] at hy; cases hy
    | _ => rfl
  exact Scalar.le_iff_unpack.2 hparts

/-- **A difference that has the value of the larger double** is that double, and
so is one from an infinity. -/
theorem sub_eq_self (hx : 0 ≤ x) (hy : Amount y) (hpos : 0 < y) (hle : y ≤ x) (h : x ≤ x - y) :
    x - y = x := by
  cases hfinite : x.isFinite with
  | false => exact sub_of_infinity (infinity_of_not_finite hx hfinite) hy.finite
  | true =>
    have hamount : Amount x := amount_iff.2 ⟨hfinite, hx⟩
    have hexact := (le_iff_exact hy.finite hfinite).1 hle
    have hdifference := amount_sub hamount hy hexact
    have hleast := (le_iff_exact hfinite hdifference.finite).1 h
    have hpositive := (zero_lt_iff hy.finite).1 hpos
    -- The difference is not above the larger double, and it is not below it.
    refine eq_of_exact hdifference.finite hfinite (le_antisymm ?_ hleast) (by linarith)
    rw [(is_difference hamount hy hexact).exact_eq]
    exact rounded_difference_le hamount hy hexact

theorem sub_eq_self_of_small (hx : Amount x) (hy : Amount y) (hpos : 0 < exact y)
    (h : exact y * 2 ^ 55 ≤ exact x) : x - y = x := by
  have hle : exact y ≤ exact x := by linarith
  refine eq_of_exact (amount_sub hx hy hle).finite hx.finite ?_ (by linarith)
  rw [(is_difference hx hy hle).exact_eq]
  exact rounded_sub_of_small hpos h (representable_exact hx.finite)

/-! ## Remainders -/

/-- Whether a double is below zero by so little that taking what it leaves from
the divisor rounds to the divisor. -/
def RoundsUp (x y : Float) : Prop :=
  exact x < 0 ∧ 0 < leftOver (-exact x) (exact y) ∧
    rounded .binary64 (exact y - leftOver (-exact x) (exact y)) = exact y

theorem leftOver_of_lt {a b : ℚ} (ha : 0 ≤ a) (h : a < b) : leftOver a b = a := by
  have hb : 0 < b := ha.trans_lt h
  rw [leftOver, Int.fract_eq_self.2 ⟨div_nonneg ha hb.le, (div_lt_one hb).2 h⟩,
    div_mul_cancel₀ _ hb.ne']

/-- What is below zero by less than the last bit of the divisor rounds up to it. -/
theorem roundsUp_of_small (hy : y.isFinite = true) (hneg : exact x < 0)
    (h : -exact x * 2 ^ 55 ≤ exact y) : RoundsUp x y := by
  have hleft : leftOver (-exact x) (exact y) = -exact x :=
    leftOver_of_lt (by linarith) (by linarith)
  rw [RoundsUp, hleft]
  exact ⟨hneg, by linarith, rounded_sub_of_small (by linarith) h (representable_exact hy)⟩

section Remainder

variable (hx : x.isFinite = true) (hy : Amount y) (hpos : 0 < y)

include hx hy hpos

/-- **A remainder of doubles** is an amount up to the divisor, which it reaches
exactly by rounding up to it. -/
theorem amount_remEuclid : Amount (remEuclid x y) ∧ exact (remEuclid x y) ≤ exact y ∧
    (exact (remEuclid x y) = exact y ↔ RoundsUp x y) := by
  have hdivisor := (zero_lt_iff hy.finite).1 hpos
  rcases le_or_gt 0 (exact x) with hnonneg | hneg
  · have his := is_remEuclid_of_nonneg hx hy.finite hdivisor hnonneg
    have hlt := leftOver_lt (a := exact x) hdivisor
    refine ⟨his.amount (leftOver_nonneg hdivisor), his.exact_eq.trans_le hlt.le, ?_⟩
    rw [his.exact_eq]
    exact ⟨fun h => absurd h hlt.ne, fun h => absurd h.1 hnonneg.not_gt⟩
  · have his := is_remEuclid_of_neg hx hy.finite hdivisor hneg
    have hlt := leftOver_lt (a := -exact x) hdivisor
    have hleft := leftOver_nonneg (a := -exact x) hdivisor
    by_cases hzero : leftOver (-exact x) (exact y) = 0
    · rw [if_pos hzero] at his
      refine ⟨his.amount le_rfl, his.exact_eq.trans_le hdivisor.le, ?_⟩
      rw [his.exact_eq]
      exact ⟨fun h => absurd h hdivisor.ne, fun h => absurd hzero h.2.1.ne'⟩
    · rw [if_neg hzero] at his
      have hpositive : 0 < leftOver (-exact x) (exact y) := lt_of_le_of_ne hleft (Ne.symm hzero)
      refine ⟨his.amount (rounded_nonneg (by linarith)), his.exact_eq.trans_le ?_, ?_⟩
      · exact rounded_le (by linarith) (by linarith) (representable_exact hy.finite)
      · rw [his.exact_eq]
        exact ⟨fun h => ⟨hneg, hpositive, h⟩, fun h => h.2.2⟩

end Remainder

/-- There is no remainder of what is not finite. -/
theorem isNaN_remEuclid (hx : x.isFinite = false) : (remEuclid x y).isNaN = true := by
  have hparts : remainder (ofDouble x) (ofDouble y) = .notANumber := by
    rw [isFinite_double] at hx
    cases hu : ofDouble x with
    | infinity s => cases ofDouble y <;> rfl
    | notANumber => rfl
    | _ => rw [hu] at hx; cases hx
  have hnot : ¬ toDouble .notANumber < 0 := by decide +kernel
  rw [remEuclid, hparts]
  simp only [if_neg hnot]
  decide +kernel

end Binary

end ParticleTimeline
