import ParticleTimeline.Proofs.Number.Quotient
/-!
# The limit of a format

A format has room for what is below a power of two (`Binary.fits_iff`), and
rounds to that power what is not further from it than half of the last place
(`Binary.rounded_lt_limit_iff`). For doubles that makes 2 ^ 1024 - 2 ^ 970: the
difference of two is an amount below it (`Binary.amount_sub_of_lt`) and infinite
from there on (`Binary.sub_of_le`).

Whole numbers are far below: every word is a double (`Binary.is_toFloat`), and
as many as the bits of a single allow are singles (`Binary.valued_natural`).
-/

namespace ParticleTimeline

namespace Binary

open Float.Model

variable {spec : Format} {u : Parts} {x q : ℚ} {n : ℕ}

/-- The exponent of the least power of two that a format has no room for. -/
def limit (spec : Format) : ℤ := 2 ^ (spec.exponentBits - 1)

theorem exponentBias_eq (spec : Format) : (spec.exponentBias : ℤ) = limit spec - 1 := by
  rw [Format.exponentBias, limit]
  push_cast [Nat.one_le_two_pow]
  rfl

section Limit

variable (hbits : 2 ≤ spec.exponentBits)

include hbits

theorem two_le_limit : 2 ≤ limit spec := by
  rw [limit]
  exact le_self_pow₀ one_le_two (by omega)

/-- **What fits into a format** is below the limit. -/
theorem fits_iff (hu : Canonical spec u) (hfinite : u.isFinite = true) :
    Fits spec u ↔ |value u| < 2 ^ limit spec := by
  cases u with
  | infinity s => cases hfinite
  | notANumber => cases hfinite
  | zero s =>
    rw [value_zero, abs_zero]
    exact iff_of_true trivial (two_zpow_pos _)
  | finite s m e hm =>
    have hpos : (0 : ℚ) < m * 2 ^ e := mul_pos (by exact_mod_cast hm) (two_zpow_pos e)
    have hleast := minExponent_eq spec
    have hbias := exponentBias_eq spec
    have hlimit := two_le_limit hbits
    have hdouble : (2 : ℤ) ^ spec.exponentBits = 2 * limit spec := by
      rw [limit, ← pow_succ', Nat.sub_add_cancel (by omega)]
    have hlog : |value (.finite s m e hm)| < 2 ^ limit spec ↔ m.log2 + e < limit spec := by
      rw [abs_value, ← log_mul_zpow hm e, ← Int.lt_zpow_iff_log_lt one_lt_two hpos,
        Nat.cast_ofNat]
    rw [hlog, Fits, hbias, hdouble]
    simp only [Canonical, Format.targetExponent, totalExponent, Format.mantissaBits] at hu
    omega

/-- **What is below the limit** survives being packed. -/
theorem unpack_pack_of_lt (hu : Valued spec u q) (h : |q| < 2 ^ limit spec) :
    UnpackedFloat.unpack spec (UnpackedFloat.pack spec u) = u :=
  unpack_pack hu.canonical ((fits_iff hbits hu.canonical hu.finite).2 (hu.value_eq.symm ▸ h))

/-- **What reaches the limit** is packed as an infinity. -/
theorem unpack_pack_of_le (hu : Valued spec u q) (h : 2 ^ limit spec ≤ q) :
    UnpackedFloat.unpack spec (UnpackedFloat.pack spec u) = .infinity .positive := by
  have hpos : 0 < q := (two_zpow_pos _).trans_le h
  obtain ⟨hcanonical, hfinite, rfl⟩ := hu
  have hnot : ¬ Fits spec u := by
    rw [fits_iff hbits hcanonical hfinite, abs_of_pos hpos, not_lt]
    exact h
  cases u with
  | infinity s => cases hfinite
  | notANumber => cases hfinite
  | zero s => exact absurd trivial hnot
  | finite s m e hm =>
    rw [value_pos_iff.1 hpos] at hnot ⊢
    exact unpack_pack_of_not_fits hnot

end Limit

/-- **A whole number that the bits of a format allow** is kept as it is. -/
theorem valued_normalize_natCast (h : n ≤ 2 ^ spec.mantissaBits) :
    Valued spec (UnpackedFloat.normalize spec n 0 .positive) n := by
  have hvalued := @valued_normalize spec n 0 .positive
  rwa [zpow_zero, mul_one, Int.cast_natCast,
    rounded_of_representable (representable_natCast h)] at hvalued

/-! ## Rounding to the limit -/

section Rounding

variable {t : ℤ} (hx : 0 < x)

include hx

/-- What has an earlier last place is not even half as large as the power. -/
theorem rounded_lt_of_place_lt (hplace : place spec x < t) :
    rounded spec x < 2 ^ spec.mantissaBits * 2 ^ t ∧
      x < 2 ^ spec.mantissaBits * 2 ^ t - 2 ^ t / 2 := by
  have hpos := two_zpow_pos t
  have hmany : (2 : ℚ) ≤ 2 ^ spec.mantissaBits := by
    rw [Format.mantissaBits, pow_add, pow_one]
    exact le_mul_of_one_le_right two_pos.le (one_le_pow₀ one_le_two)
  have hpower : (2 : ℚ) ^ place spec x ≤ 2 ^ t / 2 := by
    rw [div_eq_mul_inv, ← zpow_sub_one₀ two_ne_zero]
    exact zpow_le_zpow_right₀ one_le_two (by omega)
  have hhalf : (2 : ℚ) ^ spec.mantissaBits * 2 ^ place spec x
      ≤ 2 ^ spec.mantissaBits * (2 ^ t / 2) := by gcongr
  have hroom : 2 * (2 : ℚ) ^ t ≤ 2 ^ spec.mantissaBits * 2 ^ t := by gcongr
  have hrounded : rounded spec x ≤ 2 ^ spec.mantissaBits * 2 ^ place spec x :=
    mul_le_mul_of_nonneg_right (by exact_mod_cast nearest_place_le spec hx) (two_zpow_pos _).le
  constructor <;> linarith [lt_mul_place spec hx]

/-- The power is an even number of last places, so what is just in the middle is
rounded to it. -/
theorem rounded_lt_iff_of_place (hplace : place spec x = t) :
    rounded spec x < 2 ^ spec.mantissaBits * 2 ^ t ↔
      x < 2 ^ spec.mantissaBits * 2 ^ t - 2 ^ t / 2 := by
  have hpos := two_zpow_pos t
  have heven : Even (2 ^ spec.mantissaBits : ℤ) := by
    rw [Format.mantissaBits, pow_add, pow_one]
    exact even_two_mul _
  have hle : x / (2 : ℚ) ^ t ≤ ((2 ^ spec.mantissaBits : ℤ) : ℚ) := by
    rw [div_le_iff₀ hpos, ← hplace]
    push_cast
    exact (lt_mul_place spec hx).le
  have hnearest := nearest_lt_iff_of_even hle heven
  have hscaled : x < 2 ^ spec.mantissaBits * 2 ^ t - 2 ^ t / 2 ↔
      x / (2 : ℚ) ^ t < 2 ^ spec.mantissaBits - 1 / 2 := by
    rw [div_lt_iff₀ hpos, sub_mul, one_div, inv_mul_eq_div]
  push_cast at hnearest
  rw [hscaled, ← hnearest, rounded, hplace, mul_lt_mul_iff_left₀ hpos]
  exact_mod_cast Iff.rfl

/-- What has a later last place reaches the power. -/
theorem le_rounded_of_lt_place (hleast : spec.minExponent ≤ t) (hplace : t < place spec x) :
    2 ^ spec.mantissaBits * (2 : ℚ) ^ t ≤ rounded spec x ∧
      2 ^ spec.mantissaBits * (2 : ℚ) ^ t ≤ x := by
  have hpower : 2 ^ spec.mantissaBits * (2 : ℚ) ^ t
      = 2 ^ spec.mantissaBitsWithoutImplicit * 2 ^ (t + 1) := by
    rw [Format.mantissaBits, pow_add, zpow_add_one₀ two_ne_zero]
    ring
  have hlater : (2 : ℚ) ^ (t + 1) ≤ 2 ^ place spec x := zpow_le_zpow_right₀ one_le_two hplace
  constructor
  · rw [hpower]
    refine mul_le_mul ?_ hlater (two_zpow_pos _).le ?_
    · exact_mod_cast le_nearest_place spec hx (hleast.trans_lt hplace)
    · exact_mod_cast nearest_place_nonneg spec hx.le
  · have hlog : spec.mantissaBits + t ≤ Int.log 2 x := by
      rw [place, abs_of_pos hx, Format.targetExponent] at hplace
      omega
    rw [← Int.zpow_le_iff_le_log one_lt_two hx, Nat.cast_ofNat, zpow_add₀ two_ne_zero,
      zpow_natCast] at hlog
    exact hlog

/-- **A number is rounded to the limit** from half of the last place below it
on. -/
theorem rounded_lt_limit_iff (hbits : 2 ≤ spec.exponentBits) :
    rounded spec x < 2 ^ limit spec ↔
      x < 2 ^ limit spec - 2 ^ (limit spec - spec.mantissaBits - 1) := by
  obtain ⟨t, ht⟩ : ∃ t : ℤ, limit spec = spec.mantissaBits + t := ⟨_, (add_sub_cancel _ _).symm⟩
  have hlimit : (2 : ℚ) ^ limit spec = 2 ^ spec.mantissaBits * 2 ^ t := by
    rw [ht, zpow_add₀ two_ne_zero, zpow_natCast]
  have hhalf : (2 : ℚ) ^ (limit spec - spec.mantissaBits - 1) = 2 ^ t / 2 := by
    rw [ht, add_sub_cancel_left, zpow_sub_one₀ two_ne_zero, div_eq_mul_inv]
  rw [hlimit, hhalf]
  rcases lt_trichotomy (place spec x) t with hearlier | hsame | hlater
  · obtain ⟨hrounded, hless⟩ := rounded_lt_of_place_lt hx hearlier
    exact iff_of_true hrounded hless
  · exact rounded_lt_iff_of_place hx hsame
  · -- Numbers with a later last place are beyond the limit already.
    have hleast : spec.minExponent ≤ t := by
      have hmin := minExponent_eq spec
      have hbias := exponentBias_eq spec
      have htwo := two_le_limit hbits
      rw [Format.mantissaBits] at ht
      omega
    obtain ⟨hrounded, hmore⟩ := le_rounded_of_lt_place hx hleast hlater
    have hpos := two_zpow_pos t
    refine iff_of_false hrounded.not_gt ?_
    linarith

end Rounding

/-! ## Doubles -/

section Doubles

variable {a b : Float}

theorem limit_double : (2 : ℚ) ^ limit .binary64 = 2 ^ 1024 := by
  have hlimit : limit .binary64 = 1024 := by decide
  rw [hlimit]
  exact zpow_ofNat 2 1024

/-- Parts that are below the limit are those of the double. -/
theorem is_packed_of_lt (hu : Valued .binary64 u q) (h : |q| < 2 ^ 1024) : Is (packed u) q := by
  have hsame : ofDouble (packed u) = u :=
    unpack_pack_of_lt (by decide) hu (limit_double.symm ▸ h)
  refine ⟨?_, ?_⟩
  · rw [isFinite_double, hsame]
    exact hu.finite
  · rw [exact, hsame]
    exact hu.value_eq

/-- **Every word is a double.** -/
theorem is_toFloat (n : UInt32) : Is n.toFloat n.toNat := by
  have hword : n.toNat < 2 ^ 32 := n.toNat_lt
  have hwidth : Format.binary64.mantissaBits = 53 := by decide
  refine is_packed_of_lt (valued_normalize_natCast (by rw [hwidth]; omega)) ?_
  rw [abs_of_nonneg (Nat.cast_nonneg _)]
  exact_mod_cast hword.trans (Nat.pow_lt_pow_right (by decide) (by decide))

theorem rounded_sub_lt_iff (hle : exact b ≤ exact a) :
    rounded .binary64 (exact a - exact b) < 2 ^ 1024 ↔
      exact a - exact b < 2 ^ 1024 - 2 ^ 970 := by
  rcases (sub_nonneg.2 hle).eq_or_lt with hzero | hpos
  · rw [← hzero, rounded_zero]
    refine iff_of_true (by positivity) (sub_pos.2 ?_)
    exact pow_lt_pow_right₀ one_lt_two (by decide)
  · have hhalf : limit .binary64 - Format.binary64.mantissaBits - 1 = 970 := by decide
    have hiff := @rounded_lt_limit_iff .binary64 _ hpos (by decide)
    rw [limit_double, hhalf] at hiff
    exact_mod_cast hiff

section Difference

variable (ha : a.isFinite = true) (hb : b.isFinite = true)

include ha hb

/-- **A difference below the limit** is an amount. -/
theorem amount_sub_of_lt (hle : exact b ≤ exact a)
    (h : exact a - exact b < 2 ^ 1024 - 2 ^ 970) : Amount (a - b) := by
  have hnonneg := @rounded_nonneg .binary64 _ (sub_nonneg.2 hle)
  have hvalued := valued_sub (valued_ofDouble ha) (valued_ofDouble hb)
  refine (is_packed_of_lt hvalued ?_).amount hnonneg
  rw [abs_of_nonneg hnonneg]
  exact (rounded_sub_lt_iff hle).2 h

/-- **A difference that reaches the limit** is an infinity. -/
theorem sub_of_le (h : 2 ^ 1024 - 2 ^ 970 ≤ exact a - exact b) :
    ofDouble (a - b) = .infinity .positive := by
  have hpos : (0 : ℚ) < 2 ^ 1024 - 2 ^ 970 :=
    sub_pos.2 (pow_lt_pow_right₀ one_lt_two (by decide))
  have hle : exact b ≤ exact a := sub_nonneg.1 (hpos.le.trans h)
  have hvalued := valued_sub (valued_ofDouble ha) (valued_ofDouble hb)
  refine unpack_pack_of_le (by decide) hvalued ?_
  rw [limit_double]
  exact not_lt.1 fun hlt => ((rounded_sub_lt_iff hle).1 hlt).not_ge h

end Difference

end Doubles

/-! ## Singles -/

section Singles

theorem limit_single : (2 : ℚ) ^ limit .binary32 = 2 ^ 128 := by
  have hlimit : limit .binary32 = 128 := by decide
  rw [hlimit]
  exact zpow_ofNat 2 128

theorem valued_single_of_lt (hu : Valued .binary32 u q) (h : |q| < 2 ^ 128) :
    Valued .binary32 (ofSingle (.ofModel (.pack u))) q := by
  have hsame : ofSingle (.ofModel (.pack u)) = u :=
    unpack_pack_of_lt (by decide) hu (limit_single.symm ▸ h)
  rwa [hsame]

/-- A word of 64 bits that has no more bits than a single is one. -/
theorem valued_toFloat32 {w : UInt64} (h : w.toNat ≤ 2 ^ 24) :
    Valued .binary32 (ofSingle w.toFloat32) w.toNat := by
  have hwidth : Format.binary32.mantissaBits = 24 := by decide
  refine valued_single_of_lt (valued_normalize_natCast (by rwa [hwidth])) ?_
  rw [abs_of_nonneg (Nat.cast_nonneg _)]
  exact_mod_cast h.trans_lt (Nat.pow_lt_pow_right (by decide) (by decide))

theorem valued_single_mul {a b : Float32} {x y : ℚ} (ha : Valued .binary32 (ofSingle a) x)
    (hb : Valued .binary32 (ofSingle b) y) (h : |rounded .binary32 (x * y)| < 2 ^ 128) :
    Valued .binary32 (ofSingle (a * b)) (rounded .binary32 (x * y)) :=
  valued_single_of_lt (valued_mul ha hb) h

theorem valued_single_div {a b : Float32} {x y : ℚ} (ha : Valued .binary32 (ofSingle a) x)
    (hb : Valued .binary32 (ofSingle b) y) (hy : y ≠ 0)
    (h : |rounded .binary32 (x / y)| < 2 ^ 128) :
    Valued .binary32 (ofSingle (a / b)) (rounded .binary32 (x / y)) :=
  valued_single_of_lt (valued_div ha hb hy) h

theorem valued_one : Valued .binary32 (ofSingle (.ofBits 0x3F800000)) 1 := by
  have hone : Float32.ofBits 0x3F800000 = (1 : UInt64).toFloat32 :=
    Float32.toBits_inj.1 (by decide +kernel)
  rw [hone]
  exact_mod_cast valued_toFloat32 (w := 1) (by decide)

/-- A whole number that is read as a decimal. -/
theorem valued_ofScientific (hn : 0 < n) :
    Valued .binary32 (UnpackedFloat.ofScientific .binary32 n 0) (rounded .binary32 n) := by
  have hwidth : Format.binary32.mantissaBits = 24 := by decide
  have hpos : (0 : ℚ) < n := by exact_mod_cast hn
  have hplace : (-24 : ℤ) + 0 ≤ place .binary32 n := by
    have hlog : 0 ≤ Int.log 2 (n : ℚ) := by
      rw [Int.log_natCast]
      exact Int.natCast_nonneg _
    rw [place, abs_of_pos hpos, Format.targetExponent, hwidth]
    omega
  have hwhole : (((n <<< 24) * 10 ^ 0 : ℕ) : ℚ) = n / 2 ^ ((-24 : ℤ) + 0) := by
    rw [Nat.shiftLeft_eq, eq_div_iff (by positivity)]
    push_cast
    norm_num
    ring
  have hvalued := valued_roundWithAccuracy .positive hpos hplace
    (hwhole ▸ Approximates.exact ((n <<< 24) * 10 ^ 0))
  have hsign : ((UnpackedFloat.Sign.positive.apply 1 : ℤ) : ℚ) = 1 := by
    rw [UnpackedFloat.Sign.apply]
    exact Int.cast_one
  rw [hsign, one_mul] at hvalued
  have hsmall : ¬ (0 : ℤ) > 2 ^ Format.binary32.exponentBits := by decide
  have hlarge : ¬ (0 : ℤ) < -((2 ^ Format.binary32.exponentBits : ℤ) + n.log2) := by
    have hpower : (0 : ℤ) ≤ 2 ^ Format.binary32.exponentBits := by decide
    omega
  rw [UnpackedFloat.ofScientific, dif_neg hn.ne', if_neg hsmall, if_neg hlarge, if_pos le_rfl]
  exact hvalued

/-- **A whole number of as many bits as a single has** is a single. -/
theorem valued_natural (h : n ≤ 2 ^ 24) : Valued .binary32 (ofSingle (Scalar.natural n)) n := by
  have hwidth : Format.binary32.mantissaBits = 24 := by decide
  have hrounded : rounded .binary32 n = n :=
    rounded_of_representable (representable_natCast (by rwa [hwidth]))
  have hbound : |(n : ℚ)| < 2 ^ 128 := by
    rw [abs_of_nonneg (Nat.cast_nonneg _)]
    exact_mod_cast h.trans_lt (Nat.pow_lt_pow_right (by decide) (by decide))
  change Valued .binary32 (ofSingle (Float32.ofScientific n false 0)) n
  rw [Float32.ofScientific]
  split
  · have hword : n.toUInt64.toNat = n := by
      rw [Nat.toUInt64, UInt64.toNat_ofNat']
      omega
    have hvalued := valued_toFloat32 (w := n.toUInt64) (by rwa [hword])
    rw [hword] at hvalued
    have hproduct := valued_single_mul hvalued valued_one
    rw [mul_one, hrounded] at hproduct
    exact hproduct hbound
  · have hdecimal := valued_ofScientific (n := n) (by omega)
    rw [hrounded] at hdecimal
    exact valued_single_of_lt hdecimal hbound

end Singles

end Binary

end ParticleTimeline
