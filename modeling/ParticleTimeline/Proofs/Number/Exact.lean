import ParticleTimeline.Proofs.Number.Order
import ParticleTimeline.Proofs.Number.Rounding
/-!
# Doubles by their values

A finite double has a value (`Binary.exact`), and finite doubles compare as
their values do (`Binary.le_iff_exact`). What a calculation rounds to is the
double of that value, as long as it is no larger than some double
(`Binary.is_packed`); so a sum and a difference of doubles are the sum and the
difference of their values, rounded (`Binary.is_add`, `Binary.is_sub`). A
remainder is exact (`Binary.is_toDouble_remainder`), and so is the smallest one
that is not negative, unless it was moved up by the divisor
(`Binary.is_remEuclid_of_nonneg`, `Binary.is_remEuclid_of_neg`).
-/

namespace ParticleTimeline

namespace Binary

open Float.Model
open Float.Model.UnpackedFloat (Sign)

/-- The value of a finite double. -/
def exact (x : Float) : ℚ := value (ofDouble x)

variable {x y z : Float} {u : Parts} {q : ℚ}

theorem valued_ofDouble (h : x.isFinite = true) : Valued .binary64 (ofDouble x) (exact x) where
  canonical := canonical_unpack _
  finite := h
  value_eq := rfl

theorem representable_exact (h : x.isFinite = true) : Representable .binary64 (exact x) :=
  (valued_ofDouble h).representable

/-- **Doubles compare as their values do.** -/
theorem le_iff_exact (hx : x.isFinite = true) (hy : y.isFinite = true) :
    x ≤ y ↔ exact x ≤ exact y := by
  rw [Scalar.le_iff_unpack]
  exact le_value (valued_ofDouble hx).canonical (valued_ofDouble hy).canonical hx hy

theorem lt_iff_exact (hx : x.isFinite = true) (hy : y.isFinite = true) :
    x < y ↔ exact x < exact y := by
  have hunpack : x < y ↔ UnpackedFloat.lt (ofDouble x) (ofDouble y) = true := by
    change (decide (x.toModel < y.toModel) = true) ↔ _
    rw [decide_eq_true_iff]
    rfl
  rw [hunpack]
  exact lt_value (valued_ofDouble hx).canonical (valued_ofDouble hy).canonical hx hy

/-! ## Rounding to a double -/

/-- The double that some parts are packed as. -/
def packed (u : Parts) : Float := .ofModel (.pack u)

/-- **What is no larger than a double** is one, if it is canonical. -/
theorem ofDouble_packed (hu : Valued .binary64 u q) (hy : y.isFinite = true)
    (hle : |q| ≤ |exact y|) : ofDouble (packed u) = u := by
  have hfits : Fits .binary64 (ofDouble y) := fits_unpack (by decide) _
  refine unpack_pack hu.canonical (hfits.of_le hu.canonical (valued_ofDouble hy).canonical ?_)
  rwa [hu.value_eq]

/-- A double that has a value. -/
structure Is (x : Float) (q : ℚ) : Prop where
  finite : x.isFinite = true
  exact_eq : exact x = q

theorem is_packed (hu : Valued .binary64 u q) (hy : y.isFinite = true) (hle : |q| ≤ |exact y|) :
    Is (packed u) q := by
  have hsame := ofDouble_packed hu hy hle
  refine ⟨?_, ?_⟩
  · rw [isFinite_double, hsame]
    exact hu.finite
  · rw [exact, hsame]
    exact hu.value_eq

/-- **A difference of doubles** is the double of the difference, rounded. -/
theorem is_sub (hx : x.isFinite = true) (hy : y.isFinite = true) (hz : z.isFinite = true)
    (hle : |rounded .binary64 (exact x - exact y)| ≤ |exact z|) :
    Is (x - y) (rounded .binary64 (exact x - exact y)) :=
  is_packed (valued_sub (valued_ofDouble hx) (valued_ofDouble hy)) hz hle

/-- **A sum of doubles** is the double of the sum, rounded. -/
theorem is_add (hx : x.isFinite = true) (hy : y.isFinite = true) (hz : z.isFinite = true)
    (hle : |rounded .binary64 (exact x + exact y)| ≤ |exact z|) :
    Is (x + y) (rounded .binary64 (exact x + exact y)) :=
  is_packed (valued_add (valued_ofDouble hx) (valued_ofDouble hy)) hz hle

/-- The parts of a number, rounded to a format. -/
def rounding (spec : Format) : Parts → Parts
  | .finite s m e _ => UnpackedFloat.round spec s m e
  | special => special

theorem toDouble_eq (u : Parts) : toDouble u = packed (rounding .binary64 u) := by
  cases u <;> rfl

theorem valued_rounding (spec : Format) (h : u.isFinite = true) :
    Valued spec (rounding spec u) (rounded spec (value u)) := by
  cases u with
  | infinity s => cases h
  | notANumber => cases h
  | zero s =>
    rw [value_zero, rounded_zero]
    exact ⟨trivial, rfl, rfl⟩
  | finite s m e hm => exact valued_round s hm e

/-! ## Remainders -/

/-- What is left of a number when another one is taken away as often as it can
be. -/
def leftOver (a b : ℚ) : ℚ := Int.fract (a / b) * b

section LeftOver

variable {a b : ℚ}

theorem leftOver_nonneg (h : 0 < b) : 0 ≤ leftOver a b := mul_nonneg (Int.fract_nonneg _) h.le

theorem leftOver_lt (h : 0 < b) : leftOver a b < b := by
  have hlt := mul_lt_mul_of_pos_right (Int.fract_lt_one (a / b)) h
  rwa [one_mul] at hlt

theorem leftOver_le (ha : 0 ≤ a) (h : 0 < b) : leftOver a b ≤ a := by
  have hle : Int.fract (a / b) ≤ a / b := by
    rw [Int.fract, sub_le_self_iff]
    exact_mod_cast Int.floor_nonneg.2 (div_nonneg ha h.le)
  calc leftOver a b ≤ a / b * b := mul_le_mul_of_nonneg_right hle h.le
    _ = a := div_mul_cancel₀ a h.ne'

end LeftOver

section Remainder

variable {spec : Format} {s t : Sign} {m n : ℕ} {e f : ℤ}

/-- A whole number at an exponent that is not above its own. -/
theorem shiftLeft_mul_zpow (m : ℕ) {e g : ℤ} (h : g ≤ e) :
    ((m <<< (e - g).toNat : ℕ) : ℚ) * 2 ^ g = m * (2 : ℚ) ^ e := by
  have hsum : e = ((e - g).toNat : ℤ) + g := by omega
  conv_rhs => rw [hsum, zpow_add₀ two_ne_zero, zpow_natCast]
  rw [Nat.shiftLeft_eq]
  push_cast
  ring

theorem abs_value {hm : 0 < m} : |value (.finite s m e hm)| = m * (2 : ℚ) ^ e := by
  rw [value, abs_mul, abs_apply, abs_of_pos (two_zpow_pos e)]

/-- A remainder is a whole number at the lower one of the exponents. -/
theorem value_remainder_finite (s t : Sign) (e f : ℤ) (hm : 0 < m) (hn : 0 < n) :
    ∃ r : ℕ, value (remainder (.finite s m e hm) (.finite t n f hn))
        = (s.apply r : ℤ) * (2 : ℚ) ^ min e f ∧
      (r : ℚ) * 2 ^ min e f = leftOver (m * (2 : ℚ) ^ e) (n * (2 : ℚ) ^ f) := by
  have hpos : 0 < n <<< (f - min e f).toNat := by
    rw [Nat.shiftLeft_eq]
    positivity
  refine ⟨m <<< (e - min e f).toNat % n <<< (f - min e f).toNat, ?_, ?_⟩
  · rw [remainder]
    split
    · rfl
    · rename_i hzero
      rw [Nat.eq_zero_of_not_pos hzero]
      cases s <;> simp [Sign.apply]
  · have hne : ((n <<< (f - min e f).toNat : ℕ) : ℚ) ≠ 0 := by exact_mod_cast hpos.ne'
    rw [← shiftLeft_mul_zpow m (min_le_left e f), ← shiftLeft_mul_zpow n (min_le_right e f),
      leftOver,
      mul_div_mul_right _ _ (two_zpow_pos _).ne', Int.fract_div_natCast_eq_div_natCast_mod,
      ← mul_assoc, div_mul_cancel₀ _ hne]

/-- A remainder has the sign of the dividend and the size of what is left. -/
structure Remains (x y r : ℚ) : Prop where
  size : |r| = leftOver |x| |y|
  nonneg : 0 ≤ x → 0 ≤ r
  nonpos : x ≤ 0 → r ≤ 0

/-- **A remainder** of finite numbers is what is left, and can be represented. -/
theorem remains_remainder {u v : Parts} {x y : ℚ} (hu : Valued spec u x) (hv : Valued spec v y)
    (hy : y ≠ 0) : (remainder u v).isFinite = true ∧ Remains x y (value (remainder u v)) ∧
      Representable spec (value (remainder u v)) := by
  obtain ⟨hucanonical, hufinite, rfl⟩ := hu
  obtain ⟨hvcanonical, hvfinite, rfl⟩ := hv
  cases v with
  | infinity t => cases hvfinite
  | notANumber => cases hvfinite
  | zero t => exact absurd rfl hy
  | finite t n f hn =>
    cases u with
    | infinity s => cases hufinite
    | notANumber => cases hufinite
    | zero s =>
      refine ⟨rfl, ⟨?_, fun _ => le_refl _, fun _ => le_refl _⟩, 0, ?_⟩
      · simp [remainder, leftOver]
      · simp [remainder]
    | finite s m e hm =>
      obtain ⟨r, hr, hleft⟩ := value_remainder_finite s t e f hm hn
      have hsize : |value (remainder (.finite s m e hm) (.finite t n f hn))|
          = leftOver |value (.finite s m e hm)| |value (.finite t n f hn)| := by
        rw [hr, abs_mul, abs_apply, abs_of_pos (two_zpow_pos _), hleft, abs_value, abs_value]
      have hsign : 0 ≤ (r : ℚ) * 2 ^ min e f := mul_nonneg (Nat.cast_nonneg r) (two_zpow_pos _).le
      refine ⟨?_, ⟨hsize, fun hnonneg => ?_, fun hnonpos => ?_⟩, ?_⟩
      · rw [remainder]
        split <;> rfl
      · rw [hr, value_pos_iff.1 (lt_of_le_of_ne hnonneg value_ne_zero.symm)]
        simpa [Sign.apply] using hsign
      · -- A finite number is not zero, so its sign says on which side of zero it lies.
        have hs : s = .negative := by
          cases s with
          | negative => rfl
          | positive => exact absurd (value_pos_iff.2 rfl) hnonpos.not_gt
        rw [hr, hs]
        simpa [Sign.apply] using hsign
      · by_cases hzero : value (remainder (.finite s m e hm) (.finite t n f hn)) = 0
        · exact ⟨0, by rw [hzero, Int.cast_zero, zero_mul]⟩
        -- The last place is below both exponents, as the size is below both numbers.
        · have hdivisor : 0 < |value (.finite t n f hn)| := abs_pos.2 value_ne_zero
          have hfirst := place_mono spec hzero
            (hsize.trans_le (leftOver_le (abs_nonneg _) hdivisor))
          have hsecond := place_mono spec hzero (hsize.trans_le (leftOver_lt hdivisor).le)
          rw [place_value hucanonical] at hfirst
          rw [place_value hvcanonical] at hsecond
          obtain ⟨k, hk⟩ := exists_mul_zpow_of_le (le_min hfirst hsecond) (s.apply r)
          exact ⟨k, hr.trans hk⟩

end Remainder

theorem is_toDouble_remainder (hx : x.isFinite = true) (hy : y.isFinite = true)
    (hzero : exact y ≠ 0) :
    ∃ r, Is (toDouble (remainder (ofDouble x) (ofDouble y))) r ∧ Remains (exact x) (exact y) r := by
  obtain ⟨hfinite, hremains, hrepresentable⟩ :=
    remains_remainder (valued_ofDouble hx) (valued_ofDouble hy) hzero
  have hvalued := valued_rounding .binary64 hfinite
  rw [rounded_of_representable hrepresentable] at hvalued
  refine ⟨_, ?_, hremains⟩
  rw [toDouble_eq]
  refine is_packed hvalued hy ?_
  rw [hremains.size]
  exact (leftOver_lt (abs_pos.2 hzero)).le

theorem is_zero : Is Scalar.zero 0 := by
  have hparts : ofDouble (Scalar.zero : Float) = .zero .positive := rfl
  refine ⟨rfl, ?_⟩
  rw [exact, hparts, value_zero]

theorem Is.lt_zero_iff (h : Is x q) : x < 0 ↔ q < 0 := by
  rw [← h.exact_eq, ← is_zero.exact_eq]
  exact lt_iff_exact h.finite is_zero.finite

theorem is_abs (hx : x.isFinite = true) : Is x.abs |exact x| := by
  have hvalued : Valued .binary64 (ofDouble x).abs |exact x| := by
    obtain ⟨hcanonical, hfinite, hvalue⟩ := valued_ofDouble hx
    rw [← hvalue]
    generalize ofDouble x = u at *
    cases u with
    | infinity s => cases hfinite
    | notANumber => cases hfinite
    | zero s => exact ⟨trivial, rfl, by simp [UnpackedFloat.abs]⟩
    | finite s m e hm =>
      exact ⟨hcanonical, rfl, by rw [abs_value, UnpackedFloat.abs, value_positive]⟩
  exact is_packed hvalued hx (abs_abs _).le

/-! ## Remainders that are not negative -/

/-- The smallest remainder of a double that is not negative is exact. -/
theorem is_remEuclid_of_nonneg (hx : x.isFinite = true) (hy : y.isFinite = true)
    (hpos : 0 < exact y) (hnonneg : 0 ≤ exact x) :
    Is (remEuclid x y) (leftOver (exact x) (exact y)) := by
  obtain ⟨r, hr, hremains⟩ := is_toDouble_remainder hx hy hpos.ne'
  have hsize := hremains.size
  rw [abs_of_nonneg (hremains.nonneg hnonneg), abs_of_nonneg hnonneg, abs_of_pos hpos] at hsize
  have hnot : ¬ toDouble (remainder (ofDouble x) (ofDouble y)) < 0 := by
    rw [hr.lt_zero_iff]
    exact (hremains.nonneg hnonneg).not_gt
  rw [remEuclid]
  simp only [if_neg hnot]
  rwa [← hsize]

/-- **The smallest remainder of a negative double** is what its size leaves, taken
from the divisor and rounded. -/
theorem is_remEuclid_of_neg (hx : x.isFinite = true) (hy : y.isFinite = true) (hpos : 0 < exact y)
    (hneg : exact x < 0) :
    Is (remEuclid x y) (if leftOver (-exact x) (exact y) = 0 then 0
      else rounded .binary64 (exact y - leftOver (-exact x) (exact y))) := by
  obtain ⟨r, hr, hremains⟩ := is_toDouble_remainder hx hy hpos.ne'
  have hsize := hremains.size
  rw [abs_of_nonpos (hremains.nonpos hneg.le), abs_of_neg hneg, abs_of_pos hpos] at hsize
  rw [← hsize, remEuclid]
  by_cases hzero : r = 0
  · have hnot : ¬ toDouble (remainder (ofDouble x) (ofDouble y)) < 0 := by
      rw [hr.lt_zero_iff, hzero]
      exact lt_irrefl 0
    simp only [if_neg hnot, hzero, neg_zero, if_true]
    rwa [hzero] at hr
  · have hbelow : r < 0 := lt_of_le_of_ne (hremains.nonpos hneg.le) hzero
    have hless : 0 < exact y + r := by
      have hlt := leftOver_lt (a := -exact x) hpos
      linarith
    have hbound : |rounded .binary64 (exact y + r)| ≤ |exact y| := by
      rw [abs_of_nonneg (rounded_nonneg hless.le), abs_of_pos hpos]
      exact rounded_le hless (by linarith) (representable_exact hy)
    have habs := is_abs hy
    rw [abs_of_pos hpos] at habs
    have hsum := is_add hr.finite habs.finite hy
    rw [hr.exact_eq, habs.exact_eq, add_comm r] at hsum
    rw [if_neg (neg_ne_zero.2 hzero), sub_neg_eq_add]
    simp only [if_pos (hr.lt_zero_iff.2 hbelow)]
    exact hsum hbound

end Binary

end ParticleTimeline
