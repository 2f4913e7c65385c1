import ParticleTimeline.Proofs.Number.Value
/-!
# What rounding gives

Bits that are dropped from a number leave two behind, the round bit and the
sticky bit, and these tell enough of it to round it to the nearest
(`Binary.Approximates.roundedMantissa`). So the value of what is rounded is the
value, rounded, in canonical form (`Binary.valued_round`), and the same holds of
a sum and of a difference (`Binary.valued_add`, `Binary.valued_sub`).
-/

namespace ParticleTimeline

namespace Binary

open Float.Model
open Float.Model.UnpackedFloat (ExtendedMantissa Accuracy Sign)

variable {spec : Format} {s : Sign} {m : ℕ} {e : ℤ} {x : ℚ}

/-! ## Dropped bits -/

/-- The mantissa with its round bit, as a number. -/
def start (em : ExtendedMantissa) : ℚ := em.mantissa + bif em.roundBit then 1 / 2 else 0

/-- A mantissa with two bits of what was behind it stands for a number: the
sticky bit tells whether there was more than the round bit. -/
structure Approximates (em : ExtendedMantissa) (x : ℚ) : Prop where
  all : em.stickyBit = false → start em = x
  more : em.stickyBit = true → start em < x
  above : x < start em + 1 / 2

namespace Approximates

variable {em : ExtendedMantissa}

theorem start_le (h : Approximates em x) : start em ≤ x := by
  cases hsticky : em.stickyBit with
  | false => exact (h.all hsticky).le
  | true => exact (h.more hsticky).le

theorem exact (m : ℕ) : Approximates (.ofMantissaAndAccuracy m .exact) m where
  all _ := by simp [ExtendedMantissa.ofMantissaAndAccuracy, start]
  more h := by cases h
  above := by simp [ExtendedMantissa.ofMantissaAndAccuracy, start]

theorem start_shiftRightOne (em : ExtendedMantissa) :
    start em.shiftRightOne = (em.mantissa : ℚ) / 2 := by
  have hparts : ((2 * (em.mantissa / 2) + em.mantissa % 2 : ℕ) : ℚ) = em.mantissa := by
    rw [Nat.div_add_mod]
  push_cast at hparts
  rw [start, ExtendedMantissa.shiftRightOne]
  rcases Nat.mod_two_eq_zero_or_one em.mantissa with hbit | hbit
  · rw [hbit, bne_self_eq_false, cond_false]
    rw [hbit, Nat.cast_zero] at hparts
    linarith
  · rw [hbit, show (1 != 0) = true from rfl, cond_true]
    rw [hbit, Nat.cast_one] at hparts
    linarith

/-- One bit more is dropped. -/
theorem shiftRightOne (h : Approximates em x) : Approximates em.shiftRightOne (x / 2) := by
  obtain ⟨m, r, t⟩ := em
  have habove := h.above
  cases r <;> cases t
  case false.false =>
    have hall := h.all rfl
    refine ⟨fun _ => ?_, fun hsticky => Bool.noConfusion hsticky, ?_⟩ <;>
      rw [start_shiftRightOne] <;> simp only [start, cond_false] at hall habove <;> linarith
  case true.false =>
    have hall := h.all rfl
    refine ⟨fun hsticky => Bool.noConfusion hsticky, fun _ => ?_, ?_⟩ <;>
      rw [start_shiftRightOne] <;> simp only [start, cond_true] at hall habove <;> linarith
  all_goals
    have hmore := h.more rfl
    refine ⟨fun hsticky => Bool.noConfusion hsticky, fun _ => ?_, ?_⟩ <;>
      rw [start_shiftRightOne] <;> simp only [start, cond_true, cond_false] at hmore habove <;>
      linarith

theorem shiftRight (h : Approximates em x) (k : ℕ) : Approximates (em >>> k) (x / 2 ^ k) := by
  change Approximates (k.repeat ExtendedMantissa.shiftRightOne em) _
  induction k with
  | zero => simpa [Nat.repeat] using h
  | succ k ih =>
    rw [Nat.repeat, pow_succ, ← div_div]
    exact ih.shiftRightOne

/-- **The two bits are enough to round a number.** -/
theorem roundedMantissa (h : Approximates em x) : (em.roundedMantissa : ℤ) = nearest x := by
  obtain ⟨m, r, t⟩ := em
  have habove := h.above
  have hfloor : ⌊x⌋ = m := by
    have hlow := h.start_le
    rw [Int.floor_eq_iff, Int.cast_natCast]
    cases r <;> simp only [start, cond_true, cond_false] at hlow habove <;>
      constructor <;> linarith
  have hfract : Int.fract x = x - m := by
    rw [Int.fract, hfloor, Int.cast_natCast]
  rw [nearest, hfract, hfloor]
  cases r <;> cases t
  case false.false =>
    have hall := h.all rfl
    simp only [start, cond_false] at hall
    rw [if_pos (by linarith)]
    rfl
  case true.false =>
    have hall := h.all rfl
    simp only [start, cond_true] at hall
    rw [if_neg (by linarith), if_neg (by linarith)]
    rfl
  case false.true =>
    have hmore := h.more rfl
    simp only [start, cond_false] at hmore habove
    rw [if_pos (by linarith)]
    rfl
  case true.true =>
    have hmore := h.more rfl
    simp only [start, cond_true] at hmore
    rw [if_neg (by linarith), if_pos (by linarith)]
    rfl

end Approximates

/-! ## Rounding -/

theorem log2_shiftLeft (hm : 0 < m) (k : ℕ) : (m <<< k).log2 = m.log2 + k := by
  have hshift : m <<< k ≠ 0 := by simpa using hm.ne'
  refine le_antisymm (log2_shiftLeft_le m k) ((Nat.le_log2 hshift).2 ?_)
  rw [Nat.shiftLeft_eq, Nat.pow_add]
  exact Nat.mul_le_mul_right _ (Nat.log2_self_le hm.ne')

/-- A mantissa and an exponent, without the bit that is too many once rounding
has carried over. -/
def trimmed (spec : Format) (s : Sign) (r : ℕ) (t : ℤ) : Parts :=
  if h : r >>> dropped spec r t = 0 then .zero s
  else .finite s (r >>> dropped spec r t) (t + dropped spec r t) (Nat.pos_of_ne_zero h)

theorem roundWithAccuracy_eq_trimmed (s : Sign) (m : ℕ) (e : ℤ) (accuracy : Accuracy) :
    UnpackedFloat.roundWithAccuracy spec s m e accuracy
      = trimmed spec s (ExtendedMantissa.ofMantissaAndAccuracy m accuracy
          >>> dropped spec m e).roundedMantissa (e + dropped spec m e) := by
  rw [UnpackedFloat.roundWithAccuracy]
  simp only [shiftToTargetExponent_eq, mantissa_shiftRight, mantissa_ofMantissaAndAccuracy]
  rfl

/-- What a number in a format must be, to have a value. -/
structure Valued (spec : Format) (u : Parts) (x : ℚ) : Prop where
  canonical : Canonical spec u
  finite : u.isFinite = true
  value_eq : value u = x

/-- A mantissa with the exponent of a last place is of full width, or the place
is the least one; it is a power of two if it has carried over. -/
theorem valued_trimmed (s : Sign) {r : ℕ} {t : ℤ} (hkeep : r ≤ 2 ^ spec.mantissaBits)
    (hleast : spec.minExponent ≤ t) (hfull : spec.minExponent < t → 2 ^ spec.mantissaBits ≤ 2 * r) :
    Valued spec (trimmed spec s r t) ((s.apply r : ℤ) * (2 : ℚ) ^ t) := by
  have hwidth : spec.mantissaBits = spec.mantissaBitsWithoutImplicit + 1 := by
    rw [Format.mantissaBits, Nat.add_comm]
  rcases Nat.eq_zero_or_pos r with rfl | hr
  · -- Nothing is left of the number.
    have hzero : trimmed spec s 0 t = .zero s := by
      rw [trimmed, dif_pos (Nat.zero_shiftRight _)]
    rw [hzero]
    exact ⟨trivial, rfl, by cases s <;> simp [Sign.apply]⟩
  rcases hkeep.lt_or_eq with hlt | rfl
  · -- It fits as it is.
    have hbits : r.log2 < spec.mantissaBits := (Nat.log2_lt hr.ne').2 hlt
    have htarget : spec.targetExponent (totalExponent r t) = t := by
      rw [Format.targetExponent, totalExponent]
      rcases hleast.lt_or_eq with hmore | rfl
      · have hlow : spec.mantissaBitsWithoutImplicit ≤ r.log2 := by
          rw [Nat.le_log2 hr.ne']
          have hhalf := hfull hmore
          rw [hwidth, Nat.pow_succ] at hhalf
          omega
        omega
      · omega
    have hnone : dropped spec r t = 0 := by
      rw [dropped, htarget, sub_self, Int.toNat_zero]
    have hsame : trimmed spec s r t = .finite s r t hr := by
      simp only [trimmed, hnone, Nat.shiftRight_zero, dif_neg hr.ne', Nat.cast_zero, add_zero]
    rw [hsame]
    exact ⟨htarget, rfl, rfl⟩
  · -- It has come to be one bit too long, and the bit that goes is zero.
    have hone : dropped spec (2 ^ spec.mantissaBits) t = 1 := by
      rw [dropped, Format.targetExponent, totalExponent, Nat.log2_two_pow]
      omega
    have hhalf : 2 ^ spec.mantissaBits >>> 1 = 2 ^ spec.mantissaBitsWithoutImplicit := by
      rw [hwidth, Nat.shiftRight_one, Nat.pow_succ, Nat.mul_div_cancel _ two_pos]
    have hpos : 0 < 2 ^ spec.mantissaBitsWithoutImplicit := Nat.two_pow_pos _
    have hsame : trimmed spec s (2 ^ spec.mantissaBits) t
        = .finite s (2 ^ spec.mantissaBitsWithoutImplicit) (t + 1) hpos := by
      simp only [trimmed, hone, hhalf, dif_neg hpos.ne', Nat.cast_one]
    rw [hsame]
    refine ⟨?_, rfl, ?_⟩
    · rw [Canonical, Format.targetExponent, totalExponent, Nat.log2_two_pow]
      omega
    · rw [value, hwidth, zpow_add_one₀ two_ne_zero]
      cases s <;> simp [Sign.apply, pow_succ] <;> ring

/-- Rounding brings the exponent down to the last place first, and drops what is
left of it. -/
theorem round_eq_trimmed (s : Sign) (hm : 0 < m) {t : ℤ}
    (ht : place spec ((m : ℚ) * 2 ^ e) = t) :
    UnpackedFloat.round spec s m e
      = trimmed spec s (nearest ((m : ℚ) * 2 ^ e / 2 ^ t)).toNat t := by
  have hplace : spec.targetExponent (totalExponent m e) = t := (place_mul_zpow hm e).symm.trans ht
  set a : ℕ := (e - t).toNat with ha
  have htotal : totalExponent (m <<< a) (e - a) = totalExponent m e := by
    rw [totalExponent, totalExponent, log2_shiftLeft hm]
    push_cast
    ring
  have hdropped : dropped spec (m <<< a) (e - a) = (t - e).toNat := by
    rw [dropped, htotal, hplace]
    omega
  have hend : e - a + (t - e).toNat = t := by omega
  have hquotient : ((m <<< a : ℕ) : ℚ) / 2 ^ (t - e).toNat = (m : ℚ) * 2 ^ e / 2 ^ t := by
    have hsum : (a : ℤ) + t = e + (t - e).toNat := by omega
    rw [div_eq_div_iff (by positivity) (two_zpow_pos t).ne', Nat.shiftLeft_eq, mul_assoc,
      ← zpow_natCast _ (t - e).toNat, ← zpow_add₀ two_ne_zero, ← hsum, zpow_add₀ two_ne_zero,
      zpow_natCast]
    push_cast
    ring
  have happrox := ((Approximates.exact (m <<< a)).shiftRight (t - e).toNat).roundedMantissa
  rw [hquotient] at happrox
  rw [← happrox, Int.toNat_natCast, UnpackedFloat.round]
  simp only [UnpackedFloat.decreaseExponent, hplace]
  rw [← ha, roundWithAccuracy_eq_trimmed, hdropped, hend]

/-- **The nearest multiple of the last place** is finite, canonical, and has the
value, rounded. -/
theorem valued_nearest (s : Sign) (hx : 0 < x) :
    Valued spec (trimmed spec s (nearest (x / 2 ^ place spec x)).toNat (place spec x))
      ((s.apply 1 : ℤ) * rounded spec x) := by
  rw [rounded]
  have hfull := nearest_place_le spec hx
  have hhalf := le_nearest_place spec hx
  have hnonneg := nearest_place_nonneg spec hx.le
  obtain ⟨r, hr⟩ := Int.eq_ofNat_of_zero_le hnonneg
  rw [hr] at hfull hhalf ⊢
  have hvalue : ((s.apply 1 : ℤ) : ℚ) * (((r : ℤ) : ℚ) * 2 ^ place spec x)
      = ((s.apply r : ℤ) : ℚ) * 2 ^ place spec x := by
    cases s <;> simp [Sign.apply]
  rw [hvalue, Int.toNat_natCast]
  refine valued_trimmed s (by exact_mod_cast hfull) (minExponent_le_place spec x) fun hmore => ?_
  have hbit : 2 ^ spec.mantissaBitsWithoutImplicit ≤ r := by exact_mod_cast hhalf hmore
  rw [Format.mantissaBits, Nat.pow_add]
  omega

/-- **What is rounded** is finite, canonical, and has the value, rounded. -/
theorem valued_round (s : Sign) (hm : 0 < m) (e : ℤ) :
    Valued spec (UnpackedFloat.round spec s m e)
      (rounded spec ((s.apply m : ℤ) * (2 : ℚ) ^ e)) := by
  rw [round_eq_trimmed s hm rfl, rounded_apply]
  exact valued_nearest s (mul_pos (by exact_mod_cast hm) (two_zpow_pos e))

/-- **A sum in a format** is the sum, rounded. -/
theorem valued_normalize (n : ℤ) (e : ℤ) (zeroSign : Sign) :
    Valued spec (UnpackedFloat.normalize spec n e zeroSign) (rounded spec (n * (2 : ℚ) ^ e)) := by
  rw [UnpackedFloat.normalize]
  split
  · rename_i hnegative
    rw [Int.compare_eq_lt] at hnegative
    have hsize : ((Sign.negative.apply (-n).toNat : ℤ) : ℚ) = n := by
      rw [Sign.apply, Int.toNat_of_nonneg (by omega), neg_neg]
    rw [← hsize]
    exact valued_round _ (by omega) e
  · rename_i hzero
    rw [Int.compare_eq_eq] at hzero
    rw [hzero, Int.cast_zero, zero_mul, rounded_zero]
    exact ⟨trivial, rfl, rfl⟩
  · rename_i hpositive
    rw [Int.compare_eq_gt] at hpositive
    have hsize : ((Sign.positive.apply n.toNat : ℤ) : ℚ) = n := by
      rw [Sign.apply, Int.toNat_of_nonneg (by omega)]
    rw [← hsize]
    exact valued_round _ (by omega) e

/-! ## Sums and differences -/

theorem Valued.representable {u : Parts} (h : Valued spec u x) : Representable spec x :=
  h.value_eq ▸ representable_value h.canonical

/-- A canonical number is its value, rounded. -/
theorem Valued.self {u : Parts} (h : Valued spec u x) : Valued spec u (rounded spec x) := by
  rwa [rounded_of_representable h.representable]

theorem Valued.neg {u : Parts} (h : Valued spec u x) : Valued spec u.neg (-x) := by
  obtain ⟨hcanonical, hfinite, rfl⟩ := h
  cases u with
  | infinity s => cases hfinite
  | notANumber => cases hfinite
  | zero s => exact ⟨trivial, rfl, by simp [UnpackedFloat.neg]⟩
  | finite s m e hm =>
    refine ⟨hcanonical, rfl, ?_⟩
    cases s
    · exact value_positive.trans (by rw [value_negative, neg_neg])
    · exact value_negative.trans (by rw [value_positive])

/-- A mantissa at an exponent that is not above its own. -/
theorem apply_decreaseExponent (s : Sign) (m : ℕ) {e g : ℤ} (h : g ≤ e) :
    ((s.apply (UnpackedFloat.decreaseExponent m e g).1 : ℤ) : ℚ) * 2 ^ g
      = (s.apply m : ℤ) * (2 : ℚ) ^ e := by
  have hsum : e = ((e - g).toNat : ℤ) + g := by omega
  conv_rhs => rw [hsum, zpow_add₀ two_ne_zero, zpow_natCast]
  rw [UnpackedFloat.decreaseExponent]
  simp only [Nat.shiftLeft_eq]
  cases s <;> simp only [Sign.apply] <;> push_cast <;> ring

/-- **A difference** is the difference of the values, rounded. -/
theorem valued_sub {u v : Parts} {y : ℚ} (hu : Valued spec u x) (hv : Valued spec v y) :
    Valued spec (UnpackedFloat.sub spec u v) (rounded spec (x - y)) := by
  obtain ⟨-, hufinite, rfl⟩ := id hu
  obtain ⟨-, hvfinite, rfl⟩ := id hv
  cases u with
  | infinity s => cases hufinite
  | notANumber => cases hufinite
  | zero s =>
    cases v with
    | infinity t => cases hvfinite
    | notANumber => cases hvfinite
    | zero t =>
      rw [value_zero, value_zero, sub_zero, rounded_zero, UnpackedFloat.sub]
      split <;> exact ⟨trivial, rfl, rfl⟩
    | finite t n f hn =>
      rw [value_zero, zero_sub]
      exact hv.neg.self
  | finite s m e hm =>
    cases v with
    | infinity t => cases hvfinite
    | notANumber => cases hvfinite
    | zero t =>
      rw [value_zero, sub_zero]
      exact hu.self
    | finite t n f hn =>
      have hsum : Valued spec _ _ := valued_normalize
        (s.apply (UnpackedFloat.decreaseExponent m e (min e f)).1
          - t.apply (UnpackedFloat.decreaseExponent n f (min e f)).1) (min e f) .positive
      rw [Int.cast_sub, sub_mul, apply_decreaseExponent s m (min_le_left e f),
        apply_decreaseExponent t n (min_le_right e f)] at hsum
      exact hsum

/-- A sum is the difference from the negative. -/
theorem add_eq_sub_neg (u v : Parts) :
    UnpackedFloat.add spec u v = UnpackedFloat.sub spec u v.neg := by
  have hsign : ∀ s : Sign, - -s = s := by
    intro s
    cases s <;> rfl
  have hsize : ∀ (s t : Sign) (m n : ℕ), s.apply m + t.apply n = s.apply m - (-t).apply n := by
    intro s t m n
    cases t
    · exact Int.add_neg_eq_sub.trans rfl
    · exact (sub_neg_eq_add _ _).symm
  cases u <;> cases v <;>
    simp only [UnpackedFloat.add, UnpackedFloat.sub, UnpackedFloat.neg, hsign, hsize]

/-- **A sum** is the sum of the values, rounded. -/
theorem valued_add {u v : Parts} {y : ℚ} (hu : Valued spec u x) (hv : Valued spec v y) :
    Valued spec (UnpackedFloat.add spec u v) (rounded spec (x + y)) := by
  have hsub := valued_sub hu hv.neg
  rwa [sub_neg_eq_add, ← add_eq_sub_neg] at hsub

end Binary

end ParticleTimeline
