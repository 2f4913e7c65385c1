import ParticleTimeline.Proofs.Number.Amount
import ParticleTimeline.Proofs.Number.Single
/-!
# Products and quotients

A quotient is cut to whole bits, and how its rest compares with a half tells
enough of it to round it to the nearest (`Binary.valued_div`); a product is
rounded from all of its bits (`Binary.valued_mul`). So the quotient of doubles is
the quotient of their values, rounded (`Binary.is_div`), and dividing by what is
not below one leaves an amount an amount (`Binary.amount_div`).
-/

namespace ParticleTimeline

namespace Binary

open Float.Model
open Float.Model.UnpackedFloat (ExtendedMantissa Accuracy Sign)

variable {spec : Format} {u v : Parts} {x y : ℚ} {m n : ℕ} {e f : ℤ}

/-! ## Cut numbers -/

/-- **What is left of a division** is compared with half of the divisor, which
tells whether there is more behind the quotient, and more than a half. -/
theorem Approximates.div (m : ℕ) (hn : 0 < n) :
    Approximates (.ofMantissaAndAccuracy (m / n) (UnpackedFloat.accuracyOfFraction (m % n) n))
      ((m : ℚ) / n) := by
  have hpos : (0 : ℚ) < n := by exact_mod_cast hn
  have hrest : ((m % n : ℕ) : ℚ) < n := by exact_mod_cast Nat.mod_lt m hn
  have hparts : (m : ℚ) / n = (m / n : ℕ) + ((m % n : ℕ) : ℚ) / n := by
    rw [eq_comm, add_div' _ _ _ hpos.ne']
    congr 1
    exact_mod_cast Nat.div_add_mod' m n
  rw [hparts, UnpackedFloat.accuracyOfFraction]
  generalize m / n = q
  generalize m % n = r at hrest
  have hone : (r : ℚ) / n < 1 := (div_lt_one hpos).2 hrest
  split
  · rename_i hzero
    rw [hzero, Nat.cast_zero, zero_div, add_zero]
    exact Approximates.exact q
  · rename_i hzero
    have hmore : (0 : ℚ) < r / n := div_pos (by exact_mod_cast Nat.pos_of_ne_zero hzero) hpos
    rcases hcompare : compare (2 * r) n with _ | _ | _
    · have hlt : (r : ℚ) / n < 1 / 2 := by
        rw [div_lt_div_iff₀ hpos two_pos, one_mul, mul_comm]
        exact_mod_cast Nat.compare_eq_lt.1 hcompare
      refine ⟨fun h => Bool.noConfusion h, fun _ => ?_, ?_⟩ <;>
        simp only [ExtendedMantissa.ofMantissaAndAccuracy, start, cond_false] <;> linarith
    · have heq : (r : ℚ) / n = 1 / 2 := by
        rw [div_eq_div_iff hpos.ne' two_ne_zero, one_mul, mul_comm]
        exact_mod_cast Nat.compare_eq_eq.1 hcompare
      refine ⟨fun _ => ?_, fun h => Bool.noConfusion h, ?_⟩ <;>
        simp only [ExtendedMantissa.ofMantissaAndAccuracy, start, cond_true] <;> linarith
    · have hgt : 1 / 2 < (r : ℚ) / n := by
        rw [div_lt_div_iff₀ two_pos hpos, one_mul, mul_comm]
        exact_mod_cast Nat.compare_eq_gt.1 hcompare
      refine ⟨fun h => Bool.noConfusion h, fun _ => ?_, ?_⟩ <;>
        simp only [ExtendedMantissa.ofMantissaAndAccuracy, start, cond_true] <;> linarith

/-- A number that was cut at or before its last place still tells that place. -/
theorem targetExponent_of_cut {q : ℕ} (hx : 0 < x) (he : e ≤ place spec x)
    (hlow : (q : ℚ) * 2 ^ e ≤ x) (hhigh : x < (q + 1) * 2 ^ e) :
    spec.targetExponent (totalExponent q e) = place spec x := by
  have hwidth : 0 < spec.mantissaBits := by
    rw [Format.mantissaBits]
    omega
  rw [place, abs_of_pos hx, Format.targetExponent] at he ⊢
  rw [Format.targetExponent, totalExponent]
  rcases Nat.eq_zero_or_pos q with rfl | hq
  · have hlog : Int.log 2 x < e := by
      rw [← Int.lt_zpow_iff_log_lt one_lt_two hx, Nat.cast_ofNat]
      simpa using hhigh
    rw [Nat.log2_zero]
    omega
  · have hfloor : (2 : ℚ) ^ q.log2 ≤ q := by exact_mod_cast Nat.log2_self_le hq.ne'
    have hceil : (q : ℚ) + 1 ≤ 2 ^ (q.log2 + 1) := by
      exact_mod_cast Nat.succ_le_of_lt (Nat.lt_log2_self (n := q))
    have hbelow : q.log2 + e ≤ Int.log 2 x := by
      rw [← Int.zpow_le_iff_le_log one_lt_two hx, Nat.cast_ofNat, zpow_add₀ two_ne_zero,
        zpow_natCast]
      exact (mul_le_mul_of_nonneg_right hfloor (two_zpow_pos e).le).trans hlow
    have habove : Int.log 2 x < q.log2 + 1 + e := by
      rw [← Int.lt_zpow_iff_log_lt one_lt_two hx, Nat.cast_ofNat, zpow_add₀ two_ne_zero]
      exact_mod_cast hhigh.trans_le (mul_le_mul_of_nonneg_right hceil (two_zpow_pos e).le)
    omega

/-- **What was cut at or before its last place** is rounded as if it had not
been. -/
theorem valued_roundWithAccuracy (s : Sign) {q : ℕ} {accuracy : Accuracy} (hx : 0 < x)
    (he : e ≤ place spec x)
    (h : Approximates (.ofMantissaAndAccuracy q accuracy) (x / 2 ^ e)) :
    Valued spec (UnpackedFloat.roundWithAccuracy spec s q e accuracy)
      ((s.apply 1 : ℤ) * rounded spec x) := by
  have hpos := two_zpow_pos e
  have hstart : (q : ℚ) ≤ start (.ofMantissaAndAccuracy q accuracy) ∧
      start (.ofMantissaAndAccuracy q accuracy) ≤ q + 1 / 2 := by
    rcases accuracy with _ | _ | _ | _ <;>
      simp [ExtendedMantissa.ofMantissaAndAccuracy, start]
  have hplace : spec.targetExponent (totalExponent q e) = place spec x := by
    refine targetExponent_of_cut hx he ?_ ?_
    · exact (le_div_iff₀ hpos).1 (hstart.1.trans h.start_le)
    · refine (div_lt_iff₀ hpos).1 (h.above.trans_le ?_)
      linarith [hstart.2]
  have hdropped : dropped spec q e = (place spec x - e).toNat := by rw [dropped, hplace]
  have hend : e + (place spec x - e).toNat = place spec x := by omega
  have hquotient : x / 2 ^ e / 2 ^ (place spec x - e).toNat = x / (2 : ℚ) ^ place spec x := by
    rw [div_div, ← zpow_natCast, ← zpow_add₀ two_ne_zero, hend]
  have hnearest := (h.shiftRight (place spec x - e).toNat).roundedMantissa
  rw [hquotient] at hnearest
  rw [roundWithAccuracy_eq_trimmed, hdropped, hend,
    ← Int.toNat_natCast (ExtendedMantissa.roundedMantissa _), hnearest]
  exact valued_nearest s hx

/-! ## Products and quotients -/

/-- The sign of a number, apart from its size. -/
theorem value_finite {s : Sign} {hm : 0 < m} :
    value (.finite s m e hm) = (s.apply 1 : ℤ) * (m * (2 : ℚ) ^ e) := by
  cases s <;> simp [value, Sign.apply]

theorem rounded_sign_mul (s : Sign) (x : ℚ) :
    rounded spec ((s.apply 1 : ℤ) * x) = (s.apply 1 : ℤ) * rounded spec x := by
  cases s <;> simp [Sign.apply, rounded_neg]

theorem cast_sign_mul (s t : Sign) :
    (((s * t).apply 1 : ℤ) : ℚ) = (s.apply 1 : ℤ) * (t.apply 1 : ℤ) := by
  have hsign : (s * t).apply 1 = s.apply 1 * t.apply 1 := by cases s <;> cases t <;> rfl
  rw [hsign, Int.cast_mul]

theorem cast_sign_div (s t : Sign) :
    (((s / t).apply 1 : ℤ) : ℚ) = (s.apply 1 : ℤ) / (t.apply 1 : ℤ) := by
  have hsign : s / t = s * t := by cases s <;> cases t <;> rfl
  rw [hsign, cast_sign_mul]
  cases t <;> simp [Sign.apply, div_neg]

/-- A product of numbers in a format has no bit behind the last places of both. -/
theorem add_le_place_mul (hm : 0 < m) (hn : 0 < n)
    (hu : spec.targetExponent (totalExponent m e) = e)
    (hv : spec.targetExponent (totalExponent n f) = f) :
    e + f ≤ place spec ((m * n : ℕ) * (2 : ℚ) ^ (e + f)) := by
  have hbits : m.log2 + n.log2 ≤ (m * n).log2 := by
    rw [Nat.le_log2 (Nat.mul_pos hm hn).ne', Nat.pow_add]
    exact Nat.mul_le_mul (Nat.log2_self_le hm.ne') (Nat.log2_self_le hn.ne')
  have hleast := minExponent_eq spec
  have hwidth : spec.mantissaBits = 1 + spec.mantissaBitsWithoutImplicit := rfl
  rw [place_mul_zpow (Nat.mul_pos hm hn)]
  simp only [Format.targetExponent, totalExponent] at hu hv ⊢
  omega

/-- **A product** is the product of the values, rounded. -/
theorem valued_mul (hu : Valued spec u x) (hv : Valued spec v y) :
    Valued spec (UnpackedFloat.mul spec u v) (rounded spec (x * y)) := by
  obtain ⟨hucanonical, hufinite, rfl⟩ := hu
  obtain ⟨hvcanonical, hvfinite, rfl⟩ := hv
  cases u with
  | infinity s => cases hufinite
  | notANumber => cases hufinite
  | zero s =>
    rw [value_zero, zero_mul, rounded_zero]
    cases v with
    | infinity t => cases hvfinite
    | notANumber => cases hvfinite
    | zero t => exact ⟨trivial, rfl, rfl⟩
    | finite t n f hn => exact ⟨trivial, rfl, rfl⟩
  | finite s m e hm =>
    cases v with
    | infinity t => cases hvfinite
    | notANumber => cases hvfinite
    | zero t =>
      rw [value_zero, mul_zero, rounded_zero]
      exact ⟨trivial, rfl, rfl⟩
    | finite t n f hn =>
      have hmn : 0 < m * n := Nat.mul_pos hm hn
      have hpos : 0 < ((m * n : ℕ) : ℚ) * 2 ^ (e + f) :=
        mul_pos (by exact_mod_cast hmn) (two_zpow_pos _)
      have hproduct : value (.finite s m e hm) * value (.finite t n f hn)
          = ((s * t).apply 1 : ℤ) * (((m * n : ℕ) : ℚ) * 2 ^ (e + f)) := by
        rw [value_finite, value_finite, cast_sign_mul, zpow_add₀ two_ne_zero]
        push_cast
        ring
      rw [hproduct, rounded_sign_mul]
      refine valued_roundWithAccuracy _ hpos (add_le_place_mul hm hn hucanonical hvcanonical) ?_
      rw [mul_div_cancel_right₀ _ (two_zpow_pos _).ne']
      exact Approximates.exact (m * n)

/-- The exponent that a quotient is cut at is not behind its last place. -/
theorem targetExponent_sub_le_place (hm : 0 < m) (hn : 0 < n) :
    spec.targetExponent (totalExponent m e - totalExponent n f)
      ≤ place spec ((m * (2 : ℚ) ^ e) / (n * 2 ^ f)) := by
  have hdividend : (0 : ℚ) < m * 2 ^ e := mul_pos (by exact_mod_cast hm) (two_zpow_pos e)
  have hdivisor : (0 : ℚ) < n * 2 ^ f := mul_pos (by exact_mod_cast hn) (two_zpow_pos f)
  have hpos := div_pos hdividend hdivisor
  have hlow : (2 : ℚ) ^ (m.log2 + e) ≤ m * 2 ^ e := by
    rw [← log_mul_zpow hm e]
    exact Int.zpow_log_le_self one_lt_two hdividend
  have hhigh : n * 2 ^ f < (2 : ℚ) ^ (n.log2 + f + 1) := by
    rw [← log_mul_zpow hn f]
    exact Int.lt_zpow_succ_log_self one_lt_two _
  have hlog : m.log2 + e - (n.log2 + f + 1) ≤ Int.log 2 ((m * (2 : ℚ) ^ e) / (n * 2 ^ f)) := by
    rw [← Int.zpow_le_iff_le_log one_lt_two hpos, Nat.cast_ofNat, zpow_sub₀ two_ne_zero]
    exact div_le_div₀ hdividend.le hlow hdivisor hhigh.le
  rw [place, abs_of_pos hpos]
  simp only [Format.targetExponent, totalExponent]
  omega

/-- **A quotient** is the quotient of the values, rounded. -/
theorem valued_div (hu : Valued spec u x) (hv : Valued spec v y) (hy : y ≠ 0) :
    Valued spec (UnpackedFloat.div spec u v) (rounded spec (x / y)) := by
  obtain ⟨-, hufinite, rfl⟩ := hu
  obtain ⟨-, hvfinite, rfl⟩ := hv
  cases v with
  | infinity t => cases hvfinite
  | notANumber => cases hvfinite
  | zero t => exact absurd rfl hy
  | finite t n f hn =>
    cases u with
    | infinity s => cases hufinite
    | notANumber => cases hufinite
    | zero s =>
      rw [value_zero, zero_div, rounded_zero]
      exact ⟨trivial, rfl, rfl⟩
    | finite s m e hm =>
      have hpos : 0 < (m * (2 : ℚ) ^ e) / (n * 2 ^ f) :=
        div_pos (mul_pos (by exact_mod_cast hm) (two_zpow_pos e))
          (mul_pos (by exact_mod_cast hn) (two_zpow_pos f))
      have hquotient : value (.finite s m e hm) / value (.finite t n f hn)
          = ((s / t).apply 1 : ℤ) * ((m * (2 : ℚ) ^ e) / (n * 2 ^ f)) := by
        rw [value_finite, value_finite, cast_sign_div, mul_div_mul_comm]
      set g := min (e - f) (spec.targetExponent (totalExponent m e - totalExponent n f)) with hg
      -- The quotient is cut at a place that is no higher than where it will be rounded.
      have hcut : (m * (2 : ℚ) ^ e) / (n * 2 ^ f) / 2 ^ g
          = ((m <<< (e - f - g).toNat : ℕ) : ℚ) / n := by
        have hexponent : e = (e - f - g).toNat + (f + g) := by omega
        have hn0 : (n : ℚ) ≠ 0 := by exact_mod_cast hn.ne'
        rw [div_div, div_eq_div_iff (mul_ne_zero (mul_ne_zero hn0 (two_zpow_pos f).ne')
          (two_zpow_pos g).ne') hn0, Nat.shiftLeft_eq]
        conv_lhs => rw [hexponent, zpow_add₀ two_ne_zero, zpow_add₀ two_ne_zero, zpow_natCast]
        push_cast
        ring
      rw [hquotient, rounded_sign_mul]
      refine valued_roundWithAccuracy _ hpos
        ((min_le_right _ _).trans (targetExponent_sub_le_place hm hn)) ?_
      change Approximates _ (_ / 2 ^ g)
      rw [hcut]
      exact Approximates.div _ hn

/-! ## Doubles -/

section Doubles

variable {a b c : Float}

/-- **A quotient of doubles** is the double of the quotient, rounded. -/
theorem is_div (ha : a.isFinite = true) (hb : b.isFinite = true) (hc : c.isFinite = true)
    (hzero : exact b ≠ 0) (hle : |rounded .binary64 (exact a / exact b)| ≤ |exact c|) :
    Is (a / b) (rounded .binary64 (exact a / exact b)) :=
  is_packed (valued_div (valued_ofDouble ha) (valued_ofDouble hb) hzero) hc hle

/-- **An amount, divided by what is not below one**, is an amount. -/
theorem amount_div (ha : Amount a) (hb : b.isFinite = true) (hone : 1 ≤ exact b) :
    Amount (a / b) := by
  have hpos : 0 < exact b := one_pos.trans_le hone
  have hnonneg : 0 ≤ exact a / exact b := div_nonneg ha.nonneg hpos.le
  have hle : rounded .binary64 (exact a / exact b) ≤ exact a := by
    rcases hnonneg.eq_or_lt with hzero | hmore
    · rw [← hzero, rounded_zero]
      exact ha.nonneg
    · exact rounded_le hmore (div_le_self ha.nonneg hone) (representable_exact ha.finite)
  refine (is_div ha.finite hb ha.finite hpos.ne' ?_).amount (rounded_nonneg hnonneg)
  rwa [abs_of_nonneg (rounded_nonneg hnonneg), abs_of_nonneg ha.nonneg]

/-- What is infinite stays so when it is divided by something finite. -/
theorem div_of_infinity (ha : ofDouble a = .infinity .positive) (hb : b.isFinite = true)
    (hpos : 0 < exact b) : ofDouble (a / b) = .infinity .positive := by
  have hdiv : UnpackedFloat.div .binary64 (ofDouble a) (ofDouble b) = .infinity .positive := by
    rw [isFinite_double] at hb
    rw [exact] at hpos
    rw [ha]
    cases hv : ofDouble b with
    | infinity s => rw [hv] at hb; cases hb
    | notANumber => rw [hv] at hb; cases hb
    | zero s => rw [hv, value_zero] at hpos; exact absurd hpos (lt_irrefl 0)
    | finite s m e hm =>
      rw [hv] at hpos
      rw [value_pos_iff.1 hpos]
      rfl
  change UnpackedFloat.unpack .binary64 (UnpackedFloat.pack .binary64
    (UnpackedFloat.div .binary64 (ofDouble a) (ofDouble b))) = _
  rw [hdiv]
  exact unpack_pack trivial trivial

end Doubles

/-! ## Whole numbers -/

/-- A whole number that is no larger than the bits of a format allow. -/
theorem representable_natCast (h : n ≤ 2 ^ spec.mantissaBits) : Representable spec n := by
  rcases Nat.eq_zero_or_pos n with rfl | hn
  · exact ⟨0, by simp⟩
  have hleast := minExponent_eq spec
  have hkept := spec.hm
  have hwidth : 0 < spec.mantissaBits := by
    rw [Format.mantissaBits]
    omega
  have hplace : place spec n = spec.targetExponent (totalExponent n 0) := by
    rw [← place_mul_zpow hn, zpow_zero, mul_one]
  rcases h.lt_or_eq with hlt | rfl
  · have hbits : n.log2 < spec.mantissaBits := (Nat.log2_lt hn.ne').2 hlt
    have hwhole : place spec n ≤ 0 := by
      rw [hplace, Format.targetExponent, totalExponent]
      omega
    obtain ⟨k, hk⟩ := exists_mul_zpow_of_le hwhole n
    exact ⟨k, by simpa using hk⟩
  · have hone : place spec ((2 ^ spec.mantissaBits : ℕ) : ℚ) ≤ 1 := by
      rw [hplace, Format.targetExponent, totalExponent, Nat.log2_two_pow]
      omega
    obtain ⟨k, hk⟩ := exists_mul_zpow_of_le hone (2 ^ (spec.mantissaBits - 1))
    refine ⟨k, ?_⟩
    rw [← hk, zpow_one]
    push_cast
    rw [← pow_succ, Nat.sub_add_cancel hwidth]

end Binary

end ParticleTimeline
