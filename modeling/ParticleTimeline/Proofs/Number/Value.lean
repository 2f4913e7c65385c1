import ParticleTimeline.Proofs.Number.Finite
import ParticleTimeline.Proofs.Number.Nearest
/-!
# The value of a floating-point number

A finite number has a rational value (`Binary.value`), and one that is written
with the exponent of its last place is determined by it (`Binary.eq_of_value`):
that is the canonical form of a format, which everything that is unpacked has
(`Binary.canonical_unpack`) and which survives being packed
(`Binary.unpack_pack`).

What is no larger than a number of a format is within its range
(`Binary.Fits.of_le`), and canonical numbers compare as their values do
(`Binary.compare_value`).
-/

namespace ParticleTimeline

namespace Binary

open Float.Model
open Float.Model.UnpackedFloat (ExtendedMantissa Accuracy Sign)

/-- The value of a finite number; zero for what has none. -/
def value : Parts → ℚ
  | .finite s m e _ => (s.apply m : ℚ) * (2 : ℚ) ^ e
  | _ => 0

/-- Whether the exponent is that of the last place. -/
def Canonical (spec : Format) : Parts → Prop
  | .finite _ m e _ => spec.targetExponent (totalExponent m e) = e
  | _ => True

/-- Whether the exponent is below the one of what is not finite. -/
def Fits (spec : Format) : Parts → Prop
  | .finite _ _ e _ =>
    e + spec.exponentBias + spec.mantissaBitsWithoutImplicit + 1 < (2 : ℤ) ^ spec.exponentBits
  | _ => True

variable {spec : Format} {s : Sign} {m : ℕ} {e : ℤ} {x : ℚ}

/-! ## Signs -/

theorem abs_apply (s : Sign) (m : ℕ) : |((s.apply m : ℤ) : ℚ)| = m := by
  cases s <;> simp [Sign.apply]

theorem rounded_apply (s : Sign) (m : ℕ) (y : ℚ) :
    rounded spec ((s.apply m : ℤ) * y) = (s.apply 1 : ℤ) * rounded spec (m * y) := by
  cases s <;> simp [Sign.apply, rounded_neg]

/-! ## The canonical form -/

theorem place_value {hm : 0 < m} (h : Canonical spec (.finite s m e hm)) :
    place spec (value (.finite s m e hm)) = e := by
  have hsize : |value (.finite s m e hm)| = |(m : ℚ) * (2 : ℚ) ^ e| := by
    rw [value, abs_mul, abs_apply, abs_mul, Nat.abs_cast]
  rw [place, hsize, ← place, place_mul_zpow hm]
  exact h

theorem representable_value {u : Parts} (h : Canonical spec u) : Representable spec (value u) := by
  cases u with
  | finite s m e hm => exact ⟨s.apply m, by rw [place_value h, value]⟩
  | _ => exact ⟨0, by simp [value]⟩

theorem value_ne_zero {hm : 0 < m} : value (.finite s m e hm) ≠ 0 := by
  have hsize := abs_apply s m
  intro hzero
  rcases mul_eq_zero.1 hzero with h | h
  · rw [h, abs_zero] at hsize
    exact hm.ne (by exact_mod_cast hsize)
  · exact (two_zpow_pos e).ne' h

theorem value_pos_iff {hm : 0 < m} : 0 < value (.finite s m e hm) ↔ s = .positive := by
  have hpos : (0 : ℚ) < m * 2 ^ e := mul_pos (by exact_mod_cast hm) (two_zpow_pos e)
  cases s with
  | positive => simpa [value, Sign.apply] using hpos
  | negative => simpa [value, Sign.apply] using hpos.le

/-- **A canonical number is determined by its value**, if it is not zero. -/
theorem eq_of_value {u v : Parts} (hu : Canonical spec u) (hv : Canonical spec v)
    (h : value u = value v) (hzero : value u ≠ 0) : u = v := by
  cases u with
  | finite s m e hm =>
    cases v with
    | finite t n f hn =>
      have hexponent : e = f := by rw [← place_value hu, h, place_value hv]
      have hpos : 0 < value (.finite s m e hm) ↔ 0 < value (.finite t n f hn) := by
        rw [h]
      have hsign : s = .positive ↔ t = .positive :=
        value_pos_iff.symm.trans (hpos.trans value_pos_iff)
      have hsame : s = t := by
        cases s <;> cases t <;> simp_all
      subst hexponent hsame
      have hmantissa : ((s.apply m : ℤ) : ℚ) = (s.apply n : ℤ) :=
        mul_right_cancel₀ (two_zpow_pos e).ne' h
      have hwhole : (m : ℚ) = n := by rw [← abs_apply s m, hmantissa, abs_apply]
      obtain rfl : m = n := by exact_mod_cast hwhole
      rfl
    | _ => exact absurd h hzero
  | _ => exact absurd rfl hzero

theorem minExponent_eq (spec : Format) :
    spec.minExponent = 1 - (spec.exponentBias + spec.mantissaBitsWithoutImplicit) := by
  have hpos := Nat.one_le_two_pow (n := spec.exponentBits - 1)
  have hbias : (spec.exponentBias : ℤ) = 2 ^ (spec.exponentBits - 1) - 1 := by
    rw [Format.exponentBias]
    push_cast [hpos]
    rfl
  rw [Format.minExponent, Format.mantissaBits, hbias]
  push_cast
  ring

theorem toNat_implicit {k : ℕ} (w : BitVec k) : (1#1 ++ w).toNat = 2 ^ k + w.toNat := by
  have hor := Nat.two_pow_add_eq_or_of_lt w.isLt 1
  rw [Nat.mul_one] at hor
  rw [BitVec.toNat_append, hor, Nat.shiftLeft_eq]
  simp

theorem log2_implicit {k : ℕ} (w : BitVec k) : (1#1 ++ w).toNat.log2 = k := by
  have hlt := w.isLt
  rw [toNat_implicit, Nat.log2_eq_iff (by positivity), Nat.pow_succ]
  omega

/-- **What is unpacked is canonical**. -/
theorem canonical_unpack (w : BitVec spec.numBits) :
    Canonical spec (UnpackedFloat.unpack spec w) := by
  have hmin := minExponent_eq spec
  simp only [UnpackedFloat.unpack]
  split
  · split <;> trivial
  · split
    · split
      · trivial
      · rename_i hexponent _
        have hbits := log2_toNat_lt (UnpackedFloat.unpackMantissa w) spec.hm
        simp only [Canonical, Format.targetExponent, totalExponent, Format.mantissaBits, hexponent]
        simp
        omega
    · rename_i hexponent
      have hpos : 0 < (UnpackedFloat.unpackExponent w).toNat :=
        Nat.pos_of_ne_zero fun hzero => hexponent (BitVec.eq_of_toNat_eq (by simpa using hzero))
      simp only [Canonical, Format.targetExponent, totalExponent, Format.mantissaBits,
        log2_implicit]
      omega

theorem toNat_add_one_lt {k : ℕ} {v : BitVec k} (h : v ≠ -1#k) : v.toNat + 1 < 2 ^ k := by
  have hlt : v.toNat < (BitVec.allOnes k).toNat := by
    rwa [← BitVec.lt_def, BitVec.lt_allOnes_iff, ← BitVec.neg_one_eq_allOnes]
  rw [BitVec.toNat_allOnes] at hlt
  omega

/-- What is unpacked has an exponent that can be packed. -/
theorem fits_unpack (h : 2 ≤ spec.exponentBits) (w : BitVec spec.numBits) :
    Fits spec (UnpackedFloat.unpack spec w) := by
  simp only [UnpackedFloat.unpack]
  split
  · split <;> trivial
  · rename_i hfinite
    have hbound : ((UnpackedFloat.unpackExponent w).toNat : ℤ) + 1 < 2 ^ spec.exponentBits := by
      exact_mod_cast toNat_add_one_lt hfinite
    split
    · split
      · trivial
      · rename_i hzero _
        have hpower : (2 : ℤ) ^ 2 ≤ 2 ^ spec.exponentBits := pow_le_pow_right₀ one_le_two h
        simp only [Fits, hzero, BitVec.toNat_ofNat, Nat.zero_mod]
        push_cast
        linarith
    · simp only [Fits]
      linarith

theorem ofNat_ne_allOnes {k b : ℕ} (h : b + 1 < 2 ^ k) : BitVec.ofNat k b ≠ -1#k := by
  intro heq
  have hnat := congrArg BitVec.toNat heq
  rw [BitVec.toNat_ofNat, Nat.mod_eq_of_lt (by omega), BitVec.neg_one_eq_allOnes,
    BitVec.toNat_allOnes] at hnat
  omega

theorem ofNat_ne_zero {k b : ℕ} (hb : 0 < b) (h : b < 2 ^ k) : BitVec.ofNat k b ≠ 0#k := by
  intro heq
  have hnat := congrArg BitVec.toNat heq
  rw [BitVec.toNat_ofNat, Nat.mod_eq_of_lt h, BitVec.toNat_ofNat, Nat.zero_mod] at hnat
  omega

/-- A mantissa of full width is packed without its first bit. -/
theorem unpack_normal (s : Sign) {b : ℕ} (hm : 0 < m) (hb : 0 < b)
    (hbound : b + 1 < 2 ^ spec.exponentBits) (hfull : m.log2 = spec.mantissaBitsWithoutImplicit) :
    UnpackedFloat.unpack spec
        (UnpackedFloat.packComponents spec s (BitVec.ofNat _ b) (BitVec.ofNat _ m))
      = .finite s m (b - (spec.exponentBias + spec.mantissaBitsWithoutImplicit)) hm := by
  have hexponent : (BitVec.ofNat spec.exponentBits b).toNat = b := by
    rw [BitVec.toNat_ofNat]
    exact Nat.mod_eq_of_lt (by omega)
  obtain ⟨hlow, hhigh⟩ := (Nat.log2_eq_iff hm.ne').1 hfull
  have hmantissa : (1#1 ++ BitVec.ofNat spec.mantissaBitsWithoutImplicit m).toNat = m := by
    rw [Nat.pow_succ] at hhigh
    rw [toNat_implicit, BitVec.toNat_ofNat, Nat.mod_eq_sub_mod hlow, Nat.mod_eq_of_lt (by omega)]
    omega
  simp only [UnpackedFloat.unpack, UnpackedFloat.unpackExponent_packComponents,
    UnpackedFloat.unpackMantissa_packComponents, UnpackedFloat.unpackSign_packComponents,
    Sign.ofBitVec_toBitVec, if_neg (ofNat_ne_allOnes hbound),
    if_neg (ofNat_ne_zero hb (Nat.lt_of_succ_lt hbound)), hexponent, hmantissa]

/-- A mantissa of less than full width is packed with the least exponent. -/
theorem unpack_subnormal (s : Sign) (hm : 0 < m)
    (hbits : m < 2 ^ spec.mantissaBitsWithoutImplicit) :
    UnpackedFloat.unpack spec
        (UnpackedFloat.packComponents spec s (BitVec.ofNat _ 0) (BitVec.ofNat _ m))
      = .finite s m (1 - (spec.exponentBias + spec.mantissaBitsWithoutImplicit)) hm := by
  have hmantissa : (BitVec.ofNat spec.mantissaBitsWithoutImplicit m).toNat = m := by
    rw [BitVec.toNat_ofNat, Nat.mod_eq_of_lt hbits]
  have hpower : 0 + 1 < 2 ^ spec.exponentBits := Nat.one_lt_two_pow spec.he.ne'
  simp only [UnpackedFloat.unpack, UnpackedFloat.unpackExponent_packComponents,
    UnpackedFloat.unpackMantissa_packComponents, UnpackedFloat.unpackSign_packComponents,
    Sign.ofBitVec_toBitVec, if_neg (ofNat_ne_allOnes hpower), dif_neg (ofNat_ne_zero hm hbits),
    if_true, hmantissa]
  congr 1
  simp
  omega

/-- **A canonical number survives being packed**, if its exponent fits. -/
theorem unpack_pack {u : Parts} (hu : Canonical spec u) (hfits : Fits spec u) :
    UnpackedFloat.unpack spec (UnpackedFloat.pack spec u) = u := by
  cases u with
  | infinity s => simp [UnpackedFloat.pack, UnpackedFloat.packedInfinity, UnpackedFloat.unpack]
  | notANumber => exact UnpackedFloat.unpack_packedNaN
  | zero s => exact UnpackedFloat.unpack_packedZero
  | finite s m e hm =>
    have hmin := minExponent_eq spec
    simp only [Canonical, Fits, Format.targetExponent, totalExponent, Format.mantissaBits]
      at hu hfits
    -- The exponent is packed with the bias added to it.
    obtain ⟨b, hb⟩ : ∃ b : ℕ, e + spec.exponentBias + spec.mantissaBitsWithoutImplicit = b :=
      ⟨_, (Int.toNat_of_nonneg (by omega)).symm⟩
    have hbound : b + 1 < 2 ^ spec.exponentBits := by
      rw [hb] at hfits
      exact_mod_cast hfits
    simp only [UnpackedFloat.pack, hb, Int.toNat_natCast, Format.mantissaBits]
    rw [if_neg (by omega)]
    split
    · rename_i hnormal
      rw [unpack_normal s hm (by omega) hbound (by omega)]
      congr 1
      omega
    · rename_i hsubnormal
      rw [unpack_subnormal s hm ((Nat.log2_lt hm.ne').1 (by omega))]
      congr 1
      omega

/-- A finite number whose exponent does not fit is packed as an infinity. -/
theorem unpack_pack_of_not_fits {hm : 0 < m} (h : ¬ Fits spec (.finite s m e hm)) :
    UnpackedFloat.unpack spec (UnpackedFloat.pack spec (.finite s m e hm)) = .infinity s := by
  have hoverflow : 2 ^ spec.exponentBits
      ≤ (e + spec.exponentBias + spec.mantissaBitsWithoutImplicit).toNat + 1 := by
    have hbound : ((2 ^ spec.exponentBits : ℕ) : ℤ)
        ≤ e + spec.exponentBias + spec.mantissaBitsWithoutImplicit + 1 := by
      push_cast
      exact not_lt.1 h
    omega
  simp only [UnpackedFloat.pack, if_pos hoverflow]
  simp [UnpackedFloat.packedInfinity, UnpackedFloat.unpack]

/-- What is not larger than something whose exponent fits has one that fits. -/
theorem Fits.of_le {u v : Parts} (hv : Fits spec v) (hu : Canonical spec u)
    (hvc : Canonical spec v) (h : |value u| ≤ |value v|) : Fits spec u := by
  cases u with
  | finite s m e hm =>
    cases v with
    | finite t n f hn =>
      have hplace : e ≤ f := by
        rw [← place_value hu, ← place_value hvc]
        exact place_mono spec value_ne_zero h
      simp only [Fits] at hv ⊢
      omega
    | _ => exact absurd (abs_nonpos_iff.1 (h.trans abs_zero.le)) value_ne_zero
  | _ => trivial

/-! ## Comparison -/

theorem compare_mul_zpow {n : ℕ} {f : ℤ} (hm : 0 < m) (hn : 0 < n)
    (hu : spec.targetExponent (totalExponent m e) = e)
    (hv : spec.targetExponent (totalExponent n f) = f) :
    (compare e f).then (compare m n) = compare ((m : ℚ) * 2 ^ e) ((n : ℚ) * 2 ^ f) := by
  have hpm : (0 : ℚ) < m * 2 ^ e := mul_pos (by exact_mod_cast hm) (two_zpow_pos e)
  have hpn : (0 : ℚ) < n * 2 ^ f := mul_pos (by exact_mod_cast hn) (two_zpow_pos f)
  have hplace : ∀ {a b : ℚ}, 0 < a → a ≤ b → place spec a ≤ place spec b := by
    intro a b ha hab
    exact place_mono spec ha.ne' (by rwa [abs_of_pos ha, abs_of_pos (ha.trans_le hab)])
  rw [← place_mul_zpow hm] at hu
  rw [← place_mul_zpow hn] at hv
  rcases lt_trichotomy e f with hlt | rfl | hgt
  · rw [Int.compare_eq_lt.2 hlt, Ordering.lt_then, eq_comm, compare_lt_iff_lt]
    by_contra hle
    have hback := hplace hpn (not_lt.1 hle)
    omega
  · rw [Std.compare_self, Ordering.eq_then]
    have hmono : ∀ {a b : ℕ}, a < b ↔ (a : ℚ) * 2 ^ e < b * 2 ^ e := by
      intro a b
      rw [mul_lt_mul_iff_left₀ (two_zpow_pos e), Nat.cast_lt]
    rcases lt_trichotomy m n with hlt | rfl | hgt
    · rw [compare_lt_iff_lt.2 hlt, compare_lt_iff_lt.2 (hmono.1 hlt)]
    · rw [Std.compare_self, Std.compare_self]
    · rw [compare_gt_iff_gt.2 hgt, compare_gt_iff_gt.2 (hmono.1 hgt)]
  · rw [Int.compare_eq_gt.2 hgt, Ordering.gt_then, eq_comm, compare_gt_iff_gt]
    by_contra hle
    have hback := hplace hpm (not_lt.1 hle)
    omega

@[simp] theorem value_zero (s : Sign) : value (.zero s) = 0 := rfl

theorem value_positive {hm : 0 < m} : value (.finite .positive m e hm) = m * 2 ^ e := by
  simp [value, Sign.apply]

theorem value_negative {hm : 0 < m} : value (.finite .negative m e hm) = -(m * 2 ^ e) := by
  simp [value, Sign.apply]

theorem compare_neg (x y : ℚ) : compare (-x) (-y) = compare y x := by
  rcases lt_trichotomy y x with h | rfl | h
  · rw [compare_lt_iff_lt.2 h, compare_lt_iff_lt.2 (neg_lt_neg h)]
  · rw [Std.compare_self, Std.compare_self]
  · rw [compare_gt_iff_gt.2 h, compare_gt_iff_gt.2 (neg_lt_neg h)]

/-- **Canonical numbers compare as their values do.** -/
theorem compare_value {u v : Parts} (hu : Canonical spec u) (hv : Canonical spec v)
    (hufinite : u.isFinite = true) (hvfinite : v.isFinite = true) :
    UnpackedFloat.compare u v = some (compare (value u) (value v)) := by
  have hpos : ∀ {n : ℕ} {f : ℤ}, 0 < n → (0 : ℚ) < n * 2 ^ f :=
    fun hn => mul_pos (by exact_mod_cast hn) (two_zpow_pos _)
  have hneg : ∀ {n : ℕ} {f : ℤ}, 0 < n → -((n : ℚ) * 2 ^ f) < 0 :=
    fun hn => neg_lt_zero.2 (hpos hn)
  cases u with
  | infinity s => cases hufinite
  | notANumber => cases hufinite
  | zero s =>
    cases v with
    | infinity t => cases hvfinite
    | notANumber => cases hvfinite
    | zero t => simp [UnpackedFloat.compare, value]
    | finite t n f hn =>
      cases t with
      | negative =>
        rw [value_negative, value_zero, compare_gt_iff_gt.2 (hneg hn)]
        rfl
      | positive =>
        rw [value_positive, value_zero, compare_lt_iff_lt.2 (hpos hn)]
        rfl
  | finite s m e hm =>
    cases v with
    | infinity t => cases hvfinite
    | notANumber => cases hvfinite
    | zero t =>
      cases s with
      | negative =>
        rw [value_negative, value_zero, compare_lt_iff_lt.2 (hneg hm)]
        rfl
      | positive =>
        rw [value_positive, value_zero, compare_gt_iff_gt.2 (hpos hm)]
        rfl
    | finite t n f hn =>
      -- Of one sign the sizes decide, of two signs the signs.
      have hsizes := compare_mul_zpow hm hn hu hv
      cases s <;> cases t
      case negative.negative =>
        rw [value_negative, value_negative, UnpackedFloat.compare, hsizes,
          ← Std.OrientedCmp.eq_swap, ← compare_neg]
      case negative.positive =>
        rw [value_negative, value_positive, compare_lt_iff_lt.2 ((hneg hm).trans (hpos hn)),
          UnpackedFloat.compare]
      case positive.negative =>
        rw [value_negative, value_positive, compare_gt_iff_gt.2 ((hneg hn).trans (hpos hm)),
          UnpackedFloat.compare]
      case positive.positive => rw [value_positive, value_positive, UnpackedFloat.compare, hsizes]

theorem le_value {u v : Parts} (hu : Canonical spec u) (hv : Canonical spec v)
    (hufinite : u.isFinite = true) (hvfinite : v.isFinite = true) :
    UnpackedFloat.le u v = true ↔ value u ≤ value v := by
  rw [UnpackedFloat.le, compare_value hu hv hufinite hvfinite, Option.any_some]
  rw [Ordering.isLE_iff_ne_gt, compare_gt_iff_gt, not_lt]

theorem lt_value {u v : Parts} (hu : Canonical spec u) (hv : Canonical spec v)
    (hufinite : u.isFinite = true) (hvfinite : v.isFinite = true) :
    UnpackedFloat.lt u v = true ↔ value u < value v := by
  rw [UnpackedFloat.lt, compare_value hu hv hufinite hvfinite, beq_iff_eq, Option.some_inj,
    compare_lt_iff_lt]

end Binary

end ParticleTimeline
