import Mathlib
import ParticleTimeline.Number.Binary
/-!
# Doubles that are finite

A size is followed through rounding, packing and division: a number within a
power of two is rounded to one within the next power at most
(`within_roundWithAccuracy`), survives being packed if it is well below the
largest double (`within_unpack_pack`), and does not grow when it is divided by
something that is not below one (`within_divide`). Two more facts are about
any size: the negative of a finite double is finite (`isFinite_neg`), and so is
a product of finite doubles that is not infinite (`isFinite_mul`).
-/

namespace ParticleTimeline

namespace Binary

open Float.Model
open Float.Model.UnpackedFloat (ExtendedMantissa Accuracy)

/-! ## Bits of natural numbers -/

theorem log2_mono {m n : Nat} (h : m ≤ n) : m.log2 ≤ n.log2 := by
  by_cases hm : m = 0
  · rw [hm, Nat.log2_zero]
    exact Nat.zero_le _
  · have hn : n ≠ 0 := by omega
    exact (Nat.le_log2 hn).2 (Nat.le_trans (Nat.log2_self_le hm) h)

theorem log2_succ_le (m : Nat) : (m + 1).log2 ≤ m.log2 + 1 := by
  by_cases hm : m = 0
  · subst hm
    decide
  · calc (m + 1).log2 ≤ (2 * m).log2 := log2_mono (by omega)
      _ = m.log2 + 1 := Nat.log2_two_mul hm

/-- The bits of a quotient are those of the dividend that the divisor leaves. -/
theorem log2_div_add {m n : Nat} (h : m / n ≠ 0) : (m / n).log2 + n.log2 ≤ m.log2 := by
  have hn : n ≠ 0 := by
    rintro rfl
    exact h (Nat.div_zero m)
  have hm : m ≠ 0 := by
    rintro rfl
    exact h (Nat.zero_div n)
  rw [Nat.le_log2 hm, Nat.pow_add]
  calc _ ≤ m / n * n := Nat.mul_le_mul (Nat.log2_self_le h) (Nat.log2_self_le hn)
    _ ≤ m := Nat.div_mul_le_self m n

theorem log2_shiftRight_add {m k : Nat} (h : m >>> k ≠ 0) : (m >>> k).log2 + k ≤ m.log2 := by
  rw [Nat.shiftRight_eq_div_pow] at h ⊢
  simpa using log2_div_add h

theorem log2_shiftRight_eq {m k : Nat} (h : k ≤ m.log2) : (m >>> k).log2 = m.log2 - k := by
  by_cases hm : m = 0
  · simp [hm]
  have hne : m >>> k ≠ 0 := by
    rw [Nat.shiftRight_eq_div_pow]
    exact Nat.div_ne_zero_iff.2 ⟨Nat.ne_of_gt (Nat.two_pow_pos k), (Nat.le_log2 hm).1 h⟩
  have hle := log2_shiftRight_add hne
  have hge : m.log2 - k ≤ (m >>> k).log2 := by
    rw [Nat.le_log2 hne, Nat.shiftRight_eq_div_pow, Nat.le_div_iff_mul_le (Nat.two_pow_pos k),
      ← Nat.pow_add, Nat.sub_add_cancel h]
    exact Nat.log2_self_le hm
  omega

theorem log2_shiftLeft_le (m k : Nat) : (m <<< k).log2 ≤ m.log2 + k := by
  by_cases hm : m = 0
  · simp [hm]
  · have hshift : m <<< k ≠ 0 := by simpa using hm
    have hlt : (m <<< k).log2 < m.log2 + 1 + k := by
      rw [Nat.log2_lt hshift, Nat.shiftLeft_eq, Nat.pow_add]
      exact Nat.mul_lt_mul_of_pos_right Nat.lt_log2_self (Nat.two_pow_pos k)
    omega

/-! ## Rounding -/

/-- A number that is finite and below the power of two behind this one. -/
def Within (b : Int) : Parts → Prop
  | .zero _ => True
  | .finite _ m e _ => m.log2 + e ≤ b
  | .infinity _ | .notANumber => False

variable {b : Int} {u v : UnpackedFloat}

theorem mantissa_shiftRight (em : ExtendedMantissa) (k : Nat) :
    (em >>> k).mantissa = em.mantissa >>> k := by
  change (k.repeat ExtendedMantissa.shiftRightOne em).mantissa = _
  induction k with
  | zero => rfl
  | succ k ih =>
    rw [Nat.repeat, ExtendedMantissa.shiftRightOne, ih, Nat.shiftRight_succ]

theorem mantissa_ofMantissaAndAccuracy (m : Nat) (accuracy : Accuracy) :
    (ExtendedMantissa.ofMantissaAndAccuracy m accuracy).mantissa = m := by
  rcases accuracy with _ | _ | _ | _ <;> rfl

/-- Rounding goes up by one at most. -/
theorem roundedMantissa_bounds (em : ExtendedMantissa) :
    em.mantissa ≤ em.roundedMantissa ∧ em.roundedMantissa ≤ em.mantissa + 1 := by
  obtain ⟨m, _ | _, _ | _⟩ := em
  · exact ⟨Nat.le_refl m, Nat.le_succ m⟩
  · exact ⟨Nat.le_refl m, Nat.le_succ m⟩
  · change m ≤ m + m % 2 ∧ m + m % 2 ≤ m + 1
    omega
  · exact ⟨Nat.le_succ m, Nat.le_refl _⟩

/-- How many bits a number has that its format does not keep. -/
def dropped (spec : Format) (m : Nat) (e : Int) : Nat :=
  (spec.targetExponent (totalExponent m e) - e).toNat

theorem shiftToTargetExponent_eq (spec : Format) (m : Nat) (e : Int) (accuracy : Accuracy) :
    UnpackedFloat.shiftToTargetExponent spec m e accuracy
      = (ExtendedMantissa.ofMantissaAndAccuracy m accuracy >>> dropped spec m e,
        e + dropped spec m e) := rfl

/-- **Bits are dropped twice**: before rounding, and once more when rounding has
carried over. -/
theorem roundWithAccuracy_eq (spec : Format) (s : UnpackedFloat.Sign) (m : Nat) (e : Int)
    (accuracy : Accuracy) :
    ∃ r e', e' = e + dropped spec m e ∧ m >>> dropped spec m e ≤ r ∧
      r ≤ (m >>> dropped spec m e) + 1 ∧
      UnpackedFloat.roundWithAccuracy spec s m e accuracy
        = if h : r >>> dropped spec r e' = 0 then .zero s
          else .finite s (r >>> dropped spec r e') (e' + dropped spec r e')
            (Nat.pos_of_ne_zero h) := by
  have hbounds := roundedMantissa_bounds
    (ExtendedMantissa.ofMantissaAndAccuracy m accuracy >>> dropped spec m e)
  rw [mantissa_shiftRight, mantissa_ofMantissaAndAccuracy] at hbounds
  refine ⟨_, _, rfl, hbounds.1, hbounds.2, ?_⟩
  rw [UnpackedFloat.roundWithAccuracy]
  simp only [shiftToTargetExponent_eq, mantissa_shiftRight, mantissa_ofMantissaAndAccuracy]

/-- **Rounding adds one bit at most**, where that bit can be had. -/
theorem within_roundWithAccuracy {spec : Format} {s : UnpackedFloat.Sign} {m : Nat} {e : Int}
    (accuracy : Accuracy) (h : m.log2 + e + 1 ≤ b) (hleast : spec.minExponent ≤ b) :
    Within b (UnpackedFloat.roundWithAccuracy spec s m e accuracy) := by
  obtain ⟨r, e', he', -, hrounded, heq⟩ := roundWithAccuracy_eq spec s m e accuracy
  have hsum : r.log2 + e' ≤ b := by
    by_cases hnone : m >>> dropped spec m e = 0
    · have hbits : r.log2 = 0 := by
        rw [hnone] at hrounded
        exact Nat.le_zero.1 (log2_mono hrounded)
      have htarget : e' ≤ max e (spec.targetExponent (totalExponent m e)) := by
        rw [he', dropped]
        omega
      have hwidth : 0 < spec.mantissaBits := by
        rw [Format.mantissaBits]
        omega
      rw [Format.targetExponent, totalExponent] at htarget
      omega
    · have hbits := log2_shiftRight_add hnone
      have hcarry := Nat.le_trans (log2_mono hrounded) (log2_succ_le _)
      omega
  rw [heq]
  split
  · trivial
  · rename_i hleft
    have hbits := log2_shiftRight_add hleft
    simp only [Within]
    omega

theorem dropped_of_normal {m : Nat} {e : Int} (hbits : 52 ≤ m.log2) (hleast : -1022 ≤ m.log2 + e) :
    dropped .binary64 m e = m.log2 - 52 := by
  have hwidth : Format.binary64.mantissaBits = 53 := by decide
  have hmin : Format.binary64.minExponent = -1074 := by decide
  rw [dropped, Format.targetExponent, totalExponent, hwidth, hmin]
  omega

/-- **A number with bits enough** is rounded to one of the full width, and no
bit gets lost at the top. -/
theorem roundWithAccuracy_normal {m : Nat} {e : Int} (s : UnpackedFloat.Sign) (accuracy : Accuracy)
    (hbits : 52 ≤ m.log2) (hleast : -1022 ≤ m.log2 + e) :
    ∃ m' e' hm', UnpackedFloat.roundWithAccuracy .binary64 s m e accuracy = .finite s m' e' hm' ∧
      m'.log2 = 52 ∧ m.log2 + e ≤ m'.log2 + e' ∧ m'.log2 + e' ≤ m.log2 + e + 1 := by
  obtain ⟨r, e', he', hleft, hrounded, heq⟩ := roundWithAccuracy_eq .binary64 s m e accuracy
  rw [dropped_of_normal hbits hleast] at he' hleft hrounded
  have hkept := log2_shiftRight_eq (m := m) (k := m.log2 - 52) (by omega)
  have hlow := log2_mono hleft
  have hhigh := Nat.le_trans (log2_mono hrounded) (log2_succ_le _)
  have hdropped : dropped .binary64 r e' = r.log2 - 52 := dropped_of_normal (by omega) (by omega)
  have hfinal := log2_shiftRight_eq (m := r) (k := r.log2 - 52) (by omega)
  have hne : r >>> dropped .binary64 r e' ≠ 0 := by
    intro hzero
    rw [hdropped] at hzero
    rw [hzero, Nat.log2_zero] at hfinal
    omega
  rw [dif_neg hne] at heq
  refine ⟨_, _, _, heq, ?_⟩
  rw [hdropped]
  omega

/-! ## Packing -/

theorem isFinite_of_within (h : Within b u) : u.isFinite = true := by
  cases u with
  | zero s => rfl
  | finite s m e hm => rfl
  | infinity s => exact h.elim
  | notANumber => exact h.elim

theorem within_mono {c : Int} (h : Within b u) (hbc : b ≤ c) : Within c u := by
  cases u with
  | zero s => trivial
  | finite s m e hm => exact Int.le_trans h hbc
  | infinity s => exact h.elim
  | notANumber => exact h.elim

theorem log2_toNat_lt {k : Nat} (w : BitVec k) (hk : 0 < k) : w.toNat.log2 < k := by
  by_cases hzero : w.toNat = 0
  · rwa [hzero, Nat.log2_zero]
  · exact (Nat.log2_lt hzero).2 w.isLt

/-- **The exponent that was packed bounds what is unpacked**, if it is not the
one of what is not finite. -/
theorem within_unpack {w : BitVec Format.binary64.numBits}
    (h : (UnpackedFloat.unpackExponent w).toNat < 2047) :
    Within (max ((UnpackedFloat.unpackExponent w).toNat - 1023) (-1022))
      (UnpackedFloat.unpack .binary64 w) := by
  have hbias : Format.binary64.exponentBias = 1023 := by decide
  have hlargest : (-1#11).toNat = 2047 := by decide
  have hfinite : UnpackedFloat.unpackExponent w ≠ -1#_ := by
    intro heq
    rw [heq] at h
    exact absurd (show (-1#11).toNat < 2047 from h) (by decide)
  simp only [UnpackedFloat.unpack, hbias, if_neg hfinite]
  split
  · split
    · trivial
    · rename_i hzero _
      have hbits := log2_toNat_lt (UnpackedFloat.unpackMantissa w) Format.binary64.hm
      simp only [Within, hzero] at hbits ⊢
      simp
      omega
  · have hbits := log2_toNat_lt (1#1 ++ UnpackedFloat.unpackMantissa w) (by omega)
    simp only [Within]
    simp at hbits ⊢
    omega

/-- Whether a number is finite and its size is not below one. -/
def reachesOne : Parts → Bool
  | .finite _ m e _ => decide (0 ≤ m.log2 + e)
  | _ => false

theorem reachesOne_unpack {w : BitVec Format.binary64.numBits}
    (hone : 1023 ≤ (UnpackedFloat.unpackExponent w).toNat)
    (h : (UnpackedFloat.unpackExponent w).toNat < 2047) :
    reachesOne (UnpackedFloat.unpack .binary64 w) = true := by
  have hbias : Format.binary64.exponentBias = 1023 := by decide
  have hfinite : UnpackedFloat.unpackExponent w ≠ -1#_ := by
    intro heq
    rw [heq] at h
    exact absurd (show (-1#11).toNat < 2047 from h) (by decide)
  have hnormal : UnpackedFloat.unpackExponent w ≠ 0#_ := by
    intro heq
    rw [heq] at hone
    exact absurd (show 1023 ≤ (0#11).toNat from hone) (by decide)
  have himplicit : 52 ≤ (1#1 ++ UnpackedFloat.unpackMantissa w).toNat.log2 := by
    have hge : (1 <<< 52 : Nat) ≤ (1#1 ++ UnpackedFloat.unpackMantissa w).toNat := by
      rw [BitVec.toNat_append]
      exact Nat.left_le_or
    exact Nat.le_trans (by decide) (log2_mono hge)
  simp only [UnpackedFloat.unpack, hbias, if_neg hfinite, if_neg hnormal, reachesOne,
    decide_eq_true_eq]
  omega

/-- The exponent that a finite number is packed with. -/
theorem exponent_pack (s : UnpackedFloat.Sign) {m : Nat} {e : Int} (hm : 0 < m) (he : e ≤ 971) :
    (UnpackedFloat.unpackExponent (UnpackedFloat.pack .binary64 (.finite s m e hm))).toNat
      = if m.log2 = 52 then (e + 1075).toNat else 0 := by
  have hbias : Format.binary64.exponentBias = 1023 := by decide
  have hbits : Format.binary64.mantissaBits = 53 := by decide
  have hsum : e + (1023 : Nat) + (52 : Nat) = e + 1075 := by omega
  have hfits : ¬ 2048 ≤ (e + 1075).toNat + 1 := by omega
  simp only [UnpackedFloat.pack, hbias, hbits, hsum]
  rw [if_neg (show ¬ _ from hfits)]
  split
  · rename_i hnormal
    rw [UnpackedFloat.unpackExponent_packComponents, BitVec.toNat_ofNat, if_pos (by omega)]
    exact Nat.mod_eq_of_lt (show _ < 2048 by omega)
  · rename_i hsubnormal
    rw [UnpackedFloat.unpackExponent_packComponents, if_neg (by omega)]
    rfl

/-- **A finite number stays finite when it is packed**, unless its exponent is
too large. -/
theorem isFinite_unpack_pack {s : UnpackedFloat.Sign} {m : Nat} {e : Int} {hm : 0 < m}
    (he : e ≤ 971) :
    (UnpackedFloat.unpack .binary64 (UnpackedFloat.pack .binary64 (.finite s m e hm))).isFinite
      = true := by
  have hexponent := exponent_pack s hm he
  refine isFinite_of_within (within_unpack ?_)
  split at hexponent <;> omega

/-- **A size is kept when a number is packed**, if it is one of normal numbers
and well below the largest. -/
theorem within_unpack_pack (h : Within b u) (hlow : -1022 ≤ b) (hhigh : b ≤ 971) :
    Within b (UnpackedFloat.unpack .binary64 (UnpackedFloat.pack .binary64 u)) := by
  cases u with
  | zero s =>
    have hexponent : (UnpackedFloat.unpackExponent
        (UnpackedFloat.pack .binary64 (.zero s))).toNat = 0 := by
      rw [UnpackedFloat.pack, UnpackedFloat.packedZero,
        UnpackedFloat.unpackExponent_packComponents]
      rfl
    exact within_mono (within_unpack (by omega)) (by omega)
  | finite s m e hm =>
    simp only [Within] at h
    have hexponent := exponent_pack s (e := e) hm (by omega)
    split at hexponent
    · exact within_mono (within_unpack (by omega)) (by omega)
    · exact within_mono (within_unpack (by omega)) (by omega)
  | infinity s => exact h.elim
  | notANumber => exact h.elim

/-- What is unpacked has an exponent that can be packed. -/
theorem exponent_le_of_unpack {w : BitVec Format.binary64.numBits} {s : UnpackedFloat.Sign}
    {m : Nat} {e : Int} {hm : 0 < m}
    (h : UnpackedFloat.unpack .binary64 w = .finite s m e hm) : e ≤ 971 := by
  have hbias : Format.binary64.exponentBias = 1023 := by decide
  have hlargest : (-1#11).toNat = 2047 := by decide
  have hlt : (UnpackedFloat.unpackExponent w).toNat < 2048 := (UnpackedFloat.unpackExponent w).isLt
  simp only [UnpackedFloat.unpack, hbias] at h
  split at h
  · split at h <;> cases h
  · rename_i hexponent
    have hne : (UnpackedFloat.unpackExponent w).toNat ≠ 2047 :=
      fun heq => hexponent (BitVec.eq_of_toNat_eq (heq.trans hlargest.symm))
    split at h
    · rename_i hzero
      split at h
      · cases h
      · obtain ⟨-, -, rfl⟩ := UnpackedFloat.finite.inj h
        rw [hzero]
        decide
    · obtain ⟨-, -, rfl⟩ := UnpackedFloat.finite.inj h
      omega

/-! ## Operations -/

/-- **Division by what is not below one** does not make a number larger than
rounding does. -/
theorem within_div {s : UnpackedFloat.Sign} {m : Nat} {e : Int} {hm : 0 < m} (h : Within b u)
    (hone : 0 ≤ m.log2 + e) (hlow : -1022 ≤ b) :
    Within (b + 1) (UnpackedFloat.div .binary64 u (.finite s m e hm)) := by
  have hleast : Format.binary64.minExponent = -1074 := by decide
  cases u with
  | zero t => trivial
  | finite t n f hn =>
    simp only [Within] at h
    rw [UnpackedFloat.div]
    generalize hcore : UnpackedFloat.divCore .binary64 n f m e = core
    obtain ⟨q, g, accuracy⟩ := core
    refine within_roundWithAccuracy accuracy ?_ (by omega)
    simp only [UnpackedFloat.divCore, Prod.mk.injEq] at hcore
    obtain ⟨rfl, rfl, -⟩ := hcore
    simp only [Format.targetExponent, totalExponent, hleast]
    have hbits : (Format.binary64.mantissaBits = 53) := by decide
    rw [hbits]
    generalize hg : min (f - e)
      (max ((n.log2 : Int) + 1 + f - (m.log2 + 1 + e) - (53 : Nat)) (-1074)) = g
    by_cases hquotient : (n <<< (f - e - g).toNat) / m = 0
    · rw [hquotient, Nat.log2_zero]
      omega
    · have hdiv := log2_div_add hquotient
      have hshift := log2_shiftLeft_le n (f - e - g).toNat
      omega
  | infinity t => exact h.elim
  | notANumber => exact h.elim

/-- A whole number of 64 bits is within its bits. -/
theorem within_ofUInt64 (n : UInt64) : Within 64 (UnpackedFloat.ofUInt64 .binary64 n) := by
  have hleast : Format.binary64.minExponent = -1074 := by decide
  have hbits : n.toNat.log2 ≤ 63 := Nat.lt_succ_iff.1 (log2_toNat_lt n.toBitVec (by decide))
  change Within 64 (UnpackedFloat.normalize .binary64 n.toNat 0 .positive)
  rw [UnpackedFloat.normalize]
  split
  · rename_i hnegative
    rw [Int.compare_eq_lt] at hnegative
    omega
  · trivial
  · rw [UnpackedFloat.round]
    generalize htarget : Format.binary64.targetExponent (totalExponent (n.toNat : Int).toNat 0) = t
    refine within_roundWithAccuracy .exact ?_ (by omega)
    have hshift := log2_shiftLeft_le (n.toNat : Int).toNat (0 - t).toNat
    rw [Int.toNat_natCast] at hshift ⊢
    omega

/-! ## Doubles -/

theorem isFinite_double {x : Float} : x.isFinite = (ofDouble x).isFinite := rfl

theorem within_toFloat (n : UInt64) : Within 64 (ofDouble n.toFloat) :=
  within_unpack_pack (within_ofUInt64 n) (by decide) (by decide)

theorem isFinite_of_reachesOne {x : Float} (h : reachesOne (ofDouble x) = true) :
    x.isFinite = true := by
  rw [isFinite_double]
  unfold reachesOne at h
  split at h
  · rename_i heq
    rw [heq]
    rfl
  · cases h

/-- **Dividing by a double whose size is not below one** keeps a double small. -/
theorem within_divide {x y : Float} (hx : Within b (ofDouble x))
    (hy : reachesOne (ofDouble y) = true) (hlow : -1022 ≤ b) (hhigh : b < 971) :
    Within (b + 1) (ofDouble (x / y)) := by
  unfold reachesOne at hy
  split at hy
  · rename_i t m e hm heq
    have hone : 0 ≤ m.log2 + e := of_decide_eq_true hy
    change Within (b + 1) (UnpackedFloat.unpack .binary64 (UnpackedFloat.pack .binary64
      (UnpackedFloat.div .binary64 (ofDouble x) (ofDouble y))))
    rw [heq]
    exact within_unpack_pack (within_div hx hone hlow) (by omega) (by omega)
  · cases hy

/-- **The negative of a finite double** is finite. -/
theorem isFinite_neg {x : Float} (h : x.isFinite = true) : (-x).isFinite = true := by
  change (UnpackedFloat.unpack .binary64 (UnpackedFloat.pack .binary64 (ofDouble x).neg)).isFinite
    = true
  rw [isFinite_double] at h
  cases hx : ofDouble x with
  | zero s =>
    have hzero : Within 0 (.zero (-s)) := trivial
    exact isFinite_of_within (within_unpack_pack hzero (by decide) (by decide))
  | finite s m e hm => exact isFinite_unpack_pack (exponent_le_of_unpack hx)
  | infinity s =>
    rw [hx] at h
    cases h
  | notANumber =>
    rw [hx] at h
    cases h

/-- What is finite before it is packed is a number behind it. -/
theorem isFinite_of_not_isInf (h : u.isFinite = true)
    (hinf : (UnpackedFloat.unpack .binary64 (UnpackedFloat.pack .binary64 u)).isInf = false) :
    (UnpackedFloat.unpack .binary64 (UnpackedFloat.pack .binary64 u)).isFinite = true := by
  cases u with
  | zero s =>
    have hzero : Within 0 (.zero s) := trivial
    exact isFinite_of_within (within_unpack_pack hzero (by decide) (by decide))
  | finite s m e hm =>
    by_cases he : e ≤ 971
    · exact isFinite_unpack_pack he
    · have hbias : Format.binary64.exponentBias = 1023 := by decide
      have hoverflow : 2048 ≤ (e + (1023 : Nat) + (52 : Nat)).toNat + 1 := by omega
      have hpack : UnpackedFloat.pack .binary64 (.finite s m e hm)
          = UnpackedFloat.packedInfinity .binary64 s := by
        simp only [UnpackedFloat.pack, hbias]
        exact if_pos hoverflow
      rw [hpack] at hinf
      simp [UnpackedFloat.packedInfinity, UnpackedFloat.unpack, UnpackedFloat.isInf] at hinf
  | infinity s => cases h
  | notANumber => cases h

/-- **A product of finite doubles** that is not infinite is finite. -/
theorem isFinite_mul {x y : Float} (hx : x.isFinite = true) (hy : y.isFinite = true)
    (h : (x * y).isInf = false) : (x * y).isFinite = true := by
  rw [isFinite_double] at hx hy
  have hproduct : (UnpackedFloat.mul .binary64 (ofDouble x) (ofDouble y)).isFinite = true := by
    cases hu : ofDouble x with
    | infinity s => simp [hu, UnpackedFloat.isFinite] at hx
    | notANumber => simp [hu, UnpackedFloat.isFinite] at hx
    | zero s =>
      cases hv : ofDouble y with
      | zero t => rfl
      | finite t n f hn => rfl
      | infinity t => simp [hv, UnpackedFloat.isFinite] at hy
      | notANumber => simp [hv, UnpackedFloat.isFinite] at hy
    | finite s m e hm =>
      cases hv : ofDouble y with
      | zero t => rfl
      | finite t n f hn =>
        exact isFinite_of_within
          (within_roundWithAccuracy .exact (Int.le_max_left _ _) (Int.le_max_right _ _))
      | infinity t => simp [hv, UnpackedFloat.isFinite] at hy
      | notANumber => simp [hv, UnpackedFloat.isFinite] at hy
  exact isFinite_of_not_isInf hproduct h

/-! ## Powers of ten -/

/-- The bits of a power of ten, with as many behind it as a double has. -/
theorem log2_powerOfTen {k : Nat} (h : k < 308) :
    53 ≤ ((1 <<< 53) * Nat.pow 10 k).log2 ∧ ((1 <<< 53) * Nat.pow 10 k).log2 ≤ 1075 := by
  have hlow : (1 <<< 53) ≤ (1 <<< 53) * Nat.pow 10 k :=
    Nat.le_mul_of_pos_right _ (Nat.pow_pos (by decide))
  obtain ⟨i, j, hsum, hi, hj⟩ : ∃ i j, i + j = k ∧ i ≤ 256 ∧ j ≤ 51 :=
    ⟨min k 256, k - 256, by omega, by omega, by omega⟩
  have hpower : Nat.pow 10 k ≤ Nat.pow 10 256 * Nat.pow 10 51 :=
    calc Nat.pow 10 k = Nat.pow 10 i * Nat.pow 10 j := hsum ▸ Nat.pow_add 10 i j
      _ ≤ Nat.pow 10 256 * Nat.pow 10 51 :=
        Nat.mul_le_mul (Nat.pow_le_pow_right (by decide) hi) (Nat.pow_le_pow_right (by decide) hj)
  have hhigh := Nat.mul_le_mul_left (1 <<< 53) hpower
  exact ⟨Nat.le_trans (by decide) (log2_mono hlow),
    Nat.le_trans (log2_mono hhigh) (by decide +kernel)⟩

/-- A power of ten that is not looked up is rounded from its digits. -/
theorem ofDouble_ofScientific {k : Nat} (h : 22 < k) (hk : k ≤ 2048) :
    ofDouble (Float.ofScientific 1 false k)
      = UnpackedFloat.unpack .binary64 (UnpackedFloat.pack .binary64
        (UnpackedFloat.roundWithAccuracy .binary64 .positive ((1 <<< 53) * Nat.pow 10 k) (-53)
          .exact)) := by
  have hslow : ¬ (1 < 9007199254740992 ∧ k ≤ 22) := by omega
  have hsmall : ¬ (k : Int) > 2048 := by omega
  have hlarge : ¬ (k : Int) < -(2048 + (1 : Nat).log2) := by omega
  have hup : (0 : Int) ≤ k := by omega
  have hmodel : Float.ofScientific 1 false k = ⟨.ofScientific 1 k⟩ := by
    rw [Float.ofScientific]
    exact dif_neg hslow
  have hpower : UnpackedFloat.ofScientific .binary64 1 k
      = UnpackedFloat.roundWithAccuracy .binary64 .positive ((1 <<< 53) * Nat.pow 10 k) (-53)
        .exact := by
    rw [UnpackedFloat.ofScientific, dif_neg Nat.one_ne_zero]
    exact (if_neg hsmall).trans ((if_neg hlarge).trans (if_pos hup))
  rw [hmodel, ← hpower]
  rfl

/-- **A power of ten** is finite and not below one, as long as there is a double
for it. -/
theorem reachesOne_ofScientific {k : Nat} (h : k < 309) :
    reachesOne (ofDouble (Float.ofScientific 1 false k)) = true := by
  -- The first powers are looked up; the last one is at the edge of the doubles.
  have hfirst : ∀ k < 23, reachesOne (ofDouble (Float.ofScientific 1 false k)) = true := by
    decide +kernel
  have hlast : reachesOne (ofDouble (Float.ofScientific 1 false 308)) = true := by
    decide +kernel
  rcases Nat.lt_or_ge k 23 with hk | hk
  · exact hfirst k hk
  by_cases hedge : k = 308
  · rw [hedge]
    exact hlast
  obtain ⟨hlow, hhigh⟩ := log2_powerOfTen (k := k) (by omega)
  obtain ⟨m, e, hm, hround, hwidth, hsize, hsize'⟩ :=
    roundWithAccuracy_normal (m := (1 <<< 53) * Nat.pow 10 k) (e := -53) .positive .exact
      (by omega) (by omega)
  have hexponent := exponent_pack .positive (e := e) hm (by omega)
  rw [if_pos hwidth] at hexponent
  rw [ofDouble_ofScientific hk (by omega), hround]
  exact reachesOne_unpack (by omega) (by omega)

end Binary

end ParticleTimeline
