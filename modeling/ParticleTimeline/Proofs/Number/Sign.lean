import ParticleTimeline.Proofs.Number.Order
import ParticleTimeline.Proofs.Number.Value
/-!
# Calculations that do not go below zero

Rounding keeps the sign of a number, and so does the range of the doubles: a
number that is too large for it becomes an infinity of its sign
(`Binary.notBelowZero_unpack_pack`). So sums of doubles that are not below zero
are not below zero, and neither are products and quotients with a positive
number (`Scalar.zero_le_add`, `Scalar.zero_le_mul`, `Scalar.zero_le_div`), nor
is the double of a natural number (`Scalar.zero_le_natural`).
-/

namespace ParticleTimeline

open Float.Model
open Float.Model.UnpackedFloat (Accuracy Sign)

namespace Binary

variable {spec : Format} {u v : Parts}

/-- What is not below zero is an infinity, a zero or a positive number. -/
theorem notBelowZero_cases (h : notBelowZero u = true) :
    u = .infinity .positive ∨ (∃ s, u = .zero s) ∨ ∃ m e hm, u = .finite .positive m e hm := by
  rcases u with ⟨_ | _⟩ | _ | s | ⟨_ | _, m, e, hm⟩
  · cases h
  · exact .inl rfl
  · cases h
  · exact .inr (.inl ⟨s, rfl⟩)
  · cases h
  · exact .inr (.inr ⟨m, e, hm, rfl⟩)

/-- A finite number above zero, by its parts. -/
def aboveZero : Parts → Bool
  | .finite .positive .. => true
  | _ => false

theorem aboveZero_cases (h : aboveZero u = true) : ∃ m e hm, u = .finite .positive m e hm := by
  rcases u with _ | _ | _ | ⟨_ | _, m, e, hm⟩
  · cases h
  · cases h
  · cases h
  · cases h
  · exact ⟨m, e, hm, rfl⟩

/-- Parts that are packed with an exponent of a finite number keep their sign. -/
theorem notBelowZero_unpack_packComponents {exponent : BitVec spec.exponentBits}
    {mantissa : BitVec spec.mantissaBitsWithoutImplicit} (h : exponent ≠ -1#_) :
    notBelowZero (UnpackedFloat.unpack spec
      (UnpackedFloat.packComponents spec .positive exponent mantissa)) = true := by
  simp only [UnpackedFloat.unpack, UnpackedFloat.unpackExponent_packComponents,
    UnpackedFloat.unpackMantissa_packComponents, UnpackedFloat.unpackSign_packComponents,
    Sign.ofBitVec_toBitVec, if_neg h]
  split
  · split <;> rfl
  · rfl

/-- **A number that is packed keeps its sign.** -/
theorem notBelowZero_unpack_pack (h : notBelowZero u = true) :
    notBelowZero (UnpackedFloat.unpack spec (UnpackedFloat.pack spec u)) = true := by
  rcases notBelowZero_cases h with rfl | ⟨s, rfl⟩ | ⟨m, e, hm, rfl⟩
  · simp [UnpackedFloat.pack, UnpackedFloat.packedInfinity, UnpackedFloat.unpack, notBelowZero]
  · rw [UnpackedFloat.pack, UnpackedFloat.unpack_packedZero]
    rfl
  · have hpower := Nat.one_lt_two_pow spec.he.ne'
    simp only [UnpackedFloat.pack]
    split
    · simp [UnpackedFloat.packedInfinity, UnpackedFloat.unpack, notBelowZero]
    · split
      · exact notBelowZero_unpack_packComponents (ofNat_ne_allOnes (by omega))
      · exact notBelowZero_unpack_packComponents (ofNat_ne_allOnes (by omega))

/-! ## Operations on parts -/

theorem notBelowZero_roundWithAccuracy (m : Nat) (e : Int) (accuracy : Accuracy) :
    notBelowZero (UnpackedFloat.roundWithAccuracy spec .positive m e accuracy) = true := by
  obtain ⟨r, e', -, -, -, hround⟩ := roundWithAccuracy_eq spec .positive m e accuracy
  rw [hround]
  split <;> rfl

theorem notBelowZero_normalize {n : Int} (h : 0 ≤ n) (e : Int) (zeroSign : Sign) :
    notBelowZero (UnpackedFloat.normalize spec n e zeroSign) = true := by
  rw [UnpackedFloat.normalize]
  split
  · rename_i hnegative
    rw [Int.compare_eq_lt] at hnegative
    omega
  · rfl
  · exact notBelowZero_roundWithAccuracy _ _ _

/-- A sum of numbers that are not below zero. -/
theorem notBelowZero_add (hu : notBelowZero u = true) (hv : notBelowZero v = true) :
    notBelowZero (UnpackedFloat.add spec u v) = true := by
  rcases notBelowZero_cases hu with rfl | ⟨s, rfl⟩ | ⟨m, e, hm, rfl⟩
  · rcases notBelowZero_cases hv with rfl | ⟨t, rfl⟩ | ⟨n, f, hn, rfl⟩ <;> rfl
  · rcases notBelowZero_cases hv with rfl | ⟨t, rfl⟩ | ⟨n, f, hn, rfl⟩
    · rfl
    · rw [UnpackedFloat.add]
      split <;> rfl
    · rfl
  · rcases notBelowZero_cases hv with rfl | ⟨t, rfl⟩ | ⟨n, f, hn, rfl⟩
    · rfl
    · rfl
    · exact notBelowZero_normalize (by simp only [Sign.apply]; positivity) _ _

variable {m : Nat} {e : Int} {hm : 0 < m}

/-- A product with a positive number. -/
theorem notBelowZero_mul (hu : notBelowZero u = true) :
    notBelowZero (UnpackedFloat.mul spec u (.finite .positive m e hm)) = true := by
  rcases notBelowZero_cases hu with rfl | ⟨s, rfl⟩ | ⟨n, f, hn, rfl⟩
  · rfl
  · rfl
  · exact notBelowZero_roundWithAccuracy _ _ _

/-- A quotient by a positive number. -/
theorem notBelowZero_div (hu : notBelowZero u = true) :
    notBelowZero (UnpackedFloat.div spec u (.finite .positive m e hm)) = true := by
  rcases notBelowZero_cases hu with rfl | ⟨s, rfl⟩ | ⟨n, f, hn, rfl⟩
  · rfl
  · rfl
  · exact notBelowZero_roundWithAccuracy _ _ _

theorem notBelowZero_ofUInt64 (n : UInt64) :
    notBelowZero (UnpackedFloat.ofUInt64 spec n) = true := by
  exact notBelowZero_normalize (Int.natCast_nonneg _) _ _

theorem notBelowZero_ofScientific (n : Nat) (e : Int) :
    notBelowZero (UnpackedFloat.ofScientific spec n e) = true := by
  rw [UnpackedFloat.ofScientific]
  split_ifs
  · rfl
  · rfl
  · rfl
  · exact notBelowZero_mul rfl
  · exact notBelowZero_div rfl

end Binary

namespace Scalar

variable {x y : Float}

theorem zero_le_add (hx : (0.0 : Float) ≤ x) (hy : (0.0 : Float) ≤ y) : (0.0 : Float) ≤ x + y := by
  rw [zero_le_iff_unpack] at *
  exact Binary.notBelowZero_unpack_pack (Binary.notBelowZero_add hx hy)

/-- A double that is a finite number above zero. -/
def IsPositive (x : Float) : Prop := Binary.aboveZero (Binary.ofDouble x) = true

instance (x : Float) : Decidable (IsPositive x) :=
  inferInstanceAs (Decidable (Binary.aboveZero (Binary.ofDouble x) = true))

theorem zero_le_mul (hx : (0.0 : Float) ≤ x) (hy : IsPositive y) : (0.0 : Float) ≤ x * y := by
  obtain ⟨m, e, hm, hparts⟩ := Binary.aboveZero_cases hy
  rw [zero_le_iff_unpack] at *
  have hmul : notBelowZero
      (UnpackedFloat.mul .binary64 (Binary.ofDouble x) (Binary.ofDouble y)) = true := by
    rw [hparts]
    exact Binary.notBelowZero_mul hx
  exact Binary.notBelowZero_unpack_pack hmul

theorem zero_le_div (hx : (0.0 : Float) ≤ x) (hy : IsPositive y) : (0.0 : Float) ≤ x / y := by
  obtain ⟨m, e, hm, hparts⟩ := Binary.aboveZero_cases hy
  rw [zero_le_iff_unpack] at *
  have hdiv : notBelowZero
      (UnpackedFloat.div .binary64 (Binary.ofDouble x) (Binary.ofDouble y)) = true := by
    rw [hparts]
    exact Binary.notBelowZero_div hx
  exact Binary.notBelowZero_unpack_pack hdiv

theorem isPositive_powerOfTen : ∀ _ : 0 < Float.exactlyRepresentablePowersOfTen.size,
    IsPositive Float.exactlyRepresentablePowersOfTen[0] := by
  decide +kernel

theorem zero_le_natural (n : Nat) : (0.0 : Float) ≤ Scalar.natural n := by
  change (0.0 : Float) ≤ Float.ofScientific n false 0
  rw [Float.ofScientific]
  split
  · have hword : (0.0 : Float) ≤ n.toUInt64.toFloat :=
      zero_le_iff_unpack.2 (Binary.notBelowZero_unpack_pack (Binary.notBelowZero_ofUInt64 _))
    exact zero_le_mul hword (isPositive_powerOfTen (by decide))
  · rw [zero_le_iff_unpack]
    exact Binary.notBelowZero_unpack_pack (Binary.notBelowZero_ofScientific n _)

end Scalar

end ParticleTimeline
