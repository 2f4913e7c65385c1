import ParticleTimeline.Number.Scalar
/-!
# Doubles that are not below zero

Whether a double is a number that is not below zero can be read off its parts
(`zero_le_unpacked`). The larger of two doubles is one that is a number if
there is one, so a maximum that begins with zero is always a number that is
not below zero (`zero_le_foldl_max`). Taking the larger of it and zero once
more then changes no more than the sign of a zero (`same_max_zero`).
-/

namespace ParticleTimeline

open Float.Model

/-- A number that is not below zero, by its parts. -/
def notBelowZero : UnpackedFloat → Bool
  | .infinity .positive | .zero _ | .finite .positive .. => true
  | _ => false

theorem zero_le_unpacked (u : UnpackedFloat) :
    UnpackedFloat.le (.zero .positive) u = notBelowZero u := by
  rcases u with ⟨_ | _⟩ | _ | _ | ⟨_ | _, m, e, h⟩ <;> rfl

/-- What is not below zero is not below anything that is. -/
theorem le_unpacked_eq_false {u v : UnpackedFloat} (hu : notBelowZero u = true)
    (hv : notBelowZero v = false) : UnpackedFloat.le u v = false := by
  rcases u with ⟨_ | _⟩ | _ | _ | ⟨_ | _, m, e, h⟩ <;>
    rcases v with ⟨_ | _⟩ | _ | _ | ⟨_ | _, m', e', h'⟩ <;>
    first
    | rfl
    | exact absurd hu Bool.false_ne_true
    | exact absurd hv.symm Bool.false_ne_true

/-- What compares with zero compares with itself. -/
theorem le_unpacked_refl {u : UnpackedFloat} (h : notBelowZero u = true) :
    UnpackedFloat.le u u = true := by
  rcases u with ⟨_ | _⟩ | _ | _ | ⟨_ | _, m, e, hm⟩
  · rfl
  · rfl
  · exact h
  · rfl
  · exact absurd h Bool.false_ne_true
  · have hequal : (compare e e).then (compare m m) = .eq := by
      simp only [Std.compare_self, Ordering.then_self]
    change ((compare e e).then (compare m m)).isLE = true
    rw [hequal]
    rfl

namespace Scalar

theorem le_iff_unpack {x y : Float} :
    x ≤ y ↔ UnpackedFloat.le x.toModel.unpack y.toModel.unpack = true := by
  change (decide (x.toModel ≤ y.toModel) = true) ↔ _
  rw [decide_eq_true_iff]
  rfl

theorem zero_le_iff_unpack {x : Float} :
    (0.0 : Float) ≤ x ↔ notBelowZero x.toModel.unpack = true := by
  have hzero : (0.0 : Float).toModel.unpack = .zero .positive := rfl
  rw [le_iff_unpack, hzero, zero_le_unpacked]

theorem zero_le_trans {x y : Float} (hx : (0.0 : Float) ≤ x) (hxy : x ≤ y) : (0.0 : Float) ≤ y := by
  rw [zero_le_iff_unpack] at *
  rw [le_iff_unpack] at hxy
  cases hy : notBelowZero y.toModel.unpack with
  | true => rfl
  | false => exact absurd (le_unpacked_eq_false hx hy ▸ hxy) Bool.false_ne_true

theorem le_refl_of_zero_le {x : Float} (h : (0.0 : Float) ≤ x) : x ≤ x :=
  le_iff_unpack.2 (le_unpacked_refl (zero_le_iff_unpack.1 h))

theorem zero_le_max {x : Float} (h : (0.0 : Float) ≤ x) (y : Float) :
    (0.0 : Float) ≤ Scalar.max x y := by
  have hnumber : isNumber x = true := decide_eq_true (le_refl_of_zero_le h)
  unfold Scalar.max
  split
  · rename_i hle
    have hxy : x ≤ y := by
      simpa [hnumber, le] using hle
    exact zero_le_trans h hxy
  · exact h

/-- **A maximum that begins with zero** is not below zero. -/
theorem zero_le_foldl_max (ys : List Float) {x : Float} (h : (0.0 : Float) ≤ x) :
    (0.0 : Float) ≤ ys.foldl Scalar.max x := by
  induction ys generalizing x with
  | nil => exact h
  | cons y ys ih => exact ih (zero_le_max h y)

/-- The larger of zero and what is not below zero is the same number. -/
theorem same_max_zero {x : Float} (h : (0.0 : Float) ≤ x) :
    Scalar.same (Scalar.max x Scalar.zero) x = true := by
  have hzero : (Scalar.zero : Float) = 0.0 := rfl
  have hnumber : isNumber x = true := decide_eq_true (le_refl_of_zero_le h)
  unfold Scalar.max
  rw [hzero, hnumber]
  split
  · rename_i hle
    have hle : x ≤ (0.0 : Float) := by simpa [le] using hle
    simp only [same, le, h, hle, decide_true, Bool.and_self]
  · simp only [same, le, le_refl_of_zero_le h, decide_true, Bool.and_self]

end Scalar

end ParticleTimeline
