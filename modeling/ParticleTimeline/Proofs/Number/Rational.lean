import Mathlib.Data.Rat.Floor
import Mathlib.Tactic.Linarith
import ParticleTimeline.Number.Scalar
/-!
# Exact numbers

The formulas that are written over `Scalar` can be read over the rationals,
where nothing rounds. Their operations there are the usual ones.
-/

namespace ParticleTimeline

instance : Scalar ℚ where
  natural n := n
  lt x y := x < y
  le x y := x ≤ y
  remEuclid x y := x - |y| * ⌊x / |y|⌋
  truncate x := UInt32.ofNat (min ⌊x⌋.toNat (UInt32.size - 1))

namespace Scalar

@[simp] theorem natural_rat (n : Nat) : (natural n : ℚ) = n := rfl

@[simp] theorem zero_rat : (zero : ℚ) = 0 := Nat.cast_zero

@[simp] theorem one_rat : (one : ℚ) = 1 := Nat.cast_one

@[simp] theorem half_rat : (half : ℚ) = 1 / 2 := by
  change ((1 : ℕ) : ℚ) / ((2 : ℕ) : ℚ) = 1 / 2
  norm_num

theorem epsilon_rat : (epsilon : ℚ) = 1 / 2 ^ 23 := by
  change ((1 : ℕ) : ℚ) / ((8388608 : ℕ) : ℚ) = 1 / 2 ^ 23
  norm_num

@[simp] theorem lt_rat {x y : ℚ} : lt x y = true ↔ x < y := decide_eq_true_iff

@[simp] theorem le_rat {x y : ℚ} : le x y = true ↔ x ≤ y := decide_eq_true_iff

@[simp] theorem same_rat {x y : ℚ} : same x y = true ↔ x = y := by
  rw [same, Bool.and_eq_true, le_rat, le_rat]
  exact ⟨fun h => le_antisymm h.1 h.2, fun h => ⟨h.le, h.ge⟩⟩

theorem isNumber_rat (x : ℚ) : isNumber x = true := le_rat.2 le_rfl

@[simp] theorem max_rat (x y : ℚ) : max x y = x ⊔ y := by
  rw [max, isNumber_rat, Bool.not_true, Bool.or_false, max_def]
  exact if_congr le_rat rfl rfl

@[simp] theorem min_rat (x y : ℚ) : min x y = x ⊓ y := by
  rw [min, isNumber_rat, Bool.not_true, Bool.or_false, min_comm, min_def]
  exact if_congr le_rat rfl rfl

/-- A whole number of divisors is taken away. -/
theorem remEuclid_rat {x y : ℚ} {n : ℤ} (hlow : n * y ≤ x) (hhigh : x < (n + 1) * y) :
    remEuclid x y = x - n * y := by
  have hpos : 0 < y := by linarith
  have hfloor : ⌊x / |y|⌋ = n := by
    rw [abs_of_pos hpos, Int.floor_eq_iff, le_div_iff₀ hpos, div_lt_iff₀ hpos]
    exact ⟨hlow, hhigh⟩
  change x - |y| * ⌊x / |y|⌋ = x - n * y
  rw [hfloor, abs_of_pos hpos, mul_comm]

end Scalar

end ParticleTimeline
