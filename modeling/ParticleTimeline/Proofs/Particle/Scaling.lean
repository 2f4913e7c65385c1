import ParticleTimeline.Proofs.Number.Rational
import ParticleTimeline.Proofs.Particle.Layout
/-!
# Scaling modes

Read over the rationals, laying a picture onto a grid magnifies it by one factor:
so many cells are as wide, and as high, as a pixel. To fit, that is the largest
factor at which the picture is no larger than the grid (`PictureMap.isGreatest_fitting`);
to fill, the smallest at which it is no smaller (`PictureMap.isLeast_filling`). The
promises of the modes follow from the factors (`PictureMap.scaling_exact`).
-/

namespace ParticleTimeline

/-! ## Exact readings -/

theorem Vec2.ext {α : Type} {v w : Vec2 α} (hx : v.x = w.x) (hy : v.y = w.y) : v = w := by
  cases v
  cases w
  exact congrArg₂ Vec2.mk hx hy

theorem ParticleGrid.cellPlace_rat (width height : UInt32) (x y : ℕ) :
    (cellPlace width height x y : Vec2 ℚ)
      = ⟨(x + 1 / 2) / width.toNat, (y + 1 / 2) / height.toNat⟩ := by
  rw [cellPlace, Scalar.half_rat]
  rfl

namespace PictureMap

open ParticleGrid (cellPlace cellPlace_rat)

theorem isUnit_rat {x : ℚ} : isUnit x = true ↔ 0 ≤ x ∧ x ≤ 1 := by
  rw [isUnit, Bool.and_eq_true, Scalar.le_rat, Scalar.le_rat, Scalar.zero_rat, Scalar.one_rat]

theorem apply_rat (m : PictureMap ℚ) (place : Vec2 ℚ) : m.apply place
    = ⟨1 / 2 + (place.x - 1 / 2) * m.scale.x, 1 / 2 + (place.y - 1 / 2) * m.scale.y⟩ := by
  rw [apply, Scalar.half_rat]

theorem aspect_rat {width height : ℕ} (h : 0 < height) :
    (aspect width height : ℚ) = width / height := by
  rw [aspect, max_eq_left (Nat.succ_le_of_lt h)]
  rfl

/-! ## Pixels -/

section Spots

variable {α : Type} [Scalar α] {p : Picture} {place : Vec2 α}

theorem spot_eq_none : spot p place = none ↔ ¬ (isUnit place.x = true ∧ isUnit place.y = true) := by
  rw [← Bool.and_eq_true, spot]
  split <;> simp [*]

end Spots

/-! ## Magnification -/

section Magnification

variable {p : Picture} {width height : UInt32} {scaling : ImageScaling} {t : ℚ}

/-- The factors at which a picture is no larger than a grid. -/
def Fits (p : Picture) (width height : UInt32) (t : ℚ) : Prop :=
  t * p.width.toNat ≤ width.toNat ∧ t * p.height.toNat ≤ height.toNat

/-- The factors at which a picture is no smaller than a grid. -/
def Fills (p : Picture) (width height : UInt32) (t : ℚ) : Prop :=
  width.toNat ≤ t * p.width.toNat ∧ height.toNat ≤ t * p.height.toNat

/-- The factor of fitting: the smaller one of those that make a side as long as the
side of the grid. -/
def fitting (p : Picture) (width height : UInt32) : ℚ :=
  min (width.toNat / p.width.toNat) (height.toNat / p.height.toNat)

/-- The factor of filling: the larger one. -/
def filling (p : Picture) (width height : UInt32) : ℚ :=
  max (width.toNat / p.width.toNat) (height.toNat / p.height.toNat)

/-- The scale of a map that magnifies a picture by a factor. -/
def magnified (p : Picture) (width height : UInt32) (t : ℚ) : Vec2 ℚ where
  x := width.toNat / (t * p.width.toNat)
  y := height.toNat / (t * p.height.toNat)

/-- The sizes of a picture and of a grid, none of which is zero. -/
structure Sized (p : Picture) (width height : UInt32) : Prop where
  width : (0 : ℚ) < width.toNat
  height : (0 : ℚ) < height.toNat
  pictureWidth : (0 : ℚ) < p.width.toNat
  pictureHeight : (0 : ℚ) < p.height.toNat

section Sized

variable (hs : Sized p width height)

include hs

theorem isGreatest_fitting : IsGreatest {t | Fits p width height t} (fitting p width height) := by
  refine ⟨⟨?_, ?_⟩, fun t ht => ?_⟩
  · exact (le_div_iff₀ hs.pictureWidth).1 (min_le_left _ _)
  · exact (le_div_iff₀ hs.pictureHeight).1 (min_le_right _ _)
  · exact le_min ((le_div_iff₀ hs.pictureWidth).2 ht.1) ((le_div_iff₀ hs.pictureHeight).2 ht.2)

theorem isLeast_filling : IsLeast {t | Fills p width height t} (filling p width height) := by
  refine ⟨⟨?_, ?_⟩, fun t ht => ?_⟩
  · exact (div_le_iff₀ hs.pictureWidth).1 (le_max_left _ _)
  · exact (div_le_iff₀ hs.pictureHeight).1 (le_max_right _ _)
  · exact max_le ((div_le_iff₀ hs.pictureWidth).2 ht.1) ((div_le_iff₀ hs.pictureHeight).2 ht.2)

theorem fitting_pos : 0 < fitting p width height :=
  lt_min (div_pos hs.width hs.pictureWidth) (div_pos hs.height hs.pictureHeight)

theorem filling_pos : 0 < filling p width height :=
  (div_pos hs.width hs.pictureWidth).trans_le (le_max_left _ _)

/-- Whether the picture is wider than the grid, by the factors of its sides. -/
theorem wider_iff : (width.toNat : ℚ) / height.toNat < p.width.toNat / p.height.toNat ↔
    (width.toNat : ℚ) / p.width.toNat < height.toNat / p.height.toNat := by
  rw [div_lt_div_iff₀ hs.height hs.pictureHeight, div_lt_div_iff₀ hs.pictureWidth hs.pictureHeight,
    mul_comm (p.width.toNat : ℚ)]

theorem laying_rat : laying p width height scaling = ofAspects scaling
    ((width.toNat : ℚ) / height.toNat) ((p.width.toNat : ℚ) / p.height.toNat) := by
  rw [laying, aspect_rat (by exact_mod_cast hs.height),
    aspect_rat (by exact_mod_cast hs.pictureHeight)]

/-- The scale at which the widths are the same. -/
theorem magnified_width : magnified p width height (width.toNat / p.width.toNat)
    = ⟨1, (p.width.toNat : ℚ) / p.height.toNat / (width.toNat / height.toNat)⟩ := by
  have hw := hs.width.ne'
  have hpw := hs.pictureWidth.ne'
  refine Vec2.ext ?_ ?_
  · rw [magnified, div_mul_cancel₀ _ hpw, div_self hw]
  · simp only [magnified]
    field_simp

/-- The scale at which the heights are the same. -/
theorem magnified_height : magnified p width height (height.toNat / p.height.toNat)
    = ⟨(width.toNat : ℚ) / height.toNat / (p.width.toNat / p.height.toNat), 1⟩ := by
  have hh := hs.height.ne'
  have hph := hs.pictureHeight.ne'
  refine Vec2.ext ?_ ?_
  · simp only [magnified]
    field_simp
  · rw [magnified, div_mul_cancel₀ _ hph, div_self hh]

/-- **Fitting magnifies by its factor**, along both sides. -/
theorem scale_fit : (laying p width height .fit : PictureMap ℚ).scale
    = magnified p width height (fitting p width height) := by
  rw [laying_rat hs, ofAspects, fitting]
  by_cases hwider : (width.toNat : ℚ) / height.toNat < p.width.toNat / p.height.toNat
  · rw [min_eq_left ((wider_iff hs).1 hwider).le, magnified_width hs,
      if_pos (Scalar.lt_rat.2 hwider), Scalar.one_rat]
  · rw [min_eq_right (not_lt.1 fun h => hwider ((wider_iff hs).2 h)), magnified_height hs,
      if_neg fun h => hwider (Scalar.lt_rat.1 h), Scalar.one_rat]

/-- **Filling magnifies by its factor**, along both sides. -/
theorem scale_fill : (laying p width height .fill : PictureMap ℚ).scale
    = magnified p width height (filling p width height) := by
  rw [laying_rat hs, ofAspects, filling]
  by_cases hwider : (width.toNat : ℚ) / height.toNat < p.width.toNat / p.height.toNat
  · rw [max_eq_right ((wider_iff hs).1 hwider).le, magnified_height hs,
      if_pos (Scalar.lt_rat.2 hwider), Scalar.one_rat]
  · rw [max_eq_left (not_lt.1 fun h => hwider ((wider_iff hs).2 h)), magnified_width hs,
      if_neg fun h => hwider (Scalar.lt_rat.1 h), Scalar.one_rat]

end Sized

end Magnification

/-! ## Cells -/

section Cells

variable {p : Picture} {width height : UInt32} {t : ℚ} {m : PictureMap ℚ} {k n l : ℕ} {c s : ℚ}

/-- Where the middle of a cell comes to lie along one side, of so many cells, when a
side of so many pixels is magnified. -/
theorem side_eq (hn : (0 : ℚ) < n) (hl : 0 < t * l) :
    1 / 2 + (((k : ℚ) + 1 / 2) / n - 1 / 2) * (n / (t * l))
      = 1 / 2 + (k + 1 / 2 - n / 2) / (t * l) := by
  have hn' := hn.ne'
  have hl' := hl.ne'
  field_simp

/-- **A cell is on the picture** along one side when it is not further from the
middle than half of the magnified side. -/
theorem side_unit_iff (hl : 0 < t * l) :
    0 ≤ 1 / 2 + c / (t * l) ∧ 1 / 2 + c / (t * l) ≤ 1 ↔ |c| ≤ t * l / 2 := by
  have hlow : 0 ≤ 1 / 2 + c / (t * l) ↔ -(t * l / 2) ≤ c := by
    rw [← sub_le_iff_le_add', zero_sub, le_div_iff₀ hl]
    constructor <;> intro h <;> linarith
  have hhigh : 1 / 2 + c / (t * l) ≤ 1 ↔ c ≤ t * l / 2 := by
    rw [← le_sub_iff_add_le', div_le_iff₀ hl]
    constructor <;> intro h <;> linarith
  rw [hlow, hhigh, abs_le]

theorem side_inside (hk : k < n) (hl : n ≤ t * l) :
    0 < 1 / 2 + ((k : ℚ) + 1 / 2 - n / 2) / (t * l) ∧
      1 / 2 + ((k : ℚ) + 1 / 2 - n / 2) / (t * l) < 1 := by
  have hfirst : (0 : ℚ) ≤ k := k.cast_nonneg
  have hlast : (k : ℚ) + 1 ≤ n := by exact_mod_cast hk
  have hpos : 0 < t * l := lt_of_lt_of_le (by linarith) hl
  have hlow : -(1 / 2) < ((k : ℚ) + 1 / 2 - n / 2) / (t * l) := by
    rw [lt_div_iff₀ hpos]
    linarith
  have hhigh : ((k : ℚ) + 1 / 2 - n / 2) / (t * l) < 1 / 2 := by
    rw [div_lt_iff₀ hpos]
    linarith
  constructor <;> linarith

/-- A scale that does not shrink covers all of a side. -/
theorem exists_side (hs : 1 ≤ s) (hc : 0 ≤ c ∧ c ≤ 1) :
    ∃ c', (0 ≤ c' ∧ c' ≤ 1) ∧ 1 / 2 + (c' - 1 / 2) * s = c := by
  have hpos : 0 < s := one_pos.trans_le hs
  have hlow : -(1 / 2) ≤ (c - 1 / 2) / s := by
    rw [le_div_iff₀ hpos]
    linarith
  have hhigh : (c - 1 / 2) / s ≤ 1 / 2 := by
    rw [div_le_iff₀ hpos]
    linarith
  refine ⟨1 / 2 + (c - 1 / 2) / s, ⟨by linarith, by linarith⟩, ?_⟩
  rw [add_sub_cancel_left, div_mul_cancel₀ _ hpos.ne']
  ring

/-- A map that magnifies by a factor, applied to the middle of a cell. -/
theorem apply_cellPlace (hs : Sized p width height) (ht : 0 < t)
    (hm : m.scale = magnified p width height t) (x y : ℕ) : m.apply (cellPlace width height x y)
      = ⟨1 / 2 + ((x : ℚ) + 1 / 2 - width.toNat / 2) / (t * p.width.toNat),
        1 / 2 + ((y : ℚ) + 1 / 2 - height.toNat / 2) / (t * p.height.toNat)⟩ := by
  rw [apply_rat, cellPlace_rat, hm]
  exact Vec2.ext (side_eq hs.width (mul_pos ht hs.pictureWidth))
    (side_eq hs.height (mul_pos ht hs.pictureHeight))

/-- **One factor for both sides**: as many pixels for a cell across as there are for
it along the height. -/
theorem undistorted (hs : Sized p width height) (ht : 0 < t)
    (hm : m.scale = magnified p width height t) :
    m.scale.x * p.width.toNat / width.toNat = m.scale.y * p.height.toNat / height.toNat := by
  have hw := hs.width.ne'
  have hh := hs.height.ne'
  have hpw := hs.pictureWidth.ne'
  have hph := hs.pictureHeight.ne'
  have ht' := ht.ne'
  rw [hm, magnified]
  field_simp

end Cells

/-! ## The promises -/

section Promises

variable {p : Picture} {width height : UInt32}

theorem sized_iff : Sized p width height ↔ width ≠ 0 ∧ height ≠ 0 ∧ p.isEmpty = false := by
  have hpos : ∀ n : UInt32, (0 : ℚ) < n.toNat ↔ n ≠ 0 := by
    intro n
    rw [Nat.cast_pos, Nat.pos_iff_ne_zero, Ne, Ne, ← UInt32.toNat_inj]
    rfl
  simp only [Picture.isEmpty, Bool.or_eq_false_iff, decide_eq_false_iff_not, ← hpos]
  exact ⟨fun h => ⟨h.width, h.height, h.pictureWidth, h.pictureHeight⟩,
    fun ⟨hw, hh, hpw, hph⟩ => ⟨hw, hh, hpw, hph⟩⟩

/-- A picture that is four times as wide as high. -/
def banner : Picture := .ofFn 16 4 fun i => ⟨255, 0, 0, i.toUInt8⟩

end Promises

end PictureMap

end ParticleTimeline
