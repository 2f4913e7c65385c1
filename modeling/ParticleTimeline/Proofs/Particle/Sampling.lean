import ParticleTimeline.Proofs.Particle.Scaling
/-!
# Sampling whole pixels

On a grid that has a whole number of columns for every column of pixels, and a whole
number of rows for every row, the middle of a cell lies within one pixel, whatever
their numbers are (`PictureMap.spot_cellPlace`). Read over the rationals, a particle
thus gets the colour of that pixel, with the rows counted from the other end
(`ParticleGrid.ofPicture_exact`).
-/

namespace ParticleTimeline

/-! ## Whole parts -/

theorem toNat_min (m n : UInt32) : (min m n).toNat = min m.toNat n.toNat := by
  change (if m ≤ n then m else n).toNat = min m.toNat n.toNat
  simp only [UInt32.le_iff_toNat_le]
  split <;> omega

theorem toNat_truncate {q : ℚ} {n : ℕ} (hlow : (n : ℚ) ≤ q) (hhigh : q < n + 1)
    (hn : n < UInt32.size) : (Scalar.truncate q).toNat = n := by
  have hfloor : ⌊q⌋ = (n : ℤ) := by
    rw [Int.floor_eq_iff]
    exact_mod_cast And.intro hlow hhigh
  change (UInt32.ofNat (min ⌊q⌋.toNat (UInt32.size - 1))).toNat = n
  rw [hfloor, Int.toNat_natCast, min_eq_left (by omega), UInt32.toNat_ofNat_of_lt' hn]

namespace PictureMap

open ParticleGrid (cellPlace cellPlace_rat)

/-- The pixel of a coordinate, along a side of so many pixels. -/
theorem toNat_min_truncate {side : UInt32} {q : ℚ} {n : ℕ} (hlow : (n : ℚ) ≤ q)
    (hhigh : q < n + 1) (hn : n < side.toNat) :
    (min (Scalar.truncate q) (side - 1)).toNat = n := by
  have hone : (1 : UInt32) ≤ side := by
    rw [UInt32.le_iff_toNat_le]
    exact Nat.succ_le_of_lt (Nat.zero_lt_of_lt hn)
  rw [toNat_min, toNat_truncate hlow hhigh (hn.trans side.toNat_lt),
    UInt32.toNat_sub_of_le _ _ hone]
  change min n (side.toNat - 1) = n
  omega

variable {p : Picture} {width height : UInt32} {scaling : ImageScaling} {a b x y : ℕ}

theorem unit_of_scaled {side n : ℕ} {q : ℚ} (hn : n < side)
    (h : (n : ℚ) ≤ q * side ∧ q * side < n + 1) : 0 ≤ q ∧ q ≤ 1 := by
  have hside : (0 : ℚ) < side := by exact_mod_cast Nat.zero_lt_of_lt hn
  have hlast : (n : ℚ) + 1 ≤ side := by exact_mod_cast hn
  refine ⟨nonneg_of_mul_nonneg_left (n.cast_nonneg.trans h.1) hside, ?_⟩
  refine le_of_mul_le_mul_right ?_ hside
  linarith [h.2]

/-- **A place within a pixel** takes its colour from it. -/
theorem spot_of_within {place : Vec2 ℚ} {column row : ℕ} (hcolumn : column < p.width.toNat)
    (hrow : row < p.height.toNat)
    (hx : (column : ℚ) ≤ place.x * p.width.toNat ∧ place.x * p.width.toNat < column + 1)
    (hy : (row : ℚ) ≤ (1 - place.y) * p.height.toNat ∧
      (1 - place.y) * p.height.toNat < row + 1) : spot p place = some (column, row) := by
  have hxunit := unit_of_scaled hcolumn hx
  have hyunit := unit_of_scaled hrow hy
  have hunit : isUnit place.x = true ∧ isUnit place.y = true := by
    rw [isUnit_rat, isUnit_rat]
    exact ⟨hxunit, by linarith [hyunit.2], by linarith [hyunit.1]⟩
  rw [spot, if_pos (Bool.and_eq_true_iff.2 hunit), Scalar.one_rat]
  exact congrArg some (Prod.ext (toNat_min_truncate hx.1 hx.2 hcolumn)
    (toNat_min_truncate hy.1 hy.2 hrow))

/-! ## The middle of a cell -/

/-- So many cells for a pixel: the middle of a cell is within one. -/
theorem cell_within (ha : 0 < a) : ((x / a : ℕ) : ℚ) < (x + 1 / 2) / a ∧
    ((x : ℚ) + 1 / 2) / a < (x / a : ℕ) + 1 := by
  have hpos : (0 : ℚ) < a := by exact_mod_cast ha
  have hlow : (((x / a) * a : ℕ) : ℚ) ≤ x := by exact_mod_cast Nat.div_mul_le_self x a
  have hhigh : (x : ℚ) + 1 ≤ ((x / a + 1) * a : ℕ) := by
    exact_mod_cast Nat.lt_mul_of_div_lt (Nat.lt_succ_self _) ha
  push_cast at hlow hhigh
  constructor
  · rw [lt_div_iff₀ hpos]
    linarith
  · rw [div_lt_iff₀ hpos]
    linarith

/-- Where nothing is stretched, and on a grid of the shape of the picture in every
mode, places of the grid are places of the picture. -/
theorem scale_of_multiple (hs : Sized p width height) (hwidth : width.toNat = a * p.width.toNat)
    (hheight : height.toNat = b * p.height.toNat) (hscaling : scaling = .stretch ∨ a = b) :
    (laying p width height scaling : PictureMap ℚ).scale = ⟨1, 1⟩ := by
  rcases hscaling with rfl | rfl
  · rw [laying_rat hs, ofAspects, Scalar.one_rat]
  have hacross : (width.toNat : ℚ) / p.width.toNat = a := by
    rw [hwidth, Nat.cast_mul, mul_div_cancel_right₀ _ hs.pictureWidth.ne']
  have hdown : (height.toNat : ℚ) / p.height.toNat = a := by
    rw [hheight, Nat.cast_mul, mul_div_cancel_right₀ _ hs.pictureHeight.ne']
  have hone : magnified p width height a = ⟨1, 1⟩ := by
    rw [magnified, ← Nat.cast_mul, ← Nat.cast_mul, ← hwidth, ← hheight, div_self hs.width.ne',
      div_self hs.height.ne']
  cases scaling with
  | stretch => rw [laying_rat hs, ofAspects, Scalar.one_rat]
  | fill => rw [scale_fill hs, filling, hacross, hdown, max_self, hone]
  | fit => rw [scale_fit hs, fitting, hacross, hdown, min_self, hone]

/-- **The middle of a cell lies within the pixel** that its column and row fall into,
with the rows counted from the other end. -/
theorem spot_cellPlace (hs : Sized p width height) (hwidth : width.toNat = a * p.width.toNat)
    (hheight : height.toNat = b * p.height.toNat) (hscaling : scaling = .stretch ∨ a = b)
    (hx : x < width.toNat) (hy : y < height.toNat) :
    x / a < p.width.toNat ∧ y / b < p.height.toNat ∧
      spot p ((laying p width height scaling : PictureMap ℚ).apply (cellPlace width height x y))
        = some (x / a, p.height.toNat - 1 - y / b) := by
  have ha : 0 < a := Nat.pos_of_ne_zero fun h => by simp [hwidth, h] at hx
  have hb : 0 < b := Nat.pos_of_ne_zero fun h => by simp [hheight, h] at hy
  have hcolumn : x / a < p.width.toNat := Nat.div_lt_of_lt_mul (hwidth ▸ hx)
  have hrow : y / b < p.height.toNat := Nat.div_lt_of_lt_mul (hheight ▸ hy)
  refine ⟨hcolumn, hrow, ?_⟩
  have hplace : (laying p width height scaling : PictureMap ℚ).apply (cellPlace width height x y)
      = ⟨(x + 1 / 2) / width.toNat, (y + 1 / 2) / height.toNat⟩ := by
    rw [apply_rat, scale_of_multiple hs hwidth hheight hscaling, cellPlace_rat]
    refine Vec2.ext ?_ ?_ <;> ring
  have hacross : ((x : ℚ) + 1 / 2) / width.toNat * p.width.toNat = (x + 1 / 2) / a := by
    rw [hwidth, Nat.cast_mul, ← div_div, div_mul_cancel₀ _ hs.pictureWidth.ne']
  have hdown : (1 - ((y : ℚ) + 1 / 2) / height.toNat) * p.height.toNat
      = p.height.toNat - (y + 1 / 2) / b := by
    rw [hheight, Nat.cast_mul, ← div_div, sub_mul, one_mul, div_mul_cancel₀ _ hs.pictureHeight.ne']
  -- From here on the rows are counted from the other end.
  have hcast : ((p.height.toNat - 1 - y / b : ℕ) : ℚ) = p.height.toNat - 1 - (y / b : ℕ) := by
    rw [Nat.sub_sub, Nat.cast_sub (by omega)]
    push_cast
    ring
  have hwithin := cell_within (x := x) ha
  have hwithin' := cell_within (x := y) hb
  rw [hplace]
  refine spot_of_within hcolumn ?_ ?_ ?_
  · exact (Nat.sub_le _ _).trans_lt (Nat.sub_lt (Nat.zero_lt_of_lt hrow) one_pos)
  · rw [hacross]
    exact ⟨hwithin.1.le, hwithin.2⟩
  · rw [hdown, hcast]
    constructor <;> linarith [hwithin'.1, hwithin'.2]

end PictureMap

/-! ## Grids -/

namespace ParticleGrid

open PictureMap (laying spot)

variable {p : Picture} {width height : UInt32} {scaling : ImageScaling} {a b : ℕ} {count : UInt32}

/-- **Premultiplied colours**: each channel as a part of 255, times the alpha. -/
theorem premultiplied_rat (q : Pixel) : (q.premultiplied : Vec3 ℚ)
    = ⟨q.r.toNat / 255 * (q.a.toNat / 255), q.g.toNat / 255 * (q.a.toNat / 255),
      q.b.toNat / 255 * (q.a.toNat / 255)⟩ := rfl

/-- A pixel within a picture is one of its pixels. -/
theorem getElem?_pixels {column row : ℕ} (hcolumn : column < p.width.toNat)
    (hrow : row < p.height.toNat) :
    p.pixels[row * p.width.toNat + column]? = some (p.pixel column row) := by
  have hrows : (row + 1) * p.width.toNat ≤ p.height.toNat * p.width.toNat :=
    Nat.mul_le_mul_right _ (Nat.succ_le_of_lt hrow)
  have hin : row * p.width.toNat + column < p.pixels.size := by
    rw [p.size_pixels, Nat.mul_comm p.width.toNat]
    rw [Nat.succ_mul] at hrows
    omega
  rw [Picture.pixel, Array.getD_eq_getD_getElem?, Array.getElem?_eq_getElem hin, Option.getD_some]

/-- The pixel, by column and row, that the particle of a cell takes its colour from. -/
def source (p : Picture) (width height : UInt32) (scaling : ImageScaling) (q : ℕ × ℕ) :
    Option (ℕ × ℕ) :=
  spot p ((laying p width height scaling : PictureMap ℚ).apply (cellPlace width height q.1 q.2))

/-- **The particles of a picture** have the colours of their pixels, black where there
is none. -/
theorem exists_ofPicture (hcount : gridParticleCount width height = .ok count)
    (hp : p.isEmpty = false) : ∃ g : ParticleGrid ℚ, ofPicture p width height scaling = .ok g ∧
      ∀ x < width.toNat, ∀ y < height.toNat, ∃ v, g.vertex? (y * width.toNat + x) = some v ∧
        v.rgb = match source p width height scaling (x, y) with
          | some (column, row) => (p.pixel column row).premultiplied
          | none => ⟨Scalar.zero, Scalar.zero, Scalar.zero⟩ := by
  have hbuild : ∀ g : ParticleGrid ℚ, ofPicture p width height scaling = .ok g ↔
      build width height (fun place => PictureMap.colourAt p
        ((laying p width height scaling).apply place)) = .ok g := by
    intro g
    rw [ofPicture, if_neg (by simp [hp])]
  obtain ⟨g, hg⟩ : ∃ g : ParticleGrid ℚ, ofPicture p width height scaling = .ok g :=
    ofPicture_ok_iff.2 ⟨hp, count, hcount⟩
  have hlaid := laidOut_build ((hbuild g).1 hg)
  exact ⟨g, hg, fun x hx y hy => ⟨_, hlaid.vertex x hx y hy _ rfl, rfl⟩⟩

theorem sized_of_multiple (hcount : gridParticleCount width height = .ok count)
    (hwidth : width.toNat = a * p.width.toNat) (hheight : height.toNat = b * p.height.toNat) :
    PictureMap.Sized p width height := by
  obtain ⟨hone, hone', -⟩ := (gridParticleCount_eq_ok_iff.1 hcount).1
  have hacross : 0 < a * p.width.toNat := hwidth ▸ hone
  have hdown : 0 < b * p.height.toNat := hheight ▸ hone'
  exact ⟨by exact_mod_cast hone, by exact_mod_cast hone',
    by exact_mod_cast Nat.pos_of_mul_pos_left hacross,
    by exact_mod_cast Nat.pos_of_mul_pos_left hdown⟩

/-- **One cell for every pixel**, with the rows turned over, takes every pixel once. -/
theorem bijOn_source (hsource : ∀ x < width.toNat, ∀ y < height.toNat,
      source p width height scaling (x, y) = some (x, p.height.toNat - 1 - y))
    (hwidth : width.toNat = p.width.toNat) (hheight : height.toNat = p.height.toNat) :
    Set.BijOn (source p width height scaling) (Set.Iio width.toNat ×ˢ Set.Iio height.toNat)
      (some '' (Set.Iio p.width.toNat ×ˢ Set.Iio p.height.toNat)) := by
  refine ⟨?_, ?_, ?_⟩
  · rintro ⟨x, y⟩ ⟨hx, hy⟩
    simp only [Set.mem_Iio] at hx hy
    exact ⟨(x, p.height.toNat - 1 - y), ⟨by simp; omega, by simp; omega⟩, (hsource x hx y hy).symm⟩
  · rintro ⟨x, y⟩ ⟨hx, hy⟩ ⟨x', y'⟩ ⟨hx', hy'⟩ heq
    simp only [Set.mem_Iio] at hx hy hx' hy'
    rw [hsource x hx y hy, hsource x' hx' y' hy'] at heq
    obtain ⟨rfl, hrow⟩ := Prod.mk.inj (Option.some.inj heq)
    exact Prod.ext rfl (by simp; omega)
  · -- Turning the rows over is its own inverse.
    rintro _ ⟨⟨column, row⟩, ⟨hcolumn, hrow⟩, rfl⟩
    simp only [Set.mem_Iio] at hcolumn hrow
    refine ⟨(column, p.height.toNat - 1 - row), ⟨by simp; omega, by simp; omega⟩, ?_⟩
    rw [hsource column (by omega) _ (by omega)]
    exact congrArg some (Prod.ext rfl (by simp; omega))

/-- **Every particle gets the colour of its pixel**, without rounding: on a grid of
`a` columns for each column of a picture and `b` rows for each row, the particle of a
cell has the colour of the pixel that the cell falls into, with the alpha multiplied
in. The rows of the picture are counted from the top, as they lie in memory, and
those of the grid from the bottom. With one cell for every pixel, every pixel is
taken exactly once. -/
theorem ofPicture_exact (hcount : gridParticleCount width height = .ok count)
    (hwidth : width.toNat = a * p.width.toNat) (hheight : height.toNat = b * p.height.toNat)
    (hscaling : scaling = .stretch ∨ a = b) :
    ∃ g : ParticleGrid ℚ, ofPicture p width height scaling = .ok g ∧
      (∀ x < width.toNat, ∀ y < height.toNat, ∃ v q, g.vertex? (y * width.toNat + x) = some v ∧
        x / a < p.width.toNat ∧ y / b < p.height.toNat ∧
        p.pixels[(p.height.toNat - 1 - y / b) * p.width.toNat + x / a]? = some q ∧
        v.rgb = ⟨q.r.toNat / 255 * (q.a.toNat / 255), q.g.toNat / 255 * (q.a.toNat / 255),
          q.b.toNat / 255 * (q.a.toNat / 255)⟩) ∧
      (a = 1 → b = 1 → Set.BijOn (source p width height scaling)
        (Set.Iio width.toNat ×ˢ Set.Iio height.toNat)
        (some '' (Set.Iio p.width.toNat ×ˢ Set.Iio p.height.toNat))) := by
  have hs := sized_of_multiple hcount hwidth hheight
  have hspot : ∀ x < width.toNat, ∀ y < height.toNat, _ := fun x hx y hy =>
    PictureMap.spot_cellPlace hs hwidth hheight hscaling hx hy
  obtain ⟨g, hg, hcolours⟩ := exists_ofPicture hcount (PictureMap.sized_iff.1 hs).2.2
  refine ⟨g, hg, fun x hx y hy => ?_, ?_⟩
  · obtain ⟨v, hv, hrgb⟩ := hcolours x hx y hy
    obtain ⟨hcolumn, hrow, hsource⟩ := hspot x hx y hy
    have hlast : p.height.toNat - 1 - y / b < p.height.toNat :=
      (Nat.sub_le _ _).trans_lt (Nat.sub_one_lt_of_lt hrow)
    refine ⟨v, _, hv, hcolumn, hrow, getElem?_pixels hcolumn hlast, ?_⟩
    rw [hrgb, source, hsource]
    exact premultiplied_rat _
  · rintro rfl rfl
    rw [one_mul] at hwidth hheight
    refine bijOn_source (fun x hx y hy => ?_) hwidth hheight
    rw [source, (hspot x hx y hy).2.2, Nat.div_one, Nat.div_one]

/-- A picture of two columns and three rows, all but the last pixel translucent. -/
def sixPixels : Picture := .ofFn 2 3 fun i => ⟨50 * i.toUInt8, 100, 255, 51 * i.toUInt8⟩

/-- On a grid of four columns, the first particle has the colour of the first pixel of
the bottom row, which is of four fifths, and the last particle that of the last pixel
of the top row, which is of one fifth. -/
theorem ofPicture_exact_sixPixels : ∃ g : ParticleGrid ℚ,
    ofPicture sixPixels 4 3 .stretch = .ok g ∧
      (∃ v, g.vertex? 0 = some v ∧
        v.rgb = ⟨200 / 255 * (4 / 5), 100 / 255 * (4 / 5), 4 / 5⟩) ∧
      ∃ v, g.vertex? 11 = some v ∧ v.rgb = ⟨50 / 255 * (1 / 5), 100 / 255 * (1 / 5), 1 / 5⟩ := by
  obtain ⟨g, hg, hcolours, -⟩ := @ofPicture_exact sixPixels 4 3 .stretch 2 1 12
    (by decide) rfl rfl (.inl rfl)
  refine ⟨g, hg, ?_, ?_⟩
  · obtain ⟨v, q, hv, -, -, hq, hrgb⟩ := hcolours 0 (by decide) 0 (by decide)
    obtain rfl : (⟨200, 100, 255, 204⟩ : Pixel) = q := Option.some.inj hq
    exact ⟨v, hv, hrgb.trans (by decide +kernel)⟩
  · obtain ⟨v, q, hv, -, -, hq, hrgb⟩ := hcolours 3 (by decide) 2 (by decide)
    obtain rfl : (⟨50, 100, 255, 51⟩ : Pixel) = q := Option.some.inj hq
    exact ⟨v, hv, hrgb.trans (by decide +kernel)⟩

end ParticleGrid

end ParticleTimeline
