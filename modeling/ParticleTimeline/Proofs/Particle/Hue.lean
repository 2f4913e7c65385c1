import Mathlib.Tactic.FieldSimp
import Mathlib.Tactic.Ring
import ParticleTimeline.Particle.Colour
import ParticleTimeline.Proofs.Number.Rational
/-!
# Colours and their hues

The hexcone gives a hue, a saturation and a value their colour (`Colour.ofHsv`). The
circle of hues is cut into sextants. In each of them one channel is the largest, one
is the smallest, and one is on its way between them; where a sextant ends, the next
one begins (`Colour.sextant_end`), so it does not matter which of the two a colour at
the border is said to be in (`Colour.ofHsv_of_part`).

Read over the rationals, the hue of a colour is its place in its sextant
(`Colour.exists_placed`), so the hexcone gives the colour back. Only where the channels
hardly differ there is no hue, and what comes back is hardly different either
(`Colour.hsv_exact`).
-/

namespace ParticleTimeline

namespace Colour

variable {c : Vec3 ℚ} {n : ℕ}

/-! ## The hexcone -/

/-- The colours of a sextant: one channel is `most`, one is `least`, and one falls, in
an odd sextant, or rises, in an even one. -/
def sextant (n : ℕ) (most least falling rising : ℚ) : Vec3 ℚ :=
  match n with
  | 0 => ⟨most, rising, least⟩
  | 1 => ⟨falling, most, least⟩
  | 2 => ⟨least, most, rising⟩
  | 3 => ⟨least, falling, most⟩
  | 4 => ⟨rising, least, most⟩
  | _ => ⟨most, least, falling⟩

/-- Red, green and blue of a hue, a saturation and a value. -/
def ofHsv (c : Vec3 ℚ) : Vec3 ℚ :=
  let place := 6 * c.x
  let part := Int.fract place
  sextant (⌊place⌋ % 6).toNat c.z (c.z * (1 - c.y)) (c.z * (1 - c.y * part))
    (c.z * (1 - c.y * (1 - part)))

/-- **The end of a sextant is the beginning of the next one.** -/
theorem sextant_end (hn : n < 6) (most least : ℚ) :
    sextant n most least least most = sextant ((n + 1) % 6) most least most least := by
  match n, hn with
  | 0, _ | 1, _ | 2, _ | 3, _ | 4, _ | 5, _ => rfl

/-- **The colour of a part of a sextant**, both ends of it included. -/
theorem ofHsv_of_part (hn : n < 6) {part saturation value : ℚ} (hlow : 0 ≤ part)
    (hhigh : part ≤ 1) : ofHsv ⟨(n + part) / 6, saturation, value⟩
      = sextant n value (value * (1 - saturation)) (value * (1 - saturation * part))
        (value * (1 - saturation * (1 - part))) := by
  have hplace : 6 * ((n + part) / 6) = n + part := mul_div_cancel₀ _ (by norm_num)
  rcases hhigh.lt_or_eq with hinside | rfl
  · have hfloor : ⌊(n : ℚ) + part⌋ = n := by
      rw [Int.floor_natCast_add, Int.floor_eq_zero_iff.2 ⟨hlow, hinside⟩, add_zero]
    have hfract : Int.fract ((n : ℚ) + part) = part := by
      rw [Int.fract_natCast_add, Int.fract_eq_self.2 ⟨hlow, hinside⟩]
    have hsextant : ((n : ℤ) % 6).toNat = n := by omega
    simp only [ofHsv, hplace, hfloor, hfract, hsextant]
  · have hfloor : ⌊(n : ℚ) + 1⌋ = n + 1 := by
      rw [Int.floor_add_one, Int.floor_natCast]
    have hfract : Int.fract ((n : ℚ) + 1) = 0 := by
      rw [Int.fract_add_one, Int.fract_natCast]
    have hsextant : (((n : ℤ) + 1) % 6).toNat = (n + 1) % 6 := by omega
    simp only [ofHsv, hplace, hfloor, hfract, hsextant, mul_one, mul_zero, sub_zero, sub_self]
    rw [sextant_end hn]

/-! ## Channels -/

theorem largest_rat (c : Vec3 ℚ) : largest c = c.x ⊔ c.y ⊔ c.z := by
  rw [largest, Scalar.max_rat, Scalar.max_rat]

theorem smallest_rat (c : Vec3 ℚ) : smallest c = c.x ⊓ c.y ⊓ c.z := by
  rw [smallest, Scalar.min_rat, Scalar.min_rat]

theorem smallest_le_largest (c : Vec3 ℚ) : smallest c ≤ largest c := by
  rw [smallest_rat, largest_rat]
  exact (min_le_right _ _).trans (le_max_right _ _)

theorem smallest_nonneg (hx : 0 ≤ c.x) (hy : 0 ≤ c.y) (hz : 0 ≤ c.z) : 0 ≤ smallest c := by
  rw [smallest_rat]
  exact le_min (le_min hx hy) hz

/-- How far the channels of a colour are apart. -/
def spread (c : Vec3 ℚ) : ℚ := largest c - smallest c

theorem spread_pos (h : 1 / 2 ^ 23 < spread c) : 0 < spread c := lt_trans (by norm_num) h

theorem saturation_of_bright (h : 1 / 2 ^ 23 < largest c) :
    saturation (largest c) (spread c) = spread c / largest c := by
  rw [saturation, if_neg (by rw [Scalar.le_rat, Scalar.epsilon_rat]; exact not_le.2 h)]

theorem saturation_of_dark (h : largest c ≤ 1 / 2 ^ 23) :
    saturation (largest c) (spread c) = 0 := by
  rw [saturation, if_pos (by rwa [Scalar.le_rat, Scalar.epsilon_rat]), Scalar.zero_rat]

theorem saturation_within (hleast : 0 ≤ smallest c) :
    0 ≤ saturation (largest c) (spread c) ∧ saturation (largest c) (spread c) ≤ 1 := by
  have hspread : 0 ≤ spread c := sub_nonneg.2 (smallest_le_largest c)
  have hmost : spread c ≤ largest c := sub_le_self _ hleast
  rcases le_or_gt (largest c) (1 / 2 ^ 23) with hdark | hbright
  · rw [saturation_of_dark hdark]
    exact ⟨le_rfl, zero_le_one⟩
  · rw [saturation_of_bright hbright]
    exact ⟨div_nonneg hspread (hspread.trans hmost), div_le_one_of_le₀ hmost (hspread.trans hmost)⟩

/-- What the saturation leaves of the value is the smallest channel. -/
theorem faded_of_bright (h : 1 / 2 ^ 23 < largest c) :
    largest c * (1 - spread c / largest c) = smallest c := by
  have hmost : largest c ≠ 0 := (lt_trans (by norm_num) h).ne'
  rw [mul_sub, mul_div_cancel₀ _ hmost, mul_one, spread, sub_sub_cancel]

/-! ## The place of a colour -/

/-- A colour in its sextant, with its third channel so far on its way between the other
two. The last sextant does not get to its end, which is the beginning of the circle. -/
structure Placed (c : Vec3 ℚ) (n : ℕ) (way : ℚ) : Prop where
  sextant_lt : n < 6
  way_nonneg : 0 ≤ way
  way_le : way ≤ spread c
  way_lt : n = 5 → way < spread c
  hue_eq : hue c (largest c) (spread c) = (n + way / spread c) / 6
  colour_eq : sextant n (largest c) (smallest c) (largest c - way) (smallest c + way) = c

theorem hue_rat {most apart : ℚ} (h : 1 / 2 ^ 23 < apart) : hue c most apart =
    (if most = c.x then Scalar.remEuclid ((c.y - c.z) / apart) 6
      else if most = c.y then (c.z - c.x) / apart + 2
      else (c.x - c.y) / apart + 4) / 6 := by
  have hgrey : ¬ Scalar.le apart Scalar.epsilon = true := by
    rw [Scalar.le_rat, Scalar.epsilon_rat]
    exact not_le.2 h
  simp only [hue, six, if_neg hgrey, Scalar.same_rat, Scalar.natural_rat, Nat.cast_ofNat]
  split_ifs <;> rfl

section Sextants

variable (h : 1 / 2 ^ 23 < spread c)
include h

/-- Red is the largest channel: the sextants about the beginning of the circle. -/
theorem placed_of_red (hy : c.y ≤ c.x) (hz : c.z ≤ c.x) : ∃ n way, Placed c n way := by
  have hpos := spread_pos h
  have hmost : largest c = c.x := by rw [largest_rat, max_eq_left hy, max_eq_left hz]
  rcases le_or_gt c.z c.y with hzy | hyz
  · have hleast : smallest c = c.z := by rw [smallest_rat, min_eq_right hy, min_eq_right hzy]
    have hspread : spread c = c.x - c.z := by rw [spread, hmost, hleast]
    have hlow : 0 ≤ (c.y - c.z) / spread c := div_nonneg (by linarith) hpos.le
    have hhigh : (c.y - c.z) / spread c ≤ 1 := (div_le_one hpos).2 (by linarith)
    have hhue : Scalar.remEuclid ((c.y - c.z) / spread c) 6 = (c.y - c.z) / spread c := by
      rw [Scalar.remEuclid_rat (n := 0) (by push_cast; linarith) (by push_cast; linarith)]
      simp
    refine ⟨0, c.y - c.z, by norm_num, by linarith, by linarith, by norm_num, ?_, ?_⟩
    · rw [hue_rat h, if_pos hmost, hhue, Nat.cast_zero, zero_add]
    · rw [hmost, hleast, add_sub_cancel]
      rfl
  · have hleast : smallest c = c.y := by rw [smallest_rat, min_eq_right hy, min_eq_left hyz.le]
    have hspread : spread c = c.x - c.y := by rw [spread, hmost, hleast]
    have hlow : -1 ≤ (c.y - c.z) / spread c := (le_div_iff₀ hpos).2 (by linarith)
    have hhigh : (c.y - c.z) / spread c < 0 := div_neg_of_neg_of_pos (by linarith) hpos
    have hway : c.x - c.z = c.y - c.z + spread c := by linarith
    -- The quotient is below zero here, so it is moved up by the whole circle.
    have hhue : Scalar.remEuclid ((c.y - c.z) / spread c) 6 = 5 + (c.x - c.z) / spread c := by
      rw [Scalar.remEuclid_rat (n := -1) (by push_cast; linarith) (by push_cast; linarith), hway,
        ← div_add_one hpos.ne']
      push_cast
      ring
    refine ⟨5, c.x - c.z, by norm_num, by linarith, by linarith, fun _ => by linarith, ?_, ?_⟩
    · rw [hue_rat h, if_pos hmost, hhue, Nat.cast_ofNat]
    · rw [hmost, hleast, sub_sub_cancel]
      rfl

/-- Green is the largest channel: the sextants about a third of the circle. -/
theorem placed_of_green (hx : c.x < c.y) (hz : c.z ≤ c.y) : ∃ n way, Placed c n way := by
  have hpos := spread_pos h
  have hmost : largest c = c.y := by rw [largest_rat, max_eq_right hx.le, max_eq_left hz]
  have hred : ¬ largest c = c.x := by rw [hmost]; exact hx.ne'
  rcases le_or_gt c.x c.z with hxz | hzx
  · have hleast : smallest c = c.x := by rw [smallest_rat, min_eq_left hx.le, min_eq_left hxz]
    have hspread : spread c = c.y - c.x := by rw [spread, hmost, hleast]
    refine ⟨2, c.z - c.x, by norm_num, by linarith, by linarith, by norm_num, ?_, ?_⟩
    · rw [hue_rat h, if_neg hred, if_pos hmost, Nat.cast_ofNat, add_comm]
    · rw [hmost, hleast, add_sub_cancel]
      rfl
  · have hleast : smallest c = c.z := by rw [smallest_rat, min_eq_left hx.le, min_eq_right hzx.le]
    have hspread : spread c = c.y - c.z := by rw [spread, hmost, hleast]
    have hway : c.y - c.x = c.z - c.x + spread c := by linarith
    refine ⟨1, c.y - c.x, by norm_num, by linarith, by linarith, by norm_num, ?_, ?_⟩
    · rw [hue_rat h, if_neg hred, if_pos hmost, hway, ← div_add_one hpos.ne']
      push_cast
      ring
    · rw [hmost, hleast, sub_sub_cancel]
      rfl

/-- Blue is the largest channel: the sextants about two thirds of the circle. -/
theorem placed_of_blue (hx : c.x < c.z) (hy : c.y < c.z) : ∃ n way, Placed c n way := by
  have hpos := spread_pos h
  have hmost : largest c = c.z := by rw [largest_rat, max_eq_right (max_le hx.le hy.le)]
  have hred : ¬ largest c = c.x := by rw [hmost]; exact hx.ne'
  have hgreen : ¬ largest c = c.y := by rw [hmost]; exact hy.ne'
  rcases le_or_gt c.y c.x with hyx | hxy
  · have hleast : smallest c = c.y := by rw [smallest_rat, min_eq_right hyx, min_eq_left hy.le]
    have hspread : spread c = c.z - c.y := by rw [spread, hmost, hleast]
    refine ⟨4, c.x - c.y, by norm_num, by linarith, by linarith, by norm_num, ?_, ?_⟩
    · rw [hue_rat h, if_neg hred, if_neg hgreen, Nat.cast_ofNat, add_comm]
    · rw [hmost, hleast, add_sub_cancel]
      rfl
  · have hleast : smallest c = c.x := by rw [smallest_rat, min_eq_left hxy.le, min_eq_left hx.le]
    have hspread : spread c = c.z - c.x := by rw [spread, hmost, hleast]
    have hway : c.z - c.y = c.x - c.y + spread c := by linarith
    refine ⟨3, c.z - c.y, by norm_num, by linarith, by linarith, by norm_num, ?_, ?_⟩
    · rw [hue_rat h, if_neg hred, if_neg hgreen, hway, ← div_add_one hpos.ne']
      push_cast
      ring
    · rw [hmost, hleast, sub_sub_cancel]
      rfl

/-- **Every colour with a hue is in a sextant**, and its hue says in which and where. -/
theorem exists_placed : ∃ n way, Placed c n way := by
  rcases le_or_gt c.y c.x with hyx | hxy
  · rcases le_or_gt c.z c.x with hzx | hxz
    · exact placed_of_red h hyx hzx
    · exact placed_of_blue h hxz (hyx.trans_lt hxz)
  · rcases le_or_gt c.z c.y with hzy | hyz
    · exact placed_of_green h hxy hzy
    · exact placed_of_blue h (hxy.trans hyz) hyz

end Sextants

/-! ## There and back -/

section Placed

variable {way : ℚ} (hplaced : Placed c n way) (h : 1 / 2 ^ 23 < spread c)
include hplaced h

theorem Placed.part_within : 0 ≤ way / spread c ∧ way / spread c ≤ 1 :=
  ⟨div_nonneg hplaced.way_nonneg (spread_pos h).le, (div_le_one (spread_pos h)).2 hplaced.way_le⟩

/-- A sextant is a sixth of the circle, and the last one stays below its end. -/
theorem Placed.hue_within :
    0 ≤ hue c (largest c) (spread c) ∧ hue c (largest c) (spread c) < 1 := by
  obtain ⟨hlow, hhigh⟩ := hplaced.part_within h
  have hfirst : (0 : ℚ) ≤ n := n.cast_nonneg
  have hend : (n : ℚ) + way / spread c < 6 := by
    rcases (Nat.le_of_lt_succ hplaced.sextant_lt).lt_or_eq with hbefore | hlast
    · have hsextant : (n : ℚ) + 1 ≤ 5 := by exact_mod_cast hbefore
      linarith
    · have hway := (div_lt_one (spread_pos h)).2 (hplaced.way_lt hlast)
      rw [hlast]
      push_cast
      linarith
  rw [hplaced.hue_eq]
  constructor <;> linarith

/-- **The hexcone gives back** a colour in a sextant. -/
theorem Placed.ofHsv_hsv (hleast : 0 ≤ smallest c) : ofHsv (hsv c) = c := by
  have hapart := (spread_pos h).ne'
  have hbright : 1 / 2 ^ 23 < largest c := h.trans_le (sub_le_self _ hleast)
  have hmost : largest c ≠ 0 := (lt_trans (by norm_num) hbright).ne'
  have hhsv : hsv c = ⟨(n + way / spread c) / 6, spread c / largest c, largest c⟩ := by
    rw [← hplaced.hue_eq, ← saturation_of_bright hbright]
    rfl
  obtain ⟨hlow, hhigh⟩ := hplaced.part_within h
  have hfaded := faded_of_bright hbright
  have hfalling : largest c * (1 - spread c / largest c * (way / spread c)) = largest c - way := by
    field_simp
  have hrising : largest c * (1 - spread c / largest c * (1 - way / spread c))
      = smallest c + way := by
    rw [← hfaded]
    field_simp
    ring
  rw [hhsv, ofHsv_of_part hplaced.sextant_lt hlow hhigh, hfaded, hfalling, hrising]
  exact hplaced.colour_eq

end Placed

/-! ## Colours without a hue -/

theorem hue_of_grey (hgrey : spread c ≤ 1 / 2 ^ 23) : hue c (largest c) (spread c) = 0 := by
  rw [hue, if_pos (by rwa [Scalar.le_rat, Scalar.epsilon_rat]), Scalar.zero_rat]

theorem ofHsv_zero (s v : ℚ) : ofHsv ⟨0, s, v⟩ = ⟨v, v * (1 - s), v * (1 - s)⟩ := by
  simp [ofHsv, sextant]

theorem faded_within (c : Vec3 ℚ) :
    smallest c ≤ largest c * (1 - saturation (largest c) (spread c)) ∧
      largest c * (1 - saturation (largest c) (spread c)) ≤ largest c := by
  rcases le_or_gt (largest c) (1 / 2 ^ 23) with hdark | hbright
  · rw [saturation_of_dark hdark, sub_zero, mul_one]
    exact ⟨smallest_le_largest c, le_rfl⟩
  · rw [saturation_of_bright hbright, faded_of_bright hbright]
    exact ⟨le_rfl, smallest_le_largest c⟩

theorem abs_sub_le_spread {k l : ℚ} (hk : smallest c ≤ k ∧ k ≤ largest c)
    (hl : smallest c ≤ l ∧ l ≤ largest c) : |k - l| ≤ spread c := by
  rw [abs_le, spread]
  constructor <;> linarith

/-- **Without a hue** the hexcone gives back a colour that is no further off than the
channels are apart. -/
theorem ofHsv_near (hgrey : spread c ≤ 1 / 2 ^ 23) :
    |(ofHsv (hsv c)).x - c.x| ≤ spread c ∧ |(ofHsv (hsv c)).y - c.y| ≤ spread c ∧
      |(ofHsv (hsv c)).z - c.z| ≤ spread c := by
  have hback : ofHsv (hsv c) = ofHsv ⟨0, saturation (largest c) (spread c), largest c⟩ := by
    rw [← hue_of_grey hgrey]
    rfl
  have hfaded := faded_within c
  have hmost : smallest c ≤ largest c ∧ largest c ≤ largest c := ⟨smallest_le_largest c, le_rfl⟩
  have hchannels : (smallest c ≤ c.x ∧ c.x ≤ largest c) ∧ (smallest c ≤ c.y ∧ c.y ≤ largest c) ∧
      (smallest c ≤ c.z ∧ c.z ≤ largest c) := by
    rw [smallest_rat, largest_rat]
    simp
  rw [hback, ofHsv_zero]
  exact ⟨abs_sub_le_spread hmost hchannels.1, abs_sub_le_spread hfaded hchannels.2.1,
    abs_sub_le_spread hfaded hchannels.2.2⟩

/-! ## Hue, saturation and value -/

/-- **Hue, saturation and value are right**, without rounding. The hue is a part of the
circle, the saturation a part of the whole, and the value the largest channel. If the
channels of a colour are further apart than the gap above one in a single, the hexcone
gives the colour back. If they are not, no channel it gives back is further off than
they are apart, so a colour without a difference between its channels comes back too. -/
theorem hsv_exact (hx : 0 ≤ c.x ∧ c.x ≤ 1) (hy : 0 ≤ c.y ∧ c.y ≤ 1) (hz : 0 ≤ c.z ∧ c.z ≤ 1) :
    (0 ≤ (hsv c).x ∧ (hsv c).x < 1) ∧ (0 ≤ (hsv c).y ∧ (hsv c).y ≤ 1) ∧
      (hsv c).z = max (max c.x c.y) c.z ∧
      (1 / 2 ^ 23 < max (max c.x c.y) c.z - min (min c.x c.y) c.z → ofHsv (hsv c) = c) ∧
      ∀ gap, gap = max (max c.x c.y) c.z - min (min c.x c.y) c.z → gap ≤ 1 / 2 ^ 23 →
        |(ofHsv (hsv c)).x - c.x| ≤ gap ∧ |(ofHsv (hsv c)).y - c.y| ≤ gap ∧
          |(ofHsv (hsv c)).z - c.z| ≤ gap := by
  have hleast := smallest_nonneg hx.1 hy.1 hz.1
  rw [← largest_rat, ← smallest_rat]
  refine ⟨?_, saturation_within hleast, rfl, fun hspread => ?_, ?_⟩
  · change 0 ≤ hue c (largest c) (spread c) ∧ hue c (largest c) (spread c) < 1
    rcases le_or_gt (spread c) (1 / 2 ^ 23) with hgrey | hspread
    · rw [hue_of_grey hgrey]
      exact ⟨le_rfl, one_pos⟩
    · obtain ⟨n, way, hplaced⟩ := exists_placed hspread
      exact hplaced.hue_within hspread
  · obtain ⟨n, way, hplaced⟩ := exists_placed hspread
    exact hplaced.ofHsv_hsv hspread hleast
  · rintro gap rfl hgrey
    exact ofHsv_near hgrey

/-- A red with more blue than green is in the last sextant, half of the way to its
end. -/
theorem hsv_exact_crimson : hsv ⟨1, 0, 1 / 2⟩ = (⟨11 / 12, 1, 1⟩ : Vec3 ℚ) ∧
    ofHsv (hsv ⟨1, 0, 1 / 2⟩) = ⟨1, 0, 1 / 2⟩ := by
  obtain ⟨-, -, -, hback, -⟩ :=
    @hsv_exact ⟨1, 0, 1 / 2⟩ (by norm_num) (by norm_num) (by norm_num)
  exact ⟨by decide +kernel, hback (by norm_num)⟩

end Colour

end ParticleTimeline
