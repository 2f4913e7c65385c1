import Mathlib
/-!
# Rounding to the numbers of a format

A format keeps so many bits of a number, and none below its least exponent. So
every number has a last place in it (`Binary.place`), and is rounded to the
nearest multiple of that place, of two to the even one (`Binary.rounded`).

What the format can represent is not changed (`Binary.rounded_of_representable`)
and not passed by what is rounded (`Binary.rounded_le`). The error is half of
the last place at most, and so no more than a bit behind the last one, in
proportion to a number that has nothing below the least exponent
(`Binary.abs_rounded_sub_le`).
-/

namespace ParticleTimeline

namespace Binary

open Float.Model

/-! ## Whole numbers -/

/-- The whole number nearest to a rational, of two the even one. -/
def nearest (q : ℚ) : ℤ :=
  if 2 * Int.fract q < 1 then ⌊q⌋ else if 1 < 2 * Int.fract q then ⌊q⌋ + 1 else ⌊q⌋ + ⌊q⌋ % 2

section Nearest

variable {p q : ℚ} {n : ℤ}

@[simp] theorem nearest_intCast (n : ℤ) : nearest n = n := by
  simp [nearest]

theorem two_mul_nearest_le (q : ℚ) : 2 * (nearest q : ℚ) ≤ 2 * q + 1 := by
  have hparts : (⌊q⌋ : ℚ) + Int.fract q = q := Int.floor_add_fract q
  have hlow := Int.fract_nonneg q
  rw [nearest]
  split
  · linarith
  · split
    · push_cast
      linarith
    · have hparity : ((⌊q⌋ % 2 : ℤ) : ℚ) ≤ 1 := by
        exact_mod_cast Int.lt_add_one_iff.1 (Int.emod_lt_of_pos ⌊q⌋ two_pos)
      push_cast at hparity ⊢
      linarith

theorem le_two_mul_nearest (q : ℚ) : 2 * q ≤ 2 * (nearest q : ℚ) + 1 := by
  have hparts : (⌊q⌋ : ℚ) + Int.fract q = q := Int.floor_add_fract q
  have hhigh := Int.fract_lt_one q
  rw [nearest]
  split
  · linarith
  · split
    · push_cast
      linarith
    · have hparity : (0 : ℚ) ≤ ((⌊q⌋ % 2 : ℤ) : ℚ) := by
        exact_mod_cast Int.emod_nonneg ⌊q⌋ two_ne_zero
      push_cast at hparity ⊢
      linarith

theorem nearest_mono (h : p ≤ q) : nearest p ≤ nearest q := by
  by_contra hlt
  have hstep : (nearest q : ℚ) + 1 ≤ nearest p := by exact_mod_cast not_le.1 hlt
  have hsame : p = q := by linarith [two_mul_nearest_le p, le_two_mul_nearest q]
  exact hlt (hsame ▸ le_refl _)

theorem nearest_neg (q : ℚ) : nearest (-q) = -nearest q := by
  by_cases hwhole : Int.fract q = 0
  · have hq : q = ⌊q⌋ := by linarith [Int.floor_add_fract q]
    rw [hq, ← Int.cast_neg, nearest_intCast, nearest_intCast]
  · have hceil : ⌈q⌉ = ⌊q⌋ + 1 := by
      rw [Int.ceil_eq_floor_add_one_iff_notMem]
      exact fun hmem => hwhole (Int.fract_eq_zero_iff.2 hmem)
    have hfloor : ⌊-q⌋ = -⌊q⌋ - 1 := by
      rw [Int.floor_neg, hceil]
      ring
    simp only [nearest, Int.fract_neg hwhole, hfloor]
    split_ifs <;> first | omega | linarith

theorem nearest_half (h : 2 * (n - q) = 1) : nearest q = n ↔ Even n := by
  have hfloor : ⌊q⌋ = n - 1 := by
    rw [Int.floor_eq_iff]
    push_cast
    constructor <;> linarith
  have hfract : 2 * Int.fract q = 1 := by
    rw [Int.fract, hfloor]
    push_cast
    linarith
  rw [nearest, hfract, if_neg (lt_irrefl _), if_neg (lt_irrefl _), hfloor, Int.even_iff]
  omega

/-- **What is less than a half below a whole number** is rounded to it, and
what is just a half below it is if it is even. -/
theorem nearest_eq_iff_of_le (h : q ≤ n) :
    nearest q = n ↔ 2 * (n - q) < 1 ∨ 2 * (n - q) = 1 ∧ Even n := by
  rcases lt_trichotomy (2 * (n - q)) 1 with hlt | heq | hgt
  · have hupper : (nearest q : ℚ) < n + 1 := by linarith [two_mul_nearest_le q]
    have hlower : (n : ℚ) < nearest q + 1 := by linarith [le_two_mul_nearest q]
    have hsame : nearest q = n :=
      le_antisymm (Int.lt_add_one_iff.1 (by exact_mod_cast hupper))
        (Int.lt_add_one_iff.1 (by exact_mod_cast hlower))
    simp [hlt, hsame]
  · simp [heq, nearest_half heq]
  · have hother : nearest q ≠ n := by
      rintro rfl
      linarith [two_mul_nearest_le q]
    simp [hother, hgt.not_gt, hgt.ne']

theorem nearest_lt_iff_of_even (h : q ≤ n) (heven : Even n) :
    nearest q < n ↔ q < n - 1 / 2 := by
  have hmost : nearest q ≤ n := by
    rw [← nearest_intCast n]
    exact nearest_mono h
  rw [lt_iff_le_and_ne, and_iff_right hmost, Ne, nearest_eq_iff_of_le h, and_iff_left heven,
    ← le_iff_lt_or_eq, not_le]
  constructor <;> intro hlt <;> linarith

end Nearest

/-! ## Places -/

/-- The exponent of the last place of a number in a format. -/
def place (spec : Format) (x : ℚ) : ℤ := spec.targetExponent (Int.log 2 |x| + 1)

/-- A number, rounded to its last place. -/
def rounded (spec : Format) (x : ℚ) : ℚ :=
  nearest (x / (2 : ℚ) ^ place spec x) * (2 : ℚ) ^ place spec x

/-- A number that is a multiple of its last place. -/
def Representable (spec : Format) (x : ℚ) : Prop := ∃ n : ℤ, x = n * (2 : ℚ) ^ place spec x

section Places

variable {spec : Format} {x y : ℚ}

theorem two_zpow_pos (k : ℤ) : (0 : ℚ) < 2 ^ k := zpow_pos two_pos k

theorem minExponent_le_place (spec : Format) (x : ℚ) : spec.minExponent ≤ place spec x :=
  le_max_right _ _

theorem place_mono (spec : Format) (hx : x ≠ 0) (h : |x| ≤ |y|) : place spec x ≤ place spec y := by
  have hlog : Int.log 2 |x| ≤ Int.log 2 |y| := Int.log_mono_right (abs_pos.2 hx) h
  simp only [place, Format.targetExponent]
  omega

@[simp] theorem place_neg (spec : Format) (x : ℚ) : place spec (-x) = place spec x := by
  rw [place, abs_neg, place]

/-- A multiple of a place is one of every place before it. -/
theorem exists_mul_zpow_of_le {j k : ℤ} (h : j ≤ k) (n : ℤ) :
    ∃ n' : ℤ, (n : ℚ) * (2 : ℚ) ^ k = n' * (2 : ℚ) ^ j := by
  refine ⟨n * 2 ^ (k - j).toNat, ?_⟩
  have hsum : k = ((k - j).toNat : ℤ) + j := by omega
  conv_lhs => rw [hsum, zpow_add₀ two_ne_zero, zpow_natCast]
  push_cast
  ring

theorem rounded_of_representable (h : Representable spec x) : rounded spec x = x := by
  obtain ⟨n, hn⟩ := h
  have hquotient : x / (2 : ℚ) ^ place spec x = n := by
    rw [div_eq_iff (two_zpow_pos _).ne']
    exact hn
  rw [rounded, hquotient, nearest_intCast, ← hn]

theorem rounded_neg (spec : Format) (x : ℚ) : rounded spec (-x) = -rounded spec x := by
  rw [rounded, place_neg, neg_div, nearest_neg, rounded]
  push_cast
  ring

@[simp] theorem rounded_zero (spec : Format) : rounded spec 0 = 0 := by
  simp [rounded, nearest]

theorem nearest_place_nonneg (spec : Format) (h : 0 ≤ x) :
    0 ≤ nearest (x / (2 : ℚ) ^ place spec x) := by
  rw [← nearest_intCast 0]
  exact nearest_mono (by simpa using div_nonneg h (two_zpow_pos _).le)

theorem rounded_nonneg (h : 0 ≤ x) : 0 ≤ rounded spec x :=
  mul_nonneg (by exact_mod_cast nearest_place_nonneg spec h) (two_zpow_pos _).le

/-- A number has no more places before its last one than a format keeps. -/
theorem lt_mul_place (spec : Format) (h : 0 < x) :
    x < (2 : ℚ) ^ spec.mantissaBits * 2 ^ place spec x := by
  have hlog : Int.log 2 x + 1 ≤ (spec.mantissaBits : ℤ) + place spec x := by
    rw [place, abs_of_pos h, Format.targetExponent]
    omega
  calc x < (2 : ℚ) ^ (Int.log 2 x + 1) := Int.lt_zpow_succ_log_self one_lt_two x
    _ ≤ (2 : ℚ) ^ ((spec.mantissaBits : ℤ) + place spec x) := zpow_le_zpow_right₀ one_le_two hlog
    _ = (2 : ℚ) ^ spec.mantissaBits * 2 ^ place spec x := by
      rw [zpow_add₀ two_ne_zero, zpow_natCast]

theorem nearest_place_le (spec : Format) (h : 0 < x) :
    nearest (x / (2 : ℚ) ^ place spec x) ≤ 2 ^ spec.mantissaBits := by
  have hbound : x / (2 : ℚ) ^ place spec x ≤ ((2 ^ spec.mantissaBits : ℤ) : ℚ) := by
    rw [div_le_iff₀ (two_zpow_pos _)]
    push_cast
    exact (lt_mul_place spec h).le
  have hnearest := nearest_mono hbound
  rwa [nearest_intCast] at hnearest

/-- It has all of these places, unless its last one is the least. -/
theorem le_nearest_place (spec : Format) (h : 0 < x) (hmore : spec.minExponent < place spec x) :
    2 ^ spec.mantissaBitsWithoutImplicit ≤ nearest (x / (2 : ℚ) ^ place spec x) := by
  have hbound : ((2 ^ spec.mantissaBitsWithoutImplicit : ℤ) : ℚ) ≤ x / (2 : ℚ) ^ place spec x := by
    rw [le_div_iff₀ (two_zpow_pos _)]
    have hlog : (spec.mantissaBitsWithoutImplicit : ℤ) + place spec x = Int.log 2 x := by
      rw [place, abs_of_pos h, Format.targetExponent, Format.mantissaBits] at *
      omega
    calc ((2 ^ spec.mantissaBitsWithoutImplicit : ℤ) : ℚ) * 2 ^ place spec x
        = 2 ^ ((spec.mantissaBitsWithoutImplicit : ℤ) + place spec x) := by
          rw [zpow_add₀ two_ne_zero, zpow_natCast]
          push_cast
          rfl
      _ = 2 ^ Int.log 2 x := by rw [hlog]
      _ ≤ x := Int.zpow_log_le_self one_lt_two h
  have hnearest := nearest_mono hbound
  rwa [nearest_intCast] at hnearest

/-- **What can be represented is not passed** by what is rounded. -/
theorem rounded_le (hx : 0 < x) (h : x ≤ y) (hy : Representable spec y) : rounded spec x ≤ y := by
  obtain ⟨n, hn⟩ := hy
  have hsize : |x| ≤ |y| := by
    rwa [abs_of_pos hx, abs_of_pos (hx.trans_le h)]
  have hplace : place spec x ≤ place spec y := place_mono spec hx.ne' hsize
  obtain ⟨n', hn'⟩ := exists_mul_zpow_of_le hplace n
  have hyplace : y = n' * (2 : ℚ) ^ place spec x := hn.trans hn'
  have hquotient : x / (2 : ℚ) ^ place spec x ≤ n' := by
    rw [div_le_iff₀ (two_zpow_pos _), ← hyplace]
    exact h
  have hnearest : nearest (x / (2 : ℚ) ^ place spec x) ≤ n' := by
    rw [← nearest_intCast n']
    exact nearest_mono hquotient
  rw [rounded, hyplace]
  exact mul_le_mul_of_nonneg_right (by exact_mod_cast hnearest) (two_zpow_pos _).le

/-- The error is half of the last place at most. -/
theorem two_mul_abs_rounded_sub_le (spec : Format) (x : ℚ) :
    2 * |rounded spec x - x| ≤ (2 : ℚ) ^ place spec x := by
  have hpos := two_zpow_pos (place spec x)
  have hx : x = x / (2 : ℚ) ^ place spec x * (2 : ℚ) ^ place spec x :=
    (div_mul_cancel₀ x hpos.ne').symm
  have hlow := le_two_mul_nearest (x / (2 : ℚ) ^ place spec x)
  have hhigh := two_mul_nearest_le (x / (2 : ℚ) ^ place spec x)
  have habs :
      2 * |(nearest (x / (2 : ℚ) ^ place spec x) : ℚ) - x / (2 : ℚ) ^ place spec x| ≤ 1 := by
    rw [← abs_two, ← abs_mul, abs_two, abs_le]
    constructor <;> linarith
  calc 2 * |rounded spec x - x|
      = 2 * |(nearest (x / (2 : ℚ) ^ place spec x) : ℚ) - x / (2 : ℚ) ^ place spec x|
          * (2 : ℚ) ^ place spec x := by
        conv_lhs => rw [rounded]; arg 2; arg 1; arg 2; rw [hx]
        rw [← sub_mul, abs_mul, abs_of_pos hpos, mul_assoc]
    _ ≤ 1 * (2 : ℚ) ^ place spec x := mul_le_mul_of_nonneg_right habs hpos.le
    _ = (2 : ℚ) ^ place spec x := one_mul _

/-- **The error is small in proportion**, for a number that has nothing below the
least exponent: sums of what can be represented have not. -/
theorem abs_rounded_sub_le (hx : 0 < x) (h : ∃ n : ℤ, x = n * (2 : ℚ) ^ spec.minExponent) :
    |rounded spec x - x| * (2 : ℚ) ^ spec.mantissaBits ≤ x := by
  by_cases hleast : place spec x = spec.minExponent
  · have hsame : rounded spec x = x := rounded_of_representable (by rwa [Representable, hleast])
    rw [hsame, sub_self, abs_zero, zero_mul]
    exact hx.le
  · have hplace : place spec x + spec.mantissaBits = Int.log 2 x + 1 := by
      simp only [place, Format.targetExponent, abs_of_pos hx] at hleast ⊢
      omega
    have hsize : (2 : ℚ) ^ Int.log 2 x ≤ x := Int.zpow_log_le_self one_lt_two hx
    have herror := two_mul_abs_rounded_sub_le spec x
    have hscaled : 2 * |rounded spec x - x| * (2 : ℚ) ^ spec.mantissaBits ≤ 2 * x :=
      calc 2 * |rounded spec x - x| * (2 : ℚ) ^ spec.mantissaBits
          ≤ (2 : ℚ) ^ place spec x * (2 : ℚ) ^ spec.mantissaBits :=
            mul_le_mul_of_nonneg_right herror (by positivity)
        _ = 2 * (2 : ℚ) ^ Int.log 2 x := by
            rw [← zpow_natCast, ← zpow_add₀ two_ne_zero, hplace, zpow_add_one₀ two_ne_zero,
              mul_comm]
        _ ≤ 2 * x := by linarith
    linarith

/-- **What is too small for the last place** of a number is not taken from it. -/
theorem rounded_sub_of_small (hx : 0 < x) (h : x * (2 : ℚ) ^ (spec.mantissaBits + 2) ≤ y)
    (hy : Representable spec y) : rounded spec (y - x) = y := by
  have hfour : x * 4 ≤ y := by
    refine le_trans (mul_le_mul_of_nonneg_left ?_ hx.le) h
    rw [pow_add]
    have hone : (1 : ℚ) ≤ 2 ^ spec.mantissaBits := one_le_pow₀ one_le_two
    linarith
  have hpos : 0 < y - x := by linarith
  set t : ℤ := place spec (y - x) with ht
  -- The last place of the difference is more than twice what is taken.
  have hlast : 2 * x < (2 : ℚ) ^ t := by
    have hscaled : 2 * x * 2 ^ spec.mantissaBits ≤ y - x := by
      rw [pow_add] at h
      linarith
    refine lt_of_mul_lt_mul_left ?_ (pow_pos two_pos spec.mantissaBits).le
    rw [mul_comm]
    exact hscaled.trans_lt (lt_mul_place spec hpos)
  obtain ⟨n, hn⟩ := hy
  have hplace : t ≤ place spec y := by
    refine place_mono spec hpos.ne' ?_
    rw [abs_of_pos hpos, abs_of_pos (by linarith)]
    linarith
  obtain ⟨n', hn'⟩ := exists_mul_zpow_of_le hplace n
  have hvalue : y = n' * (2 : ℚ) ^ t := hn.trans hn'
  have hquotient : (y - x) / (2 : ℚ) ^ t = n' - x / (2 : ℚ) ^ t := by
    rw [sub_div, hvalue, mul_div_cancel_right₀ _ (two_zpow_pos t).ne']
  have hsmall : 2 * (x / (2 : ℚ) ^ t) < 1 := by
    rw [← mul_div_assoc, div_lt_one (two_zpow_pos t)]
    exact hlast
  have hnearest : nearest ((y - x) / (2 : ℚ) ^ t) = n' := by
    rw [hquotient]
    refine (nearest_eq_iff_of_le (by linarith [div_pos hx (two_zpow_pos t)])).2 (.inl ?_)
    linarith
  rw [rounded, ← ht, hnearest, ← hvalue]

end Places

/-! ## Whole numbers times a power of two -/

section Scaled

variable {spec : Format} {m : ℕ}

theorem log_mul_zpow (hm : 0 < m) (e : ℤ) : Int.log 2 ((m : ℚ) * 2 ^ e) = m.log2 + e := by
  have hpos : (0 : ℚ) < m * 2 ^ e := mul_pos (by exact_mod_cast hm) (two_zpow_pos e)
  have hlow : (2 : ℚ) ^ m.log2 ≤ m := by exact_mod_cast Nat.log2_self_le hm.ne'
  have hhigh : (m : ℚ) < 2 ^ (m.log2 + 1) := by exact_mod_cast Nat.lt_log2_self (n := m)
  refine le_antisymm ?_ ?_
  · rw [← Int.lt_add_one_iff, ← Int.lt_zpow_iff_log_lt one_lt_two hpos, Nat.cast_ofNat]
    calc (m : ℚ) * 2 ^ e
        < 2 ^ (m.log2 + 1) * 2 ^ e := mul_lt_mul_of_pos_right hhigh (two_zpow_pos e)
      _ = 2 ^ (m.log2 + e + 1) := by
        rw [← zpow_natCast, ← zpow_add₀ two_ne_zero]
        congr 1
        push_cast
        ring
  · rw [← Int.zpow_le_iff_le_log one_lt_two hpos, Nat.cast_ofNat]
    calc (2 : ℚ) ^ (m.log2 + e) = 2 ^ m.log2 * 2 ^ e := by
          rw [zpow_add₀ two_ne_zero, zpow_natCast]
      _ ≤ m * 2 ^ e := mul_le_mul_of_nonneg_right hlow (two_zpow_pos e).le

theorem place_mul_zpow (hm : 0 < m) (e : ℤ) :
    place spec ((m : ℚ) * 2 ^ e) = spec.targetExponent (totalExponent m e) := by
  have hpos : (0 : ℚ) < m * 2 ^ e := mul_pos (by exact_mod_cast hm) (two_zpow_pos e)
  rw [place, abs_of_pos hpos, log_mul_zpow hm, totalExponent]
  congr 1
  ring

end Scaled

end Binary

end ParticleTimeline
