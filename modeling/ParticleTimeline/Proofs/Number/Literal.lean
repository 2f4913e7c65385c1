import ParticleTimeline.Proofs.Number.Amount
import ParticleTimeline.Proofs.Number.Text
/-!
# Numbers of a shader

A finite double is written with digits alone, behind a sign and around a point
(`FloatText.literal_plain`); as a number of a shader it always has the point
(`FloatText.pointed_literal`). A value that is not whole needs digits behind the
point, however few digits tell it from its neighbours: on a grid of whole numbers
there is none that is rounded to it (`Shortest.nearest?_eq_none`).
-/

namespace ParticleTimeline

/-! ## Grids of whole numbers -/

namespace Shortest

variable {tie : Tie} {bits m : ℕ} {least e g : ℤ}

/-- A grid that misses an interval on both sides of its value has no point there. -/
theorem nearest?_of_outside {i : Interval} {c : ℕ}
    (hc : scaled i.unit g i.value / scale i.unit g = c)
    (hbelow : c * scale i.unit g < scaled i.unit g i.low)
    (habove : scaled i.unit g i.high < (c + 1) * scale i.unit g) : nearest? tie i g = none := by
  subst hc
  have hb := Nat.not_le.2 hbelow
  have ha := Nat.not_le.2 habove
  have hb' := Nat.lt_asymm hbelow
  have ha' := Nat.lt_asymm habove
  cases hclosed : i.closed <;> simp [nearest?, hclosed, hb, ha, hb', ha']

/-- **No whole number is rounded to a value that is not whole**: from the value to
its neighbours on such a grid it is further than to the ends of its interval. -/
theorem nearest?_eq_none (he : e < 0) (hg : 0 ≤ g) (hm : m % 2 ^ (-e).toNat ≠ 0) :
    nearest? tie (.around bits least m e) g = none := by
  have hscaled : ∀ n, scaled (e - 2) g n = n := by
    intro n
    rw [scaled, Int.toNat_of_nonpos (by omega), Int.toNat_of_nonpos (by omega)]
    exact (Nat.mul_one _).trans (Nat.mul_one n)
  obtain ⟨s, hs⟩ : ∃ s, s = 2 ^ (-e).toNat * 10 ^ g.toNat := ⟨_, rfl⟩
  have hpos : 0 < s := by
    rw [hs]
    positivity
  have hscale : scale (e - 2) g = 4 * s := by
    have hunit : (-(e - 2)).toNat = (-e).toNat + 2 := by omega
    rw [scale, hunit, hs]
    change 2 ^ ((-e).toNat + 2) * 10 ^ g.toNat = _
    ring
  -- Both neighbours are multiples of four, as the value is, and neither is equal to it.
  have hbelow : m / s * s < m := by
    refine lt_of_le_of_ne (Nat.div_mul_le_self m s) fun heq => hm ?_
    rw [← heq, hs, ← Nat.mul_assoc, Nat.mul_right_comm]
    exact Nat.mul_mod_left _ _
  have habove : m < (m / s + 1) * s := by
    rw [Nat.add_mul, Nat.one_mul]
    exact Nat.lt_div_mul_add hpos
  have hquotient : 4 * m / (4 * s) = m / s := Nat.mul_div_mul_left m s four_pos
  refine nearest?_of_outside (c := m / s) ?_ ?_ ?_ <;>
    simp only [Interval.around, hscaled, hscale, hquotient, Nat.mul_left_comm _ 4]
  · split <;> omega
  · omega

/-- Where the grids of whole numbers have no point, the digits go on behind the
point, if those grids do not use up the search. -/
theorem search_exponent_neg {i : Interval} (hnone : ∀ g, 0 ≤ g → nearest? tie i g = none) :
    ∀ (fuel : ℕ) (g : ℤ), g < fuel → (search tie i fuel g).exponent < 0
  | 0, g, h => h
  | fuel + 1, g, h => by
    unfold search
    split
    · rename_i d hd
      by_contra hg
      rw [hnone g (not_lt.1 hg)] at hd
      cases hd
    · exact search_exponent_neg hnone fuel (g - 1) (by omega)

/-- **The digits of a double that is not whole** go on behind the point. -/
theorem double_exponent_neg (hbits : m.log2 < 53) (he : e < 0) (hm : m % 2 ^ (-e).toNat ≠ 0) :
    (double tie m e).exponent < 0 := by
  refine search_exponent_neg (fun g hg => nearest?_eq_none he hg hm) 20 _ ?_
  omega

end Shortest

/-! ## Digits, and a point among them -/

namespace FloatText

open Float.Model
open Shortest (Decimal double_exponent_neg)

/-- A text of digits, at least one. -/
def Digits (text : String) : Prop := text ≠ "" ∧ ∀ c ∈ text.toList, c.isDigit = true

/-- Digits with a point among them, perhaps behind a minus sign. -/
def Pointed (text : String) : Prop :=
  ∃ negative whole fraction, Digits whole ∧ Digits fraction ∧
    text = sign negative ++ whole ++ "." ++ fraction

/-- Digits, perhaps with a point among them, and perhaps behind a minus sign. -/
def Literal (text : String) : Prop :=
  Pointed text ∨ ∃ negative whole, Digits whole ∧ text = sign negative ++ whole

theorem digits_ofList {cs : List Char} (hcs : cs ≠ []) (h : ∀ c ∈ cs, c.isDigit = true) :
    Digits (String.ofList cs) := by
  refine ⟨fun hempty => hcs ?_, by rwa [String.toList_ofList]⟩
  rw [← String.toList_ofList (l := cs), hempty, String.toList_empty]

/-- Zeros behind digits, if any. -/
theorem Digits.append_zeros {text : String} (h : Digits text) (n : ℕ) :
    Digits (text ++ zeros n) := by
  refine ⟨fun hempty => h.1 (String.append_eq_empty_iff.1 hempty).1, fun c hc => ?_⟩
  rw [String.toList_append, List.mem_append] at hc
  exact hc.elim (h.2 c) (isDigit_of_mem_zeros c)

/-- Zeros in front of digits, if any. -/
theorem Digits.zeros_append {text : String} (h : Digits text) (n : ℕ) :
    Digits (zeros n ++ text) := by
  refine ⟨fun hempty => h.1 (String.append_eq_empty_iff.1 hempty).2, fun c hc => ?_⟩
  rw [String.toList_append, List.mem_append] at hc
  exact hc.elim (isDigit_of_mem_zeros c) (h.2 c)

theorem digits_natural (n : ℕ) : Digits (toString n) := by
  refine ⟨?_, isDigit_of_mem_natural⟩
  rw [Nat.toString_eq_repr]
  exact Nat.repr_ne_empty

/-- **A decimal that ends before the point** is written with digits alone. -/
theorem positional_of_nonneg {d : Decimal} (h : 0 ≤ d.exponent) : Digits (positional d) := by
  rw [positional, if_pos h, String.ofList_toList]
  exact (digits_natural d.digits).append_zeros _

/-- **A decimal that goes on behind the point** is written with digits on both
sides of it. -/
theorem positional_of_neg {d : Decimal} (h : d.exponent < 0) :
    ∃ whole fraction, Digits whole ∧ Digits fraction ∧
      positional d = whole ++ "." ++ fraction := by
  obtain ⟨hsome, hdigits⟩ := digits_natural d.digits
  have hpart : ∀ {cs : List Char}, cs ≠ [] → cs ⊆ (toString d.digits).toList →
      Digits (String.ofList cs) :=
    fun hcs hsub => digits_ofList hcs fun c hc => hdigits c (hsub hc)
  have hlength : (toString d.digits).toList.length ≠ 0 := by
    rwa [Ne, List.length_eq_zero_iff, String.toList_eq_nil_iff]
  unfold positional
  rw [if_neg (not_le.2 h)]
  dsimp only
  split
  · rename_i hplaces
    refine ⟨_, _, hpart (fun hnil => ?_) (List.take_subset _ _),
      hpart (fun hnil => ?_) (List.drop_subset _ _), rfl⟩
    · rw [← List.length_eq_zero_iff, List.length_take] at hnil
      omega
    · rw [List.drop_eq_nil_iff] at hnil
      omega
  · have hall := hpart (fun hnil => hlength (by rw [hnil, List.length_nil])) (List.Subset.refl _)
    exact ⟨"0", _, digits_natural 0, hall.zeros_append _, String.append_assoc⟩

theorem literal_positional (negative : Bool) (d : Decimal) :
    Literal (sign negative ++ positional d) := by
  rcases lt_or_ge d.exponent 0 with hneg | hnonneg
  · obtain ⟨whole, fraction, hwhole, hfraction, heq⟩ := positional_of_neg hneg
    exact .inl ⟨negative, whole, fraction, hwhole, hfraction, by
      rw [heq, ← String.append_assoc, ← String.append_assoc]⟩
  · exact .inr ⟨negative, _, positional_of_nonneg hnonneg, rfl⟩

/-- **A finite double** is written with digits, and no exponent. -/
theorem literal_plain {x : Float} (hx : x.isFinite = true) : Literal (plain x) := by
  rw [Binary.isFinite_double] at hx
  unfold plain
  cases hparts : Binary.ofDouble x with
  | notANumber => rw [hparts] at hx; cases hx
  | infinity s => rw [hparts] at hx; cases hx
  | zero s => exact .inr ⟨_, "0", digits_natural 0, rfl⟩
  | finite s m e hm => exact literal_positional _ _

theorem integer?_eq_none {s : UnpackedFloat.Sign} {m : ℕ} {e : ℤ} {hm : 0 < m}
    (h : Binary.integer? (.finite s m e hm) = none) : e < 0 ∧ m % 2 ^ (-e).toNat ≠ 0 := by
  rw [Binary.integer?] at h
  split_ifs at h with he hrest
  exact ⟨not_le.1 he, hrest⟩

theorem log2_lt_of_canonical {s : UnpackedFloat.Sign} {m : ℕ} {e : ℤ} {hm : 0 < m}
    (h : Binary.Canonical .binary64 (.finite s m e hm)) : m.log2 < 53 := by
  have hwidth : Format.binary64.mantissaBits = 53 := by decide
  simp only [Binary.Canonical, Format.targetExponent, totalExponent, hwidth] at h
  omega

theorem pointed_natural (negative : Bool) (n : ℕ) : Pointed (sign negative ++ toString n ++ ".0") :=
  ⟨negative, toString n, "0", digits_natural n, digits_natural 0,
    (@String.append_assoc (sign negative ++ toString n) "." "0").symm⟩

/-- **A finite double in a shader** is written with a point, and no exponent. -/
theorem pointed_literal {x : Float} (hx : x.isFinite = true) : Pointed (literal x) := by
  have hcanonical := (Binary.valued_ofDouble hx).canonical
  rw [Binary.isFinite_double] at hx
  unfold literal
  split
  · exact pointed_natural _ _
  rename_i hwhole
  unfold plain
  cases hparts : Binary.ofDouble x with
  | notANumber => rw [hparts] at hx; cases hx
  | infinity s => rw [hparts] at hx; cases hx
  | zero s => rw [hparts] at hwhole; cases hwhole
  | finite s m e hm =>
    rw [hparts] at hwhole hcanonical
    obtain ⟨he, hrest⟩ := integer?_eq_none hwhole
    have hexponent : (Shortest.double .up m e).exponent < 0 :=
      double_exponent_neg (log2_lt_of_canonical hcanonical) he hrest
    obtain ⟨whole, fraction, hw, hf, heq⟩ := positional_of_neg hexponent
    refine ⟨s == .negative, whole, fraction, hw, hf, ?_⟩
    rw [written, layPlain, heq, ← String.append_assoc, ← String.append_assoc]

/-! ## What is no number of a shader -/

/-- A number of a shader is spelled without letters. -/
theorem Literal.spelling {text : String} (h : Literal text) :
    ∀ c ∈ text.toList, c.isDigit = true ∨ c = '-' ∨ c = '.' := by
  have hsign : ∀ negative, ∀ c ∈ (sign negative).toList, c = '-' := by
    intro negative c hc
    cases negative with
    | false => cases hc
    | true => exact List.mem_singleton.1 hc
  rcases h with ⟨negative, whole, fraction, hwhole, hfraction, rfl⟩ | ⟨negative, whole, hwhole, rfl⟩
  · intro c hc
    simp only [String.toList_append, List.mem_append] at hc
    rcases hc with ((hc | hc) | hc) | hc
    · exact .inr (.inl (hsign _ c hc))
    · exact .inl (hwhole.2 c hc)
    · exact .inr (.inr (List.mem_singleton.1 hc))
    · exact .inl (hfraction.2 c hc)
  · intro c hc
    rw [String.toList_append, List.mem_append] at hc
    exact hc.symm.imp (hwhole.2 c) fun hc => .inl (hsign _ c hc)

theorem not_literal_inf : ¬ Literal "inf" := by
  intro h
  rcases h.spelling 'i' (by decide) with hletter | hletter | hletter <;> revert hletter <;> decide

/-- **An infinity** is written as a word. -/
theorem literal_of_infinity {x : Float} (hx : Binary.ofDouble x = .infinity .positive) :
    literal x = "inf" := by
  rw [literal, plain, hx]
  rfl

end FloatText

end ParticleTimeline
