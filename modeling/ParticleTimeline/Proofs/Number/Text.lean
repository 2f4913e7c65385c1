import ParticleTimeline.Number.Text
import Std.Data.String.ToNat
/-!
# What floats are written with

Every layout of a float without an exponent is spelled with digits, a sign, a
point and the letters of two words (`FloatText.spelled_plain`,
`FloatText.spelled_literal`). So a float can stand anywhere in a shader
without opening or closing anything there. In JSON a single that is not finite
is null (`FloatText.json32_eq_null`).
-/

namespace ParticleTimeline

namespace FloatText

open Shortest (Decimal)

/-- Whether a character can be one of a float: a digit, the sign, the point,
or a letter of the words for what is no number. -/
def isGlyph (c : Char) : Bool := c.isDigit || ['-', '.', 'N', 'a', 'i', 'n', 'f'].contains c

/-- A text that a float could be written as. -/
def Spelled (text : String) : Prop := ∀ c ∈ text.toList, isGlyph c = true

theorem spelled_iff {text : String} : Spelled text ↔ text.toList.all isGlyph = true :=
  List.all_eq_true.symm

instance (text : String) : Decidable (Spelled text) := decidable_of_iff _ spelled_iff.symm

theorem Spelled.append {text text' : String} (h : Spelled text) (h' : Spelled text') :
    Spelled (text ++ text') := by
  intro c hc
  rw [String.toList_append, List.mem_append] at hc
  exact hc.elim (h c) (h' c)

/-- Characters that all occur in such a text. -/
theorem Spelled.of_subset {text : String} {cs : List Char} (h : Spelled text)
    (hcs : cs ⊆ text.toList) : Spelled (String.ofList cs) := by
  intro c hc
  rw [String.toList_ofList] at hc
  exact h c (hcs hc)

theorem isDigit_of_mem_natural {n : Nat} : ∀ c ∈ (toString n).toList, c.isDigit = true := by
  intro c hc
  rw [Nat.toString_eq_repr, Nat.toList_repr] at hc
  exact Nat.isDigit_of_mem_toDigits (by decide) (by decide) hc

theorem isDigit_of_mem_zeros {n : Nat} : ∀ c ∈ (zeros n).toList, c.isDigit = true := by
  intro c hc
  rw [zeros, String.toList_ofList] at hc
  obtain rfl := List.eq_of_mem_replicate hc
  rfl

theorem spelled_of_isDigit {text : String} (h : ∀ c ∈ text.toList, c.isDigit = true) :
    Spelled text := by
  intro c hc
  rw [isGlyph, h c hc, Bool.true_or]

theorem spelled_natural (n : Nat) : Spelled (toString n) :=
  spelled_of_isDigit isDigit_of_mem_natural

theorem spelled_sign (negative : Bool) : Spelled (sign negative) := by
  cases negative <;> decide

theorem spelled_zeros (n : Nat) : Spelled (zeros n) := spelled_of_isDigit isDigit_of_mem_zeros

theorem spelled_positional (d : Decimal) : Spelled (positional d) := by
  have hdigits := spelled_natural d.digits
  have hall : Spelled (String.ofList (toString d.digits).toList) :=
    hdigits.of_subset (List.Subset.refl _)
  unfold positional
  split
  · exact hall.append (spelled_zeros _)
  · dsimp only
    split
    -- The point stands among the digits, or zeros stand between it and them.
    · exact ((hdigits.of_subset (List.take_subset _ _)).append (by decide)).append
        (hdigits.of_subset (List.drop_subset _ _))
    · exact (Spelled.append (by decide) (spelled_zeros _)).append hall

theorem spelled_layPlain (w : Written) : Spelled (layPlain w) := by
  cases w with
  | nan => decide
  | infinite negative => exact (spelled_sign negative).append (by decide)
  | finite negative size =>
    cases size with
    | none => exact (spelled_sign negative).append (by decide)
    | some d => exact (spelled_sign negative).append (spelled_positional d)

theorem spelled_plain (x : Float) : Spelled (plain x) := spelled_layPlain _

theorem spelled_literal (x : Float) : Spelled (literal x) := by
  unfold literal
  split
  · exact ((spelled_sign _).append (spelled_natural _)).append (by decide)
  · exact spelled_plain x

theorem json32_eq_null {x : Float32} (h : ¬ x.isFinite = true) : json32 x = "null" := by
  have hparts : ¬ (Binary.ofSingle x).isFinite = true := h
  unfold json32
  cases hx : Binary.ofSingle x with
  | notANumber => rfl
  | infinity s => rfl
  | zero s => exact absurd (by rw [hx]; rfl) hparts
  | finite s m e hm => exact absurd (by rw [hx]; rfl) hparts

end FloatText

end ParticleTimeline
