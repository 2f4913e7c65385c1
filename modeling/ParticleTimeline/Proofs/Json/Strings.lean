import Mathlib.Tactic.SplitIfs
import ParticleTimeline.Json.Printer
import ParticleTimeline.Json.Reader
/-!
# Strings that are read back

Every character is read back from the way it is written inside a string: as
it is, behind a backslash, or by its number (`stringSteps_escape`). So a
string in quotes is read as what it was (`string_quote`), whatever follows
it.
-/

namespace ParticleTimeline

namespace Json

open Reader (stringSteps hexValue? hex4 unicodeEscape)

/-- The characters that a string in quotes consists of. -/
def escaped (cs : List Char) : List Char := cs.flatMap fun c => (escapeCharacter c).toList

theorem toList_quote (s : String) : (quote s).toList = '"' :: escaped s.toList ++ ['"'] := by
  have hfold : ∀ (cs : List Char) (out : String),
      (cs.foldl (fun out c => out ++ escapeCharacter c) out).toList
        = out.toList ++ escaped cs := by
    intro cs
    induction cs with
    | nil => simp [escaped]
    | cons c cs ih =>
      intro out
      simp only [List.foldl_cons, ih, String.toList_append, escaped, List.flatMap_cons,
        List.append_assoc]
  simp only [quote, String.toList_append, hfold, List.cons_append]
  rfl

/-- The number of a control is read back from its two digits. -/
theorem unicodeEscape_control {c : Char} (h : c.toNat < 0x20) (rest : List Char) :
    unicodeEscape true
        ('0' :: '0' :: Nat.digitChar (c.toNat / 16) :: Nat.digitChar (c.toNat % 16) :: rest)
      = .ok (c, rest) := by
  have hdigits : ∀ n < 0x20, hexValue? (Nat.digitChar (n / 16)) = some (n / 16) ∧
      hexValue? (Nat.digitChar (n % 16)) = some (n % 16) := by decide
  have hzero : hexValue? '0' = some 0 := by decide
  obtain ⟨hhigh, hlow⟩ := hdigits c.toNat h
  have hnumber : ((0 * 16 + 0) * 16 + c.toNat / 16) * 16 + c.toNat % 16 = c.toNat := by omega
  have hlower : ¬ (0xDC00 ≤ c.toNat ∧ c.toNat ≤ 0xDFFF) := by omega
  have hplain : c.toNat < 0xD800 ∨ 0xDBFF < c.toNat := by omega
  simp only [unicodeEscape, hex4, hzero, hhigh, hlow, hnumber, bind, Except.bind, pure,
    Except.pure, Bool.not_true, Bool.false_eq_true, if_false, hlower, hplain, if_true,
    Char.ofNat_toNat]

/-- **A character is read back from the way it is written.** -/
theorem stringSteps_escape (n : Nat) (taken : List Char) (c : Char) (rest : List Char) :
    stringSteps true (n + 1) taken ((escapeCharacter c).toList ++ rest)
      = stringSteps true n (c :: taken) rest := by
  unfold escapeCharacter
  by_cases hcontrol : c.toNat < 0x20
  · split_ifs with hquote hslash hline hreturn htab hback hfeed
    · exact absurd hcontrol (by rw [hquote]; decide)
    · exact absurd hcontrol (by rw [hslash]; decide)
    · subst hline; rfl
    · subst hreturn; rfl
    · subst htab; rfl
    · subst hback; rfl
    · subst hfeed; rfl
    · rw [String.toList_append, String.toList_ofList (l := [_, _])]
      change stringSteps true (n + 1) taken ('\\' :: 'u' :: '0' :: '0'
        :: Nat.digitChar (c.toNat / 16) :: Nat.digitChar (c.toNat % 16) :: rest) = _
      simp only [stringSteps, unicodeEscape_control hcontrol rest, bind, Except.bind]
      rfl
  · split_ifs with hquote hslash hline hreturn htab hback hfeed
    · subst hquote; rfl
    · subst hslash; rfl
    · exact absurd (by rw [hline]; decide) hcontrol
    · exact absurd (by rw [hreturn]; decide) hcontrol
    · exact absurd (by rw [htab]; decide) hcontrol
    · exact absurd (by rw [hback]; decide) hcontrol
    · exact absurd (by rw [hfeed]; decide) hcontrol
    · -- Anything else stands for itself.
      rw [Char.toString_eq_singleton, String.toList_singleton]
      simp only [List.singleton_append, stringSteps, if_neg hquote, if_neg hslash,
        if_neg hcontrol]

theorem stringSteps_escaped (cs taken rest : List Char) {fuel : Nat} (h : cs.length < fuel) :
    stringSteps true fuel taken (escaped cs ++ '"' :: rest)
      = .ok (String.ofList (taken.reverse ++ cs), rest) := by
  induction cs generalizing taken fuel with
  | nil =>
    obtain ⟨n, rfl⟩ : ∃ n, fuel = n + 1 := ⟨fuel - 1, by simp only [List.length_nil] at h; omega⟩
    simp [escaped, stringSteps]
  | cons c cs ih =>
    simp only [List.length_cons] at h
    obtain ⟨n, rfl⟩ : ∃ n, fuel = n + 1 := ⟨fuel - 1, by omega⟩
    have hcons : escaped (c :: cs) = (escapeCharacter c).toList ++ escaped cs := rfl
    rw [hcons, List.append_assoc, stringSteps_escape, ih (c :: taken) (by omega)]
    simp

/-- Nothing is written as nothing. -/
theorem length_le_escaped (cs : List Char) : cs.length ≤ (escaped cs).length := by
  have hone : ∀ c, 1 ≤ (escapeCharacter c).toList.length := by
    intro c
    unfold escapeCharacter
    split_ifs <;> simp
  induction cs with
  | nil => exact Nat.le_refl _
  | cons c cs ih =>
    have := hone c
    simp only [escaped, List.flatMap_cons, List.length_append, List.length_cons] at ih ⊢
    omega

/-- **A string in quotes is read as what it was**, behind its opening quote. -/
theorem string_quote (s : String) (rest : List Char) :
    Reader.string true (escaped s.toList ++ '"' :: rest) = .ok (s, rest) := by
  have henough := length_le_escaped s.toList
  rw [Reader.string, stringSteps_escaped _ _ _ (by simp only [List.length_append]; omega)]
  simp

end Json

end ParticleTimeline
