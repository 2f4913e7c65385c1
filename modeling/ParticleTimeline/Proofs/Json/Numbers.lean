import Mathlib.Data.List.TakeDrop
import Mathlib.Data.List.TakeWhile
import Mathlib.Tactic.SplitIfs
import ParticleTimeline.Json.Printer
import ParticleTimeline.Json.Reader
import Std.Data.String.ToNat
/-!
# Numbers that are read back

A number is read up to the first character that cannot belong to it, so what
follows it does not matter as long as it does not run into it (`Ends`,
`Reader.number_append`). Whole numbers are read back from their digits
(`Reader.number_natural`, `Reader.number_negative`).
-/

namespace ParticleTimeline

namespace Json

/-- What can stand behind a number without running into it. -/
def Ends (rest : List Char) : Prop :=
  ∀ c ∈ rest.head?, c.isDigit = false ∧ c ≠ '.' ∧ c ≠ 'e' ∧ c ≠ 'E'

theorem ends_cons {c : Char} {rest : List Char} :
    Ends (c :: rest) ↔ c.isDigit = false ∧ c ≠ '.' ∧ c ≠ 'e' ∧ c ≠ 'E' := by
  simp [Ends]

namespace Reader

/-! ## What follows a number -/

variable {negative : Bool} {cs left rest : List Char} {n : JsonNumber}

/-- Digits are taken up to the first character that is none. -/
theorem span_append (h : Ends rest) (cs : List Char) :
    (cs ++ rest).span Char.isDigit
      = ((cs.span Char.isDigit).1, (cs.span Char.isDigit).2 ++ rest) := by
  simp only [List.span_eq_takeWhile_dropWhile]
  induction cs with
  | nil =>
    cases rest with
    | nil => rfl
    | cons c rest => simp [(ends_cons.1 h).1]
  | cons c cs ih =>
    simp only [Prod.mk.injEq] at ih
    cases hdigit : c.isDigit <;> simp [hdigit, ih]

theorem finish_append {gathered : Nat} {exponent : Int}
    (h : finish negative gathered exponent cs = .ok (n, left)) (rest : List Char) :
    finish negative gathered exponent (cs ++ rest) = .ok (n, left ++ rest) := by
  unfold finish at h ⊢
  cases hscaled : scaleByTen gathered exponent with
  | none => simp [hscaled, failHere] at h
  | some x =>
    simp only [hscaled, Except.ok.injEq, Prod.mk.injEq] at h ⊢
    exact ⟨h.1, by rw [h.2]⟩

theorem exponentDigits_append {gathered : Nat} {places : Int} {down : Bool} (hends : Ends rest)
    (h : exponentDigits true negative gathered places down cs = .ok (n, left)) :
    exponentDigits true negative gathered places down (cs ++ rest) = .ok (n, left ++ rest) := by
  unfold exponentDigits at h ⊢
  simp only [span_append hends] at h ⊢
  by_cases hempty : (cs.span Char.isDigit).1.isEmpty
  · rw [if_pos hempty] at h
    split_ifs at h <;> simp [failHere, failNext] at h
  · simp only [if_neg hempty, Bool.not_true, Bool.false_eq_true, if_false] at h ⊢
    cases hvalue : exponentValue 0 (cs.span Char.isDigit).1 with
    | ok e =>
      simp only [hvalue] at h ⊢
      exact finish_append h rest
    | error more =>
      simp only [hvalue] at h ⊢
      by_cases hbig : (decide (gathered ≠ 0) && !down) = true
      · rw [if_pos hbig] at h
        simp [failHere] at h
      · simp only [if_neg hbig, Except.ok.injEq, Prod.mk.injEq] at h ⊢
        exact ⟨h.1, by rw [h.2]⟩

/-! The parts of a number by the character that comes next. -/

theorem exponentPart_cons (negative : Bool) (gathered : Nat) (places : Int) (c : Char)
    (cs : List Char) :
    exponentPart true negative gathered places (c :: cs) =
      if c = '+' then exponentDigits true negative gathered places false cs
      else if c = '-' then exponentDigits true negative gathered places true cs
      else exponentDigits true negative gathered places false (c :: cs) := by
  unfold exponentPart
  split <;> simp_all

theorem scalePart_cons (negative : Bool) (gathered : Nat) (exponent : Int) (c : Char)
    (cs : List Char) :
    scalePart true negative gathered exponent (c :: cs) =
      if c = 'e' ∨ c = 'E' then exponentPart true negative gathered exponent cs
      else finish negative gathered exponent (c :: cs) := by
  unfold scalePart
  split <;> simp_all

theorem fractionPart_cons (negative : Bool) (gathered places : Nat) (c : Char) (cs : List Char) :
    fractionPart true negative gathered places (c :: cs) =
      if c = '.' then
        if (cs.span Char.isDigit).1.isEmpty then
          failNext (if cs.isEmpty then .endInValue else .invalidNumber) cs
        else
          scalePart true negative (gather gathered (cs.span Char.isDigit).1).1
            (places - (gather gathered (cs.span Char.isDigit).1).2) (cs.span Char.isDigit).2
      else if c = 'e' ∨ c = 'E' then exponentPart true negative gathered places cs
      else wholePart true negative gathered places (c :: cs) := by
  unfold fractionPart
  split <;> simp_all

theorem number_cons (negative : Bool) (c : Char) (cs : List Char) :
    number true negative (c :: cs) =
      if c = '0' then
        if cs.head?.any Char.isDigit then failNext .invalidNumber cs
        else fractionPart true negative 0 0 cs
      else if c.isDigit then
        fractionPart true negative (gather 0 ((c :: cs).span Char.isDigit).1).1
          (((c :: cs).span Char.isDigit).1.length - (gather 0 ((c :: cs).span Char.isDigit).1).2)
          ((c :: cs).span Char.isDigit).2
      else failNext .invalidNumber (c :: cs) := by
  by_cases hzero : c = '0'
  · subst hzero
    cases cs <;> rfl
  · rw [if_neg hzero]
    unfold number
    split
    · rename_i heq
      cases heq
    · rename_i heq
      exact absurd (List.cons.inj heq).1 hzero
    · rename_i heq
      obtain ⟨rfl, rfl⟩ := List.cons.inj heq
      rfl

theorem exponentPart_append {gathered : Nat} {places : Int} (hends : Ends rest)
    (h : exponentPart true negative gathered places cs = .ok (n, left)) :
    exponentPart true negative gathered places (cs ++ rest) = .ok (n, left ++ rest) := by
  cases cs with
  | nil => simp [exponentPart, exponentDigits, failHere] at h
  | cons c cs =>
    rw [exponentPart_cons] at h
    rw [List.cons_append, exponentPart_cons]
    split_ifs at h ⊢ with hplus hminus
    · exact exponentDigits_append hends h
    · exact exponentDigits_append hends h
    · exact exponentDigits_append hends h

theorem scalePart_append {gathered : Nat} {exponent : Int} (hends : Ends rest)
    (h : scalePart true negative gathered exponent cs = .ok (n, left)) :
    scalePart true negative gathered exponent (cs ++ rest) = .ok (n, left ++ rest) := by
  cases cs with
  | nil =>
    have hdone : finish negative gathered exponent [] = .ok (n, left) := h
    cases rest with
    | nil => simpa using h
    | cons c rest =>
      obtain ⟨-, -, he, hE⟩ := ends_cons.1 hends
      rw [List.nil_append, scalePart_cons, if_neg (by simp [he, hE])]
      exact finish_append hdone (c :: rest)
  | cons c cs =>
    rw [scalePart_cons] at h
    rw [List.cons_append, scalePart_cons]
    split_ifs at h ⊢ with hexponent
    · exact exponentPart_append hends h
    · exact finish_append h rest

theorem wholePart_append {gathered places : Nat}
    (h : wholePart true negative gathered places cs = .ok (n, left)) (rest : List Char) :
    wholePart true negative gathered places (cs ++ rest) = .ok (n, left ++ rest) := by
  simp only [wholePart, Bool.not_true, Bool.false_eq_true, if_false] at h ⊢
  split_ifs at h ⊢ with hplaces hnegative hsmall
  · exact finish_append h rest
  · simp only [Except.ok.injEq, Prod.mk.injEq] at h ⊢
    exact ⟨h.1, by rw [h.2]⟩
  · simp only [Except.ok.injEq, Prod.mk.injEq] at h ⊢
    exact ⟨h.1, by rw [h.2]⟩
  · simp only [Except.ok.injEq, Prod.mk.injEq] at h ⊢
    exact ⟨h.1, by rw [h.2]⟩

theorem fractionPart_append {gathered places : Nat} (hends : Ends rest)
    (h : fractionPart true negative gathered places cs = .ok (n, left)) :
    fractionPart true negative gathered places (cs ++ rest) = .ok (n, left ++ rest) := by
  cases cs with
  | nil =>
    have hdone : wholePart true negative gathered places [] = .ok (n, left) := h
    cases rest with
    | nil => simpa using h
    | cons c rest =>
      obtain ⟨-, hpoint, he, hE⟩ := ends_cons.1 hends
      rw [List.nil_append, fractionPart_cons, if_neg hpoint, if_neg (by simp [he, hE])]
      exact wholePart_append hdone (c :: rest)
  | cons c cs =>
    rw [fractionPart_cons] at h
    rw [List.cons_append, fractionPart_cons, span_append hends]
    by_cases hpoint : c = '.'
    · rw [if_pos hpoint] at h ⊢
      by_cases hempty : (cs.span Char.isDigit).1.isEmpty
      · rw [if_pos hempty] at h
        simp [failNext] at h
      · rw [if_neg hempty] at h ⊢
        exact scalePart_append hends h
    · rw [if_neg hpoint] at h ⊢
      by_cases hexponent : c = 'e' ∨ c = 'E'
      · rw [if_pos hexponent] at h ⊢
        exact exponentPart_append hends h
      · rw [if_neg hexponent] at h ⊢
        exact wholePart_append h rest

/-- **A number is read whatever follows it**, if that cannot belong to it. -/
theorem number_append (hends : Ends rest) (h : number true negative cs = .ok (n, left)) :
    number true negative (cs ++ rest) = .ok (n, left ++ rest) := by
  cases cs with
  | nil => simp [number, failHere] at h
  | cons c cs =>
    have hhead : ∀ cs : List Char,
        (cs ++ rest).head?.any Char.isDigit = cs.head?.any Char.isDigit := by
      intro cs
      cases cs with
      | nil =>
        cases rest with
        | nil => rfl
        | cons d rest => simp [(ends_cons.1 hends).1]
      | cons d cs => rfl
    rw [number_cons] at h
    rw [List.cons_append, number_cons, hhead, ← List.cons_append, span_append hends]
    split_ifs at h ⊢ with hzero hnext hdigit
    · simp [failNext] at h
    · exact fractionPart_append hends h
    · exact fractionPart_append hends h
    · simp [failNext] at h

/-! ## Whole numbers -/

/-- Digits are gathered to their number as long as it fits. -/
theorem gather_eq (cs : List Char) {start : Nat} (h : Nat.ofDigitChars 10 cs start ≤ maxGathered) :
    gather start cs = (Nat.ofDigitChars 10 cs start, cs.length) := by
  have hgrows : ∀ (cs : List Char) (start : Nat), start ≤ Nat.ofDigitChars 10 cs start := by
    intro cs
    induction cs with
    | nil => simp
    | cons c cs ih =>
      intro start
      have := ih (10 * start + (c.toNat - '0'.toNat))
      rw [Nat.ofDigitChars_cons]
      omega
  induction cs generalizing start with
  | nil => simp [gather]
  | cons c cs ih =>
    have hnext : start * 10 + digitValue c = 10 * start + (c.toNat - '0'.toNat) := by
      rw [digitValue, Nat.mul_comm]
    rw [Nat.ofDigitChars_cons] at h
    have hfits := Nat.le_trans (hgrows cs _) h
    simp only [gather, hnext, hfits, if_true, ih h, Nat.ofDigitChars_cons, List.length_cons]

/-- No number but zero begins with a zero. -/
theorem head_toDigits {n : Nat} (h : n ≠ 0) : ∀ c ∈ (Nat.toDigits 10 n).head?, c ≠ '0' := by
  induction n using Nat.strongRecOn with
  | ind n ih =>
    by_cases hsmall : n < 10
    · rw [Nat.toDigits_of_lt_base hsmall]
      simp only [List.head?_cons, Option.mem_def, Option.some.injEq]
      rintro c rfl hzero
      exact h (Nat.digitChar_eq_zero.1 hzero)
    · have hhead := ih (n / 10) (by omega) (by omega)
      rw [Nat.toDigits_of_base_le (by decide) (by omega)]
      cases hchars : Nat.toDigits 10 (n / 10) with
      | nil => exact absurd hchars Nat.toDigits_ne_nil
      | cons c cs => simpa [hchars] using hhead

/-- **A whole number is read from its digits**, and then whatever follows. -/
theorem number_digits {n : Nat} (h : n ≤ maxGathered) (hends : Ends rest) :
    number true negative (Nat.toDigits 10 n ++ rest) = wholePart true negative n 0 rest := by
  have hread : fractionPart true negative n 0 rest = wholePart true negative n 0 rest := by
    cases rest with
    | nil => rfl
    | cons c rest =>
      obtain ⟨-, hpoint, he, hE⟩ := ends_cons.1 hends
      rw [fractionPart_cons, if_neg hpoint, if_neg (by simp [he, hE])]
  -- The number ends where its digits end.
  have hnothing : (rest.span Char.isDigit).1 = [] ∧ (rest.span Char.isDigit).2 = rest := by
    have hspan := span_append hends []
    rw [List.nil_append] at hspan
    rw [hspan]
    exact ⟨rfl, rfl⟩
  by_cases hzero : n = 0
  · subst hzero
    rw [Nat.toDigits_zero, List.singleton_append, number_cons, if_pos rfl]
    cases rest with
    | nil => exact hread
    | cons c rest => rw [if_neg (by simp [(ends_cons.1 hends).1])]; exact hread
  · have hdigits : ∀ c ∈ Nat.toDigits 10 n, c.isDigit = true :=
      fun c hc => Nat.isDigit_of_mem_toDigits (by decide) (by decide) hc
    have hspan : (Nat.toDigits 10 n).span Char.isDigit = (Nat.toDigits 10 n, []) := by
      rw [List.span_eq_takeWhile_dropWhile, List.takeWhile_eq_self_iff.2 hdigits,
        List.dropWhile_eq_nil_iff.2 hdigits]
    have hgathered : gather 0 (Nat.toDigits 10 n) = (n, (Nat.toDigits 10 n).length) := by
      have hvalue : Nat.ofDigitChars 10 (Nat.toDigits 10 n) 0 = n :=
        Nat.ofDigitChars_toDigits (by decide) (by decide)
      rw [gather_eq _ (by rw [hvalue]; exact h), hvalue]
    have hhead := head_toDigits hzero
    cases hchars : Nat.toDigits 10 n with
    | nil => exact absurd hchars Nat.toDigits_ne_nil
    | cons c cs =>
      have hc : c ≠ '0' := hhead c (by rw [hchars]; rfl)
      have hdigit : c.isDigit = true := hdigits c (by rw [hchars]; exact List.mem_cons_self)
      rw [hchars] at hspan hgathered
      rw [List.cons_append, number_cons, if_neg hc, if_pos hdigit, ← List.cons_append,
        span_append hends, hspan, hgathered]
      simpa using hread

/-- **A number that is not negative is read back.** -/
theorem number_natural (n : UInt64) (hends : Ends rest) :
    number true false ((toString n.toNat).toList ++ rest) = .ok (.natural n, rest) := by
  have hfits : n.toNat ≤ maxGathered := by
    have := n.toNat_lt
    simp only [maxGathered, UInt64.size]
    omega
  rw [Nat.toString_eq_repr, Nat.toList_repr, number_digits hfits hends]
  simp [wholePart]

/-- **A number below zero is read back** behind its sign. -/
theorem number_negative {n : Int64} (hn : n < 0) (hends : Ends rest) :
    ∃ cs, (toString n.toInt).toList = '-' :: cs ∧
      number true true (cs ++ rest) = .ok (.negative n, rest) := by
  have hbelow : n.toInt < 0 := by simpa [Int64.lt_iff_toInt_lt] using hn
  have hleast := n.le_toInt
  obtain ⟨k, hk⟩ : ∃ k : Nat, n.toInt = Int.negSucc k := ⟨n.toInt.natAbs - 1, by omega⟩
  have hfits : k + 1 ≤ UInt64.size / 2 := by
    simp only [UInt64.size]
    omega
  have hgathered : k + 1 ≤ maxGathered := by
    simp only [maxGathered, UInt64.size] at hfits ⊢
    omega
  have htext : (toString n.toInt).toList = '-' :: Nat.toDigits 10 (k + 1) := by
    rw [hk]
    change ("-" ++ Nat.repr (k + 1)).toList = _
    rw [String.toList_append, Nat.toList_repr]
    rfl
  have hvalue : Int64.ofInt (-((k + 1 : Nat) : Int)) = n := by
    have hminus : -((k + 1 : Nat) : Int) = n.toInt := by rw [hk]; rfl
    rw [hminus, Int64.ofInt_toInt]
  refine ⟨Nat.toDigits 10 (k + 1), htext, ?_⟩
  rw [number_digits hgathered hends]
  simp only [wholePart, Bool.not_true, Bool.false_eq_true, if_false, ne_eq, not_true_eq_false,
    hvalue]
  rw [if_neg (by simp; omega)]

end Reader

end Json

end ParticleTimeline
