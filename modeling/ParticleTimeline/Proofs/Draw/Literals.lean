import ParticleTimeline.Draw.Shell
import ParticleTimeline.Effect.Tint
import ParticleTimeline.Proofs.Number.Limit
import ParticleTimeline.Proofs.Number.Literal
import ParticleTimeline.Proofs.Timeline.Reload
import ParticleTimeline.Proofs.Timeline.Validity
/-!
# Numbers in the sources

An accepted document has finite windows, none of which ends before it begins, and
a grid whose sizes are singles. So its guards, the shape of its grid and the
begins of its windows are written as numbers of a shader. The length of a
repetition is as well (`EffectInstance.amount_period`), as long as the window it
comes from has one: a window of 2 ^ 1024 - 2 ^ 970 or more is infinitely long
(`EffectInstance.infinite_period`), and what is written for it is a word
(`TimelineDocument.numbers_literal`).
-/

namespace ParticleTimeline

open Binary (Amount Is exact)

/-! ## Windows -/

namespace EffectInstance

variable {i : EffectInstance}

/-- How long the window of an instance is, without rounding. -/
def extent (i : EffectInstance) : ℚ := exact i.timeEnd - exact i.timeBegin

/-- How often the window is divided. -/
theorem is_divisor (i : EffectInstance) : ∃ n : ℕ, 1 ≤ n ∧
    Is (if i.repetitions = 0 then 1 else i.repetitions).toFloat n := by
  refine ⟨_, ?_, Binary.is_toFloat _⟩
  split
  · decide
  · rename_i hsome
    exact Nat.one_le_iff_ne_zero.2 fun hnone => hsome (UInt32.toNat_inj.1 hnone)

section Finite

variable (hi : i.Writable)

include hi

theorem extent_nonneg (h : i.validate = .ok ()) : 0 ≤ i.extent := by
  have hwindow := (validate_eq_ok.1 h).1
  rw [gt_iff_lt, Binary.lt_iff_exact hi.timeEnd hi.timeBegin, not_lt] at hwindow
  exact sub_nonneg.2 hwindow

/-- **A window has a length** just when it is below the limit of the doubles. -/
theorem isFinite_duration_iff (h : i.validate = .ok ()) :
    i.duration.isFinite = true ↔ i.extent < 2 ^ 1024 - 2 ^ 970 := by
  refine ⟨fun hfinite => ?_, fun hextent => ?_⟩
  · by_contra hextent
    have hduration : Binary.ofDouble i.duration = .infinity .positive :=
      Binary.sub_of_le hi.timeEnd hi.timeBegin (not_lt.1 hextent)
    rw [Binary.isFinite_double, hduration] at hfinite
    cases hfinite
  · exact (Binary.amount_sub_of_lt hi.timeEnd hi.timeBegin
      (sub_nonneg.1 (extent_nonneg hi h)) hextent).finite

/-- **A repetition has a length**, if the window has. -/
theorem amount_period (h : i.validate = .ok ()) (hextent : i.extent < 2 ^ 1024 - 2 ^ 970) :
    Amount i.period := by
  obtain ⟨n, hn, hdivisor⟩ := i.is_divisor
  have hduration : Amount i.duration := Binary.amount_sub_of_lt hi.timeEnd hi.timeBegin
    (sub_nonneg.1 (extent_nonneg hi h)) hextent
  refine Binary.amount_div hduration hdivisor.finite ?_
  rw [hdivisor.exact_eq]
  exact_mod_cast hn

/-- **A window beyond the doubles** makes the repetitions infinitely long, however
many there are. -/
theorem infinite_period (hextent : 2 ^ 1024 - 2 ^ 970 ≤ i.extent) :
    Binary.ofDouble i.period = .infinity .positive := by
  obtain ⟨n, hn, hdivisor⟩ := i.is_divisor
  have hduration : Binary.ofDouble i.duration = .infinity .positive :=
    Binary.sub_of_le hi.timeEnd hi.timeBegin hextent
  refine Binary.div_of_infinity hduration hdivisor.finite ?_
  rw [hdivisor.exact_eq]
  exact_mod_cast hn

end Finite

end EffectInstance

/-! ## Progress -/

namespace Request

open FloatText (literal)

variable {r : Request}

/-- The expression for how far a repetition has got, with the begin of the window
and the length of the repetition as they are written. -/
def progressIn (start period : String) : String :=
  "(mod(globalTime - " ++ start ++ ", " ++ period ++ ") / " ++ period ++ ")"

theorem progress_eq (r : Request) : r.progress = if r.subject.period ≤ 0.0 then "0.0" else
    progressIn (literal r.subject.timeBegin) (literal r.subject.period) := rfl

theorem progress_of_infinite (h : Binary.ofDouble r.subject.period = .infinity .positive) :
    r.progress = progressIn (literal r.subject.timeBegin) "inf" := by
  have hpos : ¬ r.subject.period ≤ 0.0 := by
    have hparts : Binary.ofDouble 0.0 = .zero .positive := rfl
    rw [Scalar.le_iff_unpack]
    change ¬ Float.Model.UnpackedFloat.le (Binary.ofDouble _) (Binary.ofDouble 0.0) = true
    rw [h, hparts]
    decide
  rw [progress_eq, if_neg hpos, FloatText.literal_of_infinity h]

end Request

/-! ## The prologue -/

namespace Shell

open Float.Model

variable {c : TimelineConfig}

/-- **The shape of a grid** that can be had is a finite single: its sizes are
singles, and the quotient is not larger than the width. -/
theorem isFinite_gridAspect (h : GridHolds c.gridWidth c.gridHeight) :
    (gridAspect c).isFinite = true := by
  obtain ⟨hwidth, hheight, hproduct⟩ := h
  have hmax : (max c.gridHeight 1).toNat = c.gridHeight.toNat := by
    change (if c.gridHeight ≤ 1 then 1 else c.gridHeight).toNat = c.gridHeight.toNat
    split
    · rename_i hone
      exact le_antisymm hheight (UInt32.le_iff_toNat_le.1 hone)
    · rfl
  have hlimit : maxParticles = 2 ^ 24 := rfl
  have hacross : c.gridWidth.toNat ≤ 2 ^ 24 := by
    rw [← hlimit]
    exact (Nat.le_mul_of_pos_right _ hheight).trans hproduct
  have hdown : c.gridHeight.toNat ≤ 2 ^ 24 := by
    rw [← hlimit]
    exact (Nat.le_mul_of_pos_left _ hwidth).trans hproduct
  have hw : (0 : ℚ) < c.gridWidth.toNat := by exact_mod_cast hwidth
  have hh : (1 : ℚ) ≤ c.gridHeight.toNat := by exact_mod_cast hheight
  -- The quotient is no greater than the width, which 24 bits hold exactly.
  have hquotient : 0 < (c.gridWidth.toNat : ℚ) / c.gridHeight.toNat := div_pos hw (by linarith)
  have hbits : Format.binary32.mantissaBits = 24 := by decide
  have hrounded : Binary.rounded .binary32 ((c.gridWidth.toNat : ℚ) / c.gridHeight.toNat)
      ≤ c.gridWidth.toNat :=
    Binary.rounded_le hquotient (div_le_self hw.le hh)
      (Binary.representable_natCast (by rwa [hbits]))
  have hfits : |Binary.rounded .binary32 ((c.gridWidth.toNat : ℚ) / c.gridHeight.toNat)|
      < 2 ^ 128 := by
    rw [abs_of_nonneg (Binary.rounded_nonneg hquotient.le)]
    refine hrounded.trans_lt ?_
    exact_mod_cast hacross.trans_lt (Nat.pow_lt_pow_right (by decide) (by decide))
  have hvalued := Binary.valued_single_div (Binary.valued_natural hacross)
    (Binary.valued_natural hdown) (by linarith) hfits
  rw [gridAspect, hmax]
  exact hvalued.finite

/-- What the prologue writes into the vertex stage, with the shape of the grid as it
is written. -/
def opening (aspect : String) : String := lines [
  "vec3 initialPosition = vec3(texcoord * 2.0 - 1.0, 0.0);",
  "initialPosition.x *= " ++ aspect ++ ";",
  "vec3 position = initialPosition;",
  "vec3 color = rgb;",
  "float pointSize = particleSize;"]

theorem endLine_opening (aspect : String) :
    ShaderSource.endLine (opening aspect) = opening aspect ++ "\n" := by
  have hlast : (opening aspect).toList.getLast? = some ';' := by
    have hline : "float pointSize = particleSize;".toList.getLast? = some ';' := by decide
    simp only [opening, lines, String.intercalate_cons_cons, String.intercalate_singleton,
      String.toList_append, List.getLast?_append, hline, Option.some_or]
  rw [ShaderSource.endLine, hlast, if_neg (by decide)]

theorem prologue_mainBody (c : TimelineConfig) (s : Stages) :
    (prologue c s).vertex.mainBody = s.vertex.mainBody
        ++ (opening (FloatText.literal (Binary.widen (gridAspect c))) ++ "\n") ∧
      (prologue c s).fragment.mainBody = s.fragment.mainBody ++ "vec3 color = v_color;\n" := by
  rw [← endLine_opening]
  exact ⟨rfl, rfl⟩

end Shell

/-! ## Documents -/

namespace TimelineDocument

open FloatText (Literal Pointed)
open Request (progressIn)

/-- **Every number in the sources** of an accepted document is written with digits
alone, and with a point where the shader is to read a float. That holds of the
times in a guard, of the shape of the grid, and of the begin of a window and the
length of a repetition in the expression for the progress, unless the window is
too long for the doubles: then a word stands for the length. -/
theorem numbers_literal {text : String} {d : TimelineDocument} (h : parse text = .ok d) :
    (∀ i ∈ d.config.instances,
      (∃ first last, Literal first ∧ Literal last ∧
        i.guard = "if (" ++ first ++ " <= globalTime && globalTime <= " ++ last ++ ") \x7b") ∧
      ∀ r : Request, r.subject = i → ∃ start, Pointed start ∧
        (i.extent < 2 ^ 1024 - 2 ^ 970 → ∃ period, Pointed period ∧
          (r.progress = "0.0" ∨ r.progress = progressIn start period)) ∧
        (2 ^ 1024 - 2 ^ 970 ≤ i.extent → r.progress = progressIn start "inf")) ∧
    ∃ aspect, Pointed aspect ∧ ∀ s : Stages,
      (Shell.prologue d.config s).vertex.mainBody
        = s.vertex.mainBody ++ (Shell.opening aspect ++ "\n") ∧
      (Shell.prologue d.config s).fragment.mainBody
        = s.fragment.mainBody ++ "vec3 color = v_color;\n" := by
  obtain ⟨hvalid, hwritable⟩ := accepted h
  obtain ⟨⟨count, hcount⟩, hinstances⟩ := TimelineConfig.validate_eq_ok.1 hvalid
  have hgrid := (gridParticleCount_eq_ok_iff.1 hcount).1
  refine ⟨fun i hi => ⟨?_, ?_⟩, ?_⟩
  · exact ⟨_, _, FloatText.literal_plain (hwritable i hi).timeBegin,
      FloatText.literal_plain (hwritable i hi).timeEnd, rfl⟩
  · rintro r rfl
    refine ⟨_, FloatText.pointed_literal (hwritable _ hi).timeBegin, fun hextent => ?_,
      fun hextent => ?_⟩
    · have hperiod := EffectInstance.amount_period (hwritable _ hi) (hinstances _ hi) hextent
      refine ⟨_, FloatText.pointed_literal hperiod.finite, ?_⟩
      rw [Request.progress_eq]
      exact ite_eq_or_eq _ _ _
    · exact Request.progress_of_infinite (EffectInstance.infinite_period (hwritable _ hi) hextent)
  · have haspect := Binary.isFinite_widen (Shell.isFinite_gridAspect hgrid)
    exact ⟨_, FloatText.pointed_literal haspect, Shell.prologue_mainBody d.config⟩

/-- The window of the instance is written with a point, with its begin and its
length. -/
theorem numbers_literal_lenient : ∃ d, parse lenient = .ok d ∧ ∃ i ∈ d.config.instances,
    i.extent < 2 ^ 1024 - 2 ^ 970 ∧ ∀ r : Request, r.subject = i →
      ∃ start period, Pointed start ∧ Pointed period ∧
        (r.progress = "0.0" ∨ r.progress = progressIn start period) := by
  have hcheck : acceptedAnd lenient (fun d =>
      d.config.instances.any (·.duration.isFinite)) = true := by decide +kernel
  obtain ⟨d, hd, hany⟩ := exists_of_acceptedAnd hcheck
  obtain ⟨i, hi, hfinite⟩ := List.any_eq_true.1 hany
  have hvalid := (TimelineConfig.validate_eq_ok.1 (accepted hd).1).2 i hi
  have hextent := (EffectInstance.isFinite_duration_iff ((accepted hd).2 i hi) hvalid).1 hfinite
  refine ⟨d, hd, i, hi, hextent, fun r hr => ?_⟩
  obtain ⟨start, hstart, hperiod, -⟩ := ((numbers_literal hd).1 i hi).2 r hr
  obtain ⟨period, hpointed, hprogress⟩ := hperiod hextent
  exact ⟨start, period, hstart, hpointed, hprogress⟩

/-- A document with a window that is longer than the largest double. -/
def overlong : String :=
  "\x7b\"particleGridWidth\":1,\"particleGridHeight\":1,
    \"tracks\":[[\x7b\"effectId\":\"Colorize\",\"timeBegin\":-1e308,\"timeEnd\":1e308\x7d]]\x7d"

/-- **A document that is accepted** has the fragment stage calculate with a word
that is no number. -/
theorem overlong_written : ∃ d, parse overlong = .ok d ∧ ∃ i ∈ d.config.instances,
    i.effectId = Effect.colorize.id ∧ ¬ Literal "inf" ∧
      ∀ r : Request, r.subject = i → ∃ start,
        Move.act (.addMain .fragment ("color = mix(color, " ++ r.identifier "color" ++ ", "
          ++ r.identifier "amount" ++ " * sin(" ++ progressIn start "inf"
          ++ " * 3.14159265359));")) ∈ (Effect.colorize.register r).moves := by
  have hcheck : acceptedAnd overlong (fun d => d.config.instances.any fun i =>
      decide (i.effectId = Effect.colorize.id) && !i.duration.isFinite) = true := by decide +kernel
  obtain ⟨d, hd, hany⟩ := exists_of_acceptedAnd hcheck
  obtain ⟨i, hi, hall⟩ := List.any_eq_true.1 hany
  rw [Bool.and_eq_true, decide_eq_true_eq, Bool.not_eq_true'] at hall
  obtain ⟨hid, hinfinite⟩ := hall
  have hwritable := (accepted hd).2 i hi
  have hvalid := (TimelineConfig.validate_eq_ok.1 (accepted hd).1).2 i hi
  have hextent : 2 ^ 1024 - 2 ^ 970 ≤ i.extent := by
    rw [← not_lt, ← EffectInstance.isFinite_duration_iff hwritable hvalid, hinfinite]
    decide
  refine ⟨d, hd, i, hi, hid, FloatText.not_literal_inf, ?_⟩
  rintro r rfl
  have hprogress := Request.progress_of_infinite (EffectInstance.infinite_period hwritable hextent)
  refine ⟨FloatText.literal r.subject.timeBegin, ?_⟩
  rw [← hprogress]
  exact List.mem_of_getLast? rfl

end TimelineDocument

end ParticleTimeline
