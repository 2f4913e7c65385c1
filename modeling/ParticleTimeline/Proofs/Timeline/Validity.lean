import ParticleTimeline.Proofs.Number.Single
import ParticleTimeline.Proofs.Particle.Grid
import ParticleTimeline.Proofs.Timeline.Config
/-!
# What validation finds

All that is wrong with a timeline can be listed: what is wrong with its grid,
and then what is wrong with one instance after the other, with its window and
with its repetitions (`TimelineConfig.violations`). Validation reports the
first of the list, and accepts a timeline for which it is empty
(`TimelineConfig.validate_eq_firstOf`). To count the particles of a grid and
to fill it come to the same verdict (`ParticleGrid.gradient_eq_error`).

A window is wrong when it ends before it begins. That is less than to ask that
it begins before it ends: next to what is no number there is neither before nor
after, so such a window is accepted (`TimelineConfig.unordered_accepted`).
-/

namespace ParticleTimeline

/-! ## Numbers -/

theorem eq_zero_iff_not_one_le {n : UInt32} : n = 0 ↔ ¬ 1 ≤ n.toNat := by
  rw [← UInt32.toNat_inj, UInt32.toNat_zero]
  omega

namespace Scalar

variable {x y : Float}

theorem lt_iff_unpack :
    x < y ↔ Float.Model.UnpackedFloat.lt x.toModel.unpack y.toModel.unpack = true := by
  change (decide (x.toModel < y.toModel) = true) ↔ _
  rw [decide_eq_true_iff]
  rfl

theorem isNaN_of_lt (h : x < y) : x.isNaN = false ∧ y.isNaN = false := by
  rw [lt_iff_unpack] at h
  change x.toModel.unpack.isNaN = false ∧ y.toModel.unpack.isNaN = false
  generalize x.toModel.unpack = u at h ⊢
  generalize y.toModel.unpack = v at h ⊢
  cases u <;> cases v <;> first | exact ⟨rfl, rfl⟩ | exact absurd h Bool.false_ne_true

/-- **What does not come before** is not below, or one of the two is no number. -/
theorem not_lt_iff : ¬ y < x ↔ x ≤ y ∨ x.isNaN = true ∨ y.isNaN = true := by
  cases hx : x.isNaN with
  | true =>
    refine iff_of_true (fun h => ?_) (.inr (.inl rfl))
    exact Bool.false_ne_true ((isNaN_of_lt h).2.symm.trans hx)
  | false =>
    cases hy : y.isNaN with
    | true =>
      refine iff_of_true (fun h => ?_) (.inr (.inr rfl))
      exact Bool.false_ne_true ((isNaN_of_lt h).1.symm.trans hy)
    | false =>
      have hparts := Binary.lt_eq_false_iff_le (u := y.toModel.unpack) (v := x.toModel.unpack) hy hx
      rw [lt_iff_unpack, le_iff_unpack, Bool.not_eq_true, hparts]
      simp only [Bool.false_eq_true, or_false]

end Scalar

/-! ## Lists of violations -/

namespace ConfigError

/-- The verdict on what has some violations. -/
def firstOf : List ConfigError → Except ConfigError Unit
  | [] => .ok ()
  | e :: _ => .error e

theorem firstOf_eq_ok {es : List ConfigError} : firstOf es = .ok () ↔ es = [] := by
  cases es <;> simp [firstOf]

theorem firstOf_eq_error {es : List ConfigError} {e : ConfigError} :
    firstOf es = .error e ↔ es.head? = some e := by
  cases es <;> simp [firstOf]

theorem firstOf_append (es fs : List ConfigError) :
    firstOf (es ++ fs) = firstOf es >>= fun _ => firstOf fs := by
  cases es <;> rfl

/-- **The first violation of several things** is found by looking at one after
the other. -/
theorem firstOf_flatMap {α : Type} (violations : α → List ConfigError) (as : List α) :
    firstOf (as.flatMap violations) = as.forM fun a => firstOf (violations a) := by
  induction as with
  | nil => rfl
  | cons a as ih =>
    rw [List.flatMap_cons, firstOf_append, ih]
    rfl

end ConfigError

open ConfigError (firstOf firstOf_append firstOf_flatMap)

/-! ## Instances -/

namespace EffectInstance

/-- What is wrong with an instance by itself. -/
def violations (i : EffectInstance) : List ConfigError :=
  (if i.timeEnd < i.timeBegin then [.invertedWindow i.effectId i.timeBegin i.timeEnd] else []) ++
    if i.repetitions = 0 then [.zeroRepetitions i.effectId] else []

theorem validate_eq_firstOf (i : EffectInstance) : i.validate = firstOf i.violations := by
  unfold validate violations
  by_cases hwindow : i.timeEnd < i.timeBegin
  · simp [hwindow, bind, Except.bind, throw, throwThe, MonadExceptOf.throw, firstOf]
  · by_cases hrepetitions : i.repetitions = 0
    · simp [hwindow, hrepetitions, throw, throwThe, MonadExceptOf.throw, firstOf]
    · simp [hwindow, hrepetitions, pure, Except.pure, firstOf]

theorem violations_eq_nil {i : EffectInstance} :
    i.violations = [] ↔ ¬ i.timeEnd < i.timeBegin ∧ 1 ≤ i.repetitions.toNat := by
  simp [violations, eq_zero_iff_not_one_le, Nat.one_le_iff_ne_zero]

end EffectInstance

/-! ## Grids -/

/-- The sizes of a grid that can be had: each at least one, and no more
particles than the limit. -/
def GridHolds (width height : UInt32) : Prop :=
  1 ≤ width.toNat ∧ 1 ≤ height.toNat ∧ width.toNat * height.toNat ≤ maxParticles

/-- What is wrong with the sizes of a grid. -/
def gridViolations (width height : UInt32) : List ConfigError :=
  if width = 0 ∨ height = 0 then [.emptyGrid width height]
  else if maxParticles < width.toNat * height.toNat then [.gridTooLarge width height]
  else []

section Grids

variable {width height : UInt32}

/-- **A grid is counted exactly**: its product does not wrap. -/
theorem gridParticleCount_eq_ok_iff {count : UInt32} :
    gridParticleCount width height = .ok count ↔
      GridHolds width height ∧ count.toNat = width.toNat * height.toNat := by
  rw [gridParticleCount_eq_ok, GridHolds, eq_zero_iff_not_one_le, eq_zero_iff_not_one_le]
  have hwrap : width.toNat * height.toNat ≤ maxParticles →
      (width * height).toNat = width.toNat * height.toNat := by
    intro hsmall
    rw [UInt32.toNat_mul]
    exact Nat.mod_eq_of_lt (Nat.lt_of_le_of_lt hsmall (by decide))
  constructor
  · rintro ⟨hsome, hsmall, rfl⟩
    rw [not_or, not_not, not_not] at hsome
    exact ⟨⟨hsome.1, hsome.2, hsmall⟩, hwrap hsmall⟩
  · rintro ⟨⟨hwidth, hheight, hsmall⟩, hcount⟩
    refine ⟨by omega, hsmall, ?_⟩
    rw [← UInt32.toNat_inj, hcount, hwrap hsmall]

theorem gridParticleCount_eq_error {e : ConfigError} :
    gridParticleCount width height = .error e ↔ (gridViolations width height).head? = some e := by
  unfold gridParticleCount gridViolations
  by_cases hempty : width = 0 ∨ height = 0
  · simp [hempty]
  · by_cases hlarge : maxParticles < width.toNat * height.toNat
    · simp [hempty, hlarge, Nat.not_le.2 hlarge]
    · simp [hempty, hlarge, Nat.not_lt.1 hlarge]

theorem gridViolations_eq_nil : gridViolations width height = [] ↔ GridHolds width height := by
  unfold gridViolations GridHolds
  split_ifs with hempty hlarge <;> rw [eq_zero_iff_not_one_le, eq_zero_iff_not_one_le] at hempty
  · simp only [false_iff]
    omega
  · simp only [false_iff]
    omega
  · simp only [true_iff]
    omega

/-- A grid that cannot be counted is not filled, for the same reason. -/
theorem ParticleGrid.gradient_eq_error {α : Type} [Scalar α] {e : ConfigError}
    (h : gridParticleCount width height = .error e) :
    (gradient width height : Except ConfigError (ParticleGrid α)) = .error e := by
  simp [gradient, build, h, bind, Except.bind]

end Grids

/-! ## Timelines -/

namespace TimelineConfig

/-- What is wrong with a timeline: with its grid, and with its instances,
track by track and each from front to back. -/
def violations (c : TimelineConfig) : List ConfigError :=
  gridViolations c.gridWidth c.gridHeight ++
    c.tracks.flatMap fun track => track.flatMap EffectInstance.violations

theorem violations_eq (c : TimelineConfig) : c.violations =
    gridViolations c.gridWidth c.gridHeight ++ c.instances.flatMap EffectInstance.violations := by
  rw [violations, instances, List.flatten_eq_flatMap, List.flatMap_assoc]
  rfl

/-- **Validation reports the first violation.** -/
theorem validate_eq_firstOf (c : TimelineConfig) : c.validate = firstOf c.violations := by
  have hinstances : c.instances.forM EffectInstance.validate
      = firstOf (c.instances.flatMap EffectInstance.violations) := by
    rw [firstOf_flatMap, funext EffectInstance.validate_eq_firstOf]
  rw [validate, violations_eq, firstOf_append, hinstances]
  cases hcount : gridParticleCount c.gridWidth c.gridHeight with
  | error e =>
    have hfirst := ConfigError.firstOf_eq_error.2 (gridParticleCount_eq_error.1 hcount)
    rw [hfirst]
    rfl
  | ok count =>
    rw [gridViolations_eq_nil.2 (gridParticleCount_eq_ok_iff.1 hcount).1]
    rfl

variable {c : TimelineConfig}

theorem violations_eq_nil : c.violations = [] ↔ GridHolds c.gridWidth c.gridHeight ∧
    ∀ i ∈ c.instances, i.violations = [] := by
  rw [violations_eq, List.append_eq_nil_iff, gridViolations_eq_nil, List.flatMap_eq_nil_iff]

/-- **The validator accepts what it should**, except that it lets pass a window
with a bound that is no number; of anything else it reports the first violation.
The two counts of the particles and the grid of a ramp agree on the product of
the sizes if there is such a grid, and otherwise the count and the ramp have the
same error. -/
theorem validation_exact (c : TimelineConfig) (α : Type) [Scalar α] :
    (c.validate = .ok () ↔ GridHolds c.gridWidth c.gridHeight ∧ ∀ i ∈ c.instances,
        (i.timeBegin ≤ i.timeEnd ∨ i.timeBegin.isNaN = true ∨ i.timeEnd.isNaN = true) ∧
          1 ≤ i.repetitions.toNat) ∧
      (∀ e, c.validate = .error e ↔ c.violations.head? = some e) ∧
      ((GridHolds c.gridWidth c.gridHeight ∧
          ∃ (count : UInt32) (g : ParticleGrid α),
            gridParticleCount c.gridWidth c.gridHeight = .ok count ∧
            count.toNat = c.gridWidth.toNat * c.gridHeight.toNat ∧
            c.particleCount = count ∧
            ParticleGrid.gradient c.gridWidth c.gridHeight = .ok g ∧
            g.Filled c.gridWidth c.gridHeight count.toNat) ∨
        (¬ GridHolds c.gridWidth c.gridHeight ∧
          ∃ e, gridParticleCount c.gridWidth c.gridHeight = .error e ∧
            (ParticleGrid.gradient c.gridWidth c.gridHeight : Except ConfigError (ParticleGrid α))
              = .error e)) := by
  refine ⟨?_, fun e => ?_, ?_⟩
  · rw [validate_eq_firstOf, ConfigError.firstOf_eq_ok, violations_eq_nil]
    refine and_congr Iff.rfl (forall₂_congr fun i _ => ?_)
    rw [EffectInstance.violations_eq_nil, Scalar.not_lt_iff]
  · rw [validate_eq_firstOf, ConfigError.firstOf_eq_error]
  · cases hcount : gridParticleCount c.gridWidth c.gridHeight with
    | ok count =>
      obtain ⟨hholds, hproduct⟩ := gridParticleCount_eq_ok_iff.1 hcount
      obtain ⟨g, hgradient⟩ : ∃ g : ParticleGrid α, ParticleGrid.gradient _ _ = .ok g :=
        ParticleGrid.build_ok_iff.2 ⟨count, hcount⟩
      -- The buffers are filled for the product, and the count is that product.
      have hfilled := (ParticleGrid.filled_build hgradient).2
      rw [← hproduct] at hfilled
      refine .inl ⟨hholds, count, g, rfl, hproduct, ?_, hgradient, hfilled⟩
      rw [← UInt32.toNat_inj, hproduct, toNat_particleCount hcount]
    | error e =>
      refine .inr ⟨fun hholds => ?_, e, rfl, ParticleGrid.gradient_eq_error hcount⟩
      have hviolation := gridParticleCount_eq_error.1 hcount
      rw [gridViolations_eq_nil.2 hholds] at hviolation
      cases hviolation

/-- One instance, whose window begins at what is no number. -/
def unordered : TimelineConfig where
  tracks := [[{ effectId := "Wave", timeBegin := 0.0 / 0.0, timeEnd := 0 }]]

/-- A window that does not begin before it ends is accepted. -/
theorem unordered_accepted : unordered.validate = .ok () ∧
    ¬ ∀ i ∈ unordered.instances, i.timeBegin ≤ i.timeEnd := by
  refine ⟨?_, ?_⟩
  · decide +kernel
  · decide +kernel

end TimelineConfig

end ParticleTimeline
