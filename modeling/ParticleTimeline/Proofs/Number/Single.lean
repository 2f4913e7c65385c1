import ParticleTimeline.Proofs.Number.Exact
/-!
# Singles

Of two singles that are numbers one is not below the other
(`Binary.not_lt_iff_le`), and what lies between two finite ones is finite
(`Binary.single_isFinite_of_between`). Nothing that is a number is rounded to
what is none (`Binary.isNaN_toSingle`), and the double of a single is rounded to
that single again (`Binary.narrow_widen`).
-/

namespace ParticleTimeline

namespace Binary

open Float.Model
open Float.Model.UnpackedFloat (Sign)

/-! ## Order -/

section Order

variable {u v w : Parts}

theorem compare_swap (u v : Parts) :
    UnpackedFloat.compare v u = (UnpackedFloat.compare u v).map Ordering.swap := by
  have hsizes : ∀ (m n : ℕ) (e f : ℤ),
      (compare f e).then (compare n m) = ((compare e f).then (compare m n)).swap := by
    intro m n e f
    rw [Ordering.swap_then, ← Std.OrientedCmp.eq_swap, ← Std.OrientedCmp.eq_swap]
  rcases u with ⟨_ | _⟩ | _ | s | ⟨_ | _, m, e, hm⟩ <;>
    rcases v with ⟨_ | _⟩ | _ | t | ⟨_ | _, n, f, hn⟩
  case finite.negative.finite.negative => exact congrArg (some ·.swap) (hsizes m n e f)
  case finite.positive.finite.positive => exact congrArg some (hsizes m n e f)
  all_goals rfl

theorem isNaN_eq_false_of_le (h : UnpackedFloat.le u v = true) :
    u.isNaN = false ∧ v.isNaN = false := by
  cases u <;> cases v <;> first | exact ⟨rfl, rfl⟩ | exact absurd h Bool.false_ne_true

theorem compare_isSome (hu : u.isNaN = false) (hv : v.isNaN = false) :
    (UnpackedFloat.compare u v).isSome = true := by
  rcases u with ⟨_ | _⟩ | _ | s | ⟨_ | _, m, e, hm⟩ <;>
    rcases v with ⟨_ | _⟩ | _ | t | ⟨_ | _, n, f, hn⟩ <;>
    first | rfl | exact absurd hu.symm Bool.false_ne_true | exact absurd hv.symm Bool.false_ne_true

/-- **Of two numbers** the first is below the second, or not below it. -/
theorem lt_eq_false_iff_le (hu : u.isNaN = false) (hv : v.isNaN = false) :
    UnpackedFloat.lt u v = false ↔ UnpackedFloat.le v u = true := by
  obtain ⟨o, ho⟩ := Option.isSome_iff_exists.1 (compare_isSome hu hv)
  rw [UnpackedFloat.lt, UnpackedFloat.le, compare_swap u v, ho]
  cases o <;> decide

theorem le_self (h : u.isNaN = false) : UnpackedFloat.le u u = true := by
  obtain ⟨o, ho⟩ := Option.isSome_iff_exists.1 (compare_isSome h h)
  have hswap := compare_swap u u
  rw [ho] at hswap
  rw [UnpackedFloat.le, ho]
  cases o with
  | gt => cases hswap
  | _ => rfl

/-- **What lies between finite numbers** is finite. -/
theorem isFinite_of_between (hu : u.isFinite = true) (hw : w.isFinite = true)
    (hlow : UnpackedFloat.le u v = true) (hhigh : UnpackedFloat.le v w = true) :
    v.isFinite = true := by
  rcases v with ⟨_ | _⟩ | _ | s | ⟨s, m, e, hm⟩
  · rcases u with s | _ | s | ⟨_ | _, n, f, hn⟩ <;>
      first | exact absurd hu Bool.false_ne_true | exact absurd hlow Bool.false_ne_true
  · rcases w with s | _ | s | ⟨_ | _, n, f, hn⟩ <;>
      first | exact absurd hw Bool.false_ne_true | exact absurd hhigh Bool.false_ne_true
  · exact absurd (isNaN_eq_false_of_le hhigh).1.symm Bool.false_ne_true
  · rfl
  · rfl

end Order

section Singles

variable {x y z : Float32}

theorem single_le_iff : x ≤ y ↔ UnpackedFloat.le (ofSingle x) (ofSingle y) = true := by
  change (decide (x.toModel ≤ y.toModel) = true) ↔ _
  rw [decide_eq_true_iff]
  rfl

theorem single_lt_iff : x < y ↔ UnpackedFloat.lt (ofSingle x) (ofSingle y) = true := by
  change (decide (x.toModel < y.toModel) = true) ↔ _
  rw [decide_eq_true_iff]
  rfl

theorem not_lt_iff_le (hx : x.isNaN = false) (hy : y.isNaN = false) : ¬ x < y ↔ y ≤ x := by
  have hparts := lt_eq_false_iff_le (u := ofSingle x) (v := ofSingle y) hx hy
  rw [single_lt_iff, single_le_iff, Bool.not_eq_true, hparts]

theorem single_le_self (h : x.isNaN = false) : x ≤ x := single_le_iff.2 (le_self h)

theorem isNaN_of_le (h : x ≤ y) : x.isNaN = false ∧ y.isNaN = false :=
  isNaN_eq_false_of_le (single_le_iff.1 h)

/-- **A single between finite ones** is finite. -/
theorem single_isFinite_of_between (hx : x.isFinite = true) (hz : z.isFinite = true) (hxy : x ≤ y)
    (hyz : y ≤ z) : y.isFinite = true :=
  isFinite_of_between hx hz (single_le_iff.1 hxy) (single_le_iff.1 hyz)

end Singles

/-! ## Rounding to a single -/

section Rounding

variable {spec : Format} {u : Parts} {q : ℚ}

/-- What is a number stays one when it is packed. -/
theorem isNaN_unpack_pack (hu : Canonical spec u) (h : u.isNaN = false) :
    (UnpackedFloat.unpack spec (UnpackedFloat.pack spec u)).isNaN = false := by
  by_cases hfits : Fits spec u
  · rw [unpack_pack hu hfits]
    exact h
  · cases u with
    | finite s m e hm =>
      rw [unpack_pack_of_not_fits hfits]
      rfl
    | _ => exact absurd trivial hfits

theorem toSingle_eq (u : Parts) :
    toSingle u = .ofModel (.pack (rounding .binary32 u)) := by
  cases u <;> rfl

theorem isNaN_of_isFinite (h : u.isFinite = true) : u.isNaN = false := by
  cases u with
  | notANumber => cases h
  | _ => rfl

/-- What has a value is packed as a number, be it an infinity. -/
theorem Valued.isNaN_unpack_pack (h : Valued spec u q) :
    (UnpackedFloat.unpack spec (UnpackedFloat.pack spec u)).isNaN = false :=
  Binary.isNaN_unpack_pack h.canonical (isNaN_of_isFinite h.finite)

/-- **What is finite is rounded to a number.** -/
theorem isNaN_toSingle (h : u.isFinite = true) : (toSingle u).isNaN = false := by
  rw [toSingle_eq]
  exact (valued_rounding .binary32 h).isNaN_unpack_pack

theorem isNaN_toFloat32 (n : UInt64) : n.toFloat32.isNaN = false :=
  (valued_normalize n.toNat 0 .positive).isNaN_unpack_pack

theorem isNaN_neg {x : Float32} (h : x.isNaN = false) : (-x).isNaN = false := by
  have hcanonical : Canonical .binary32 (ofSingle x).neg := by
    have hparts : Canonical .binary32 (ofSingle x) := canonical_unpack _
    cases hx : ofSingle x with
    | finite s m e hm =>
      rw [hx] at hparts
      exact hparts
    | _ => trivial
  have hnumber : (ofSingle x).neg.isNaN = false := by
    have hparts : (ofSingle x).isNaN = false := h
    cases hx : ofSingle x with
    | notANumber =>
      rw [hx] at hparts
      cases hparts
    | _ => rfl
  exact isNaN_unpack_pack hcanonical hnumber

end Rounding

/-! ## Widening -/

/-- A single is the packed form of its parts. -/
theorem pack_ofSingle (x : Float32) : Float32.ofModel (.pack (ofSingle x)) = x := by
  rw [← Float32.toBits_inj, ← UInt32.toBitVec_inj]
  exact UnpackedFloat.pack_unpack_of_valid x.toModel.valid

/-- **A number of the narrow format** is one of the wide format, and rounded
back to itself. -/
theorem rounding_rounding {u : Parts} (hu : Canonical .binary32 u) (hfits : Fits .binary32 u) :
    Canonical .binary64 (rounding .binary64 u) ∧ Fits .binary64 (rounding .binary64 u) ∧
      rounding .binary32 (rounding .binary64 u) = u := by
  cases u with
  | finite s m e hm =>
    have hplace : place .binary64 (value (.finite s m e hm)) ≤ e := by
      conv_rhs => rw [← place_value hu]
      have hnarrow : Format.binary32.mantissaBits = 24 := by decide
      have hwide : Format.binary64.mantissaBits = 53 := by decide
      have hleast : Format.binary64.minExponent ≤ Format.binary32.minExponent := by decide
      simp only [place, Format.targetExponent, hnarrow, hwide]
      omega
    -- No digit is lost on the way there, so none is missing on the way back.
    have hexact : Representable .binary64 (value (.finite s m e hm)) :=
      exists_mul_zpow_of_le hplace (s.apply m)
    obtain ⟨hcanonical, hfinite, hvalue⟩ := valued_rounding .binary64 (u := .finite s m e hm) rfl
    rw [rounded_of_representable hexact] at hvalue
    refine ⟨hcanonical, ?_, ?_⟩
    · generalize rounding .binary64 (.finite s m e hm) = w at hcanonical hvalue
      cases w with
      | finite t n f hn =>
        rw [← hvalue, place_value hcanonical] at hplace
        have hbias : Format.binary64.exponentBias = 1023 := by decide
        have hnarrow : Format.binary32.exponentBias = 127 := by decide
        simp only [Fits, hnarrow, hbias] at hfits ⊢
        omega
      | _ => trivial
    · have hback := valued_rounding .binary32 hfinite
      rw [hvalue, rounded_of_representable (representable_value hu)] at hback
      exact eq_of_value hback.canonical hu hback.value_eq (hback.value_eq ▸ value_ne_zero)
  | _ => exact ⟨trivial, trivial, rfl⟩

theorem ofDouble_widen (x : Float32) : ofDouble (widen x) = rounding .binary64 (ofSingle x) := by
  obtain ⟨hcanonical, hfits, -⟩ := rounding_rounding (u := ofSingle x)
    (canonical_unpack _) (fits_unpack (by decide) _)
  rw [widen, toDouble_eq]
  exact unpack_pack hcanonical hfits

theorem isFinite_widen {x : Float32} (h : x.isFinite = true) : (widen x).isFinite = true := by
  rw [isFinite_double, ofDouble_widen]
  exact (valued_rounding .binary64 h).finite

/-- **The double of a single** is rounded to that single. -/
theorem narrow_widen (x : Float32) : narrow (widen x) = x := by
  obtain ⟨-, -, hback⟩ := rounding_rounding (u := ofSingle x)
    (canonical_unpack _) (fits_unpack (by decide) _)
  rw [narrow, toSingle_eq, ofDouble_widen, hback, pack_ofSingle]

end Binary

end ParticleTimeline
