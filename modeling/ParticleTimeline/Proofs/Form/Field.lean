import ParticleTimeline.Form.Basic
import ParticleTimeline.Proofs.Json.Decoding
import ParticleTimeline.Proofs.Number.Single
/-!
# What a field reads

A field is sound if its bounds are finite and in order and its default is
within them (`FieldKind.Sound`). Whatever JSON value a sound field reads, it
reads without a fault, and what it reads it admits: the value is of its kind
and within its bounds, or among its options (`Field.parse_admits`). A value
that is admitted is read back from the JSON that is written of it
(`Field.parse_toJson`).
-/

namespace ParticleTimeline

/-! ## Numbers in a free-form value -/

namespace JsonNumber

/-- A number that is read as a double is one. -/
theorem isFinite_toDouble {n : JsonNumber} (h : n.isFinite = true) :
    n.toDouble.isFinite = true := by
  cases n with
  | natural n => exact Binary.isFinite_of_within (Binary.within_toFloat n)
  | negative n => exact Binary.isFinite_neg (Binary.isFinite_of_within (Binary.within_toFloat _))
  | double x => exact h
  | single x => exact Binary.isFinite_widen h

/-- A number that is read as a single is one, or an infinity. -/
theorem isNaN_toSingle {n : JsonNumber} (h : n.isFinite = true) : n.toSingle.isNaN = false := by
  cases n with
  | natural n => exact Binary.isNaN_toFloat32 n
  | negative n => exact Binary.isNaN_neg (Binary.isNaN_toFloat32 _)
  | double x => exact Binary.isNaN_toSingle h
  | single x => exact Binary.isNaN_of_isFinite h

end JsonNumber

/-! ## Bounds -/

/-- A single that is not below one bound and not above the other. -/
structure Held (least most x : Float32) : Prop where
  low : least ≤ x
  high : x ≤ most

instance (least most x : Float32) : Decidable (Held least most x) :=
  decidable_of_iff (least ≤ x ∧ x ≤ most) ⟨fun h => ⟨h.1, h.2⟩, fun h => ⟨h.1, h.2⟩⟩

/-- Bounds that are finite and in order. -/
structure Span (least most : Float32) : Prop where
  least_finite : least.isFinite = true
  most_finite : most.isFinite = true
  ordered : least ≤ most

instance (least most : Float32) : Decidable (Span least most) :=
  decidable_of_iff (least.isFinite = true ∧ most.isFinite = true ∧ least ≤ most)
    ⟨fun h => ⟨h.1, h.2.1, h.2.2⟩, fun h => ⟨h.1, h.2, h.3⟩⟩

section Clamp

variable {least most x : Float32}

theorem Held.isFinite (hspan : Span least most) (h : Held least most x) : x.isFinite = true :=
  Binary.single_isFinite_of_between hspan.least_finite hspan.most_finite h.low h.high

theorem Held.isNaN (h : Held least most x) : x.isNaN = false := (Binary.isNaN_of_le h.low).2

/-- **A number is clamped to one that is held.** -/
theorem clamp_held (hspan : Span least most) (hx : x.isNaN = false) :
    ∃ y, clamp x least most = .ok y ∧ Held least most y := by
  obtain ⟨hleast, hmost⟩ := Binary.isNaN_of_le hspan.ordered
  rw [clamp, if_pos hspan.ordered]
  by_cases hlow : x < least
  · have hhigh : ¬ least > most := (Binary.not_lt_iff_le hmost hleast).2 hspan.ordered
    simp only [if_pos hlow, if_neg hhigh]
    exact ⟨least, rfl, Binary.single_le_self hleast, hspan.ordered⟩
  · simp only [if_neg hlow]
    by_cases hhigh : x > most
    · simp only [if_pos hhigh]
      exact ⟨most, rfl, hspan.ordered, Binary.single_le_self hmost⟩
    · simp only [if_neg hhigh]
      exact ⟨x, rfl, (Binary.not_lt_iff_le hx hleast).1 hlow,
        (Binary.not_lt_iff_le hmost hx).1 hhigh⟩

/-- **What is held is not changed.** -/
theorem clamp_of_held (hspan : Span least most) (h : Held least most x) :
    clamp x least most = .ok x := by
  obtain ⟨hleast, hmost⟩ := Binary.isNaN_of_le hspan.ordered
  have hlow : ¬ x < least := (Binary.not_lt_iff_le h.isNaN hleast).2 h.low
  have hhigh : ¬ x > most := (Binary.not_lt_iff_le hmost h.isNaN).2 h.high
  rw [clamp, if_pos hspan.ordered]
  simp only [if_neg hlow, if_neg hhigh]

end Clamp

/-! ## Fields -/

/-- The bounds of a kind are in order and its default is within them. A choice
may have any default. -/
def FieldKind.Sound : FieldKind → Prop
  | .float d least most => Span least most ∧ Held least most d
  | .bool _ | .choice _ _ => True
  | .color d => Held 0 1 d.x ∧ Held 0 1 d.y ∧ Held 0 1 d.z
  | .point d least most =>
    Span least.x most.x ∧ Span least.y most.y ∧ Held least.x most.x d.x ∧ Held least.y most.y d.y

instance : DecidablePred FieldKind.Sound
  | .float _ _ _ => inferInstanceAs (Decidable (_ ∧ _))
  | .bool _ | .choice _ _ => isTrue trivial
  | .color _ => inferInstanceAs (Decidable (_ ∧ _ ∧ _))
  | .point _ _ _ => inferInstanceAs (Decidable (_ ∧ _ ∧ _ ∧ _))

namespace Field

/-- Whether a value is one of the field: of its kind and within its bounds, or
one of its options or its default. -/
def Admits (f : Field) (value : FieldValue) : Prop :=
  match f.kind, value with
  | .float _ least most, .float x => Held least most x
  | .bool _, .bool _ => True
  | .color _, .color c => Held 0 1 c.x ∧ Held 0 1 c.y ∧ Held 0 1 c.z
  | .point _ least most, .point p => Held least.x most.x p.x ∧ Held least.y most.y p.y
  | .choice d options, .choice s => s ∈ options ∨ s = d
  | _, _ => False

variable {f : Field} {v : Json} {value : FieldValue}

theorem span_unit : Span 0 1 := ⟨by decide +kernel, by decide +kernel, by decide +kernel⟩

/-- The default of a sound field is one of its values. -/
theorem admits_default (h : f.kind.Sound) : f.Admits f.default := by
  obtain ⟨name, label, kind⟩ := f
  cases kind with
  | float d least most => exact h.2
  | bool d => trivial
  | color d => exact h
  | point d least most => exact h.2.2
  | choice d options => exact .inr rfl

/-! ## Reading -/

theorem ok_of_fitting {α : Type} {decode : Json.Decoder α} {a : α}
    (h : fitting decode v = some a) : decode v = .ok a := by
  rw [fitting] at h
  cases hdecode : decode v with
  | ok b =>
    rw [hdecode] at h
    exact congrArg Except.ok (Option.some.inj h)
  | error m =>
    rw [hdecode] at h
    cases h

theorem fitting_of_ok {α : Type} {decode : Json.Decoder α} {a : α} (h : decode v = .ok a) :
    fitting decode v = some a := by
  rw [fitting, h]
  rfl

/-- A single in a value whose numbers are finite is a number. -/
theorem isNaN_of_single {x : Float32} (h : ∀ n ∈ v.numbers, n.isFinite = true)
    (hx : Json.Decoder.single v = .ok x) : x.isNaN = false := by
  cases v with
  | number n =>
    obtain rfl := Except.ok.inj hx
    exact JsonNumber.isNaN_toSingle (h n (Json.mem_numbers_number.2 rfl))
  | _ => cases hx

theorem isNaN_of_items {items : List Json} {xs : List Float32}
    (h : ∀ n ∈ (Json.array items).numbers, n.isFinite = true)
    (hxs : ∀ x ∈ xs, ∃ w ∈ items, Json.Decoder.single w = .ok x) : ∀ x ∈ xs, x.isNaN = false := by
  intro x hx
  obtain ⟨w, hw, hsingle⟩ := hxs x hx
  exact isNaN_of_single (fun n hn => h n (Json.mem_numbers_array.2 ⟨w, hw, hn⟩)) hsingle

/-- **What a sound field reads it admits**, and it reads without a fault. -/
theorem parse_admits (hsound : f.kind.Sound) (h : ∀ n ∈ v.numbers, n.isFinite = true) :
    ∃ read, f.parse v = .ok read ∧ ∀ value ∈ read, f.Admits value := by
  have hnone : ∀ value ∈ (none : Option FieldValue), f.Admits value :=
    fun value hvalue => nomatch hvalue
  obtain ⟨name, label, kind⟩ := f
  cases kind with
  | float d least most =>
    cases hfits : fitting Json.Decoder.double v with
    | none => exact ⟨none, by simp only [parse, hfits]; rfl, hnone⟩
    | some x =>
      -- The number may be infinite as a single, but it is a number, and is clamped.
      have hx : (Binary.narrow x).isNaN = false := by
        have hdouble := ok_of_fitting hfits
        cases v with
        | number n =>
          obtain rfl := Except.ok.inj hdouble
          exact Binary.isNaN_toSingle
            (JsonNumber.isFinite_toDouble (h n (Json.mem_numbers_number.2 rfl)))
        | _ => cases hdouble
      obtain ⟨y, hclamp, hy⟩ := clamp_held hsound.1 hx
      refine ⟨some (.float y), by simp only [parse, hfits, hclamp]; rfl, ?_⟩
      rintro value ⟨⟩
      exact hy
  | bool d =>
    refine ⟨(fitting Json.Decoder.bool v).map .bool, rfl, fun value hvalue => ?_⟩
    obtain ⟨b, -, rfl⟩ := Option.map_eq_some_iff.1 hvalue
    trivial
  | color d =>
    cases hfits : fitting (Json.Decoder.triple Json.Decoder.single) v with
    | none => exact ⟨none, by simp only [parse, hfits]; rfl, hnone⟩
    | some c =>
      obtain ⟨items, rfl, hitems⟩ := Json.Decoder.mem_of_triple (ok_of_fitting hfits)
      have hnumber := isNaN_of_items h hitems
      obtain ⟨x, hx, hxheld⟩ := clamp_held span_unit (hnumber c.x (by simp [Vec3.toList]))
      obtain ⟨y, hy, hyheld⟩ := clamp_held span_unit (hnumber c.y (by simp [Vec3.toList]))
      obtain ⟨z, hz, hzheld⟩ := clamp_held span_unit (hnumber c.z (by simp [Vec3.toList]))
      refine ⟨some (.color ⟨x, y, z⟩), by simp only [parse, hfits, hx, hy, hz]; rfl, ?_⟩
      rintro value ⟨⟩
      exact ⟨hxheld, hyheld, hzheld⟩
  | point d least most =>
    cases hfits : fitting (Json.Decoder.pair Json.Decoder.single) v with
    | none => exact ⟨none, by simp only [parse, hfits]; rfl, hnone⟩
    | some p =>
      obtain ⟨items, rfl, hitems⟩ := Json.Decoder.mem_of_pair (ok_of_fitting hfits)
      have hnumber := isNaN_of_items h hitems
      obtain ⟨x, hx, hxheld⟩ := clamp_held hsound.1 (hnumber p.x (by simp [Vec2.toList]))
      obtain ⟨y, hy, hyheld⟩ := clamp_held hsound.2.1 (hnumber p.y (by simp [Vec2.toList]))
      refine ⟨some (.point ⟨x, y⟩), by simp only [parse, hfits, hx, hy]; rfl, ?_⟩
      rintro value ⟨⟩
      exact ⟨hxheld, hyheld⟩
  | choice d options =>
    cases hfits : fitting Json.Decoder.text v with
    | none => exact ⟨none, by simp only [parse, hfits]; rfl, hnone⟩
    | some s =>
      by_cases hs : s ∈ options
      · refine ⟨some (.choice s), by simp only [parse, hfits, if_pos hs]; rfl, ?_⟩
        rintro value ⟨⟩
        exact .inl hs
      · exact ⟨none, by simp only [parse, hfits, if_neg hs]; rfl, hnone⟩

/-! ## Reading back -/

/-- A finite single is written as its double. -/
theorem numberJson_eq {x : Float32} (h : x.isFinite = true) :
    FieldValue.numberJson x = .double (Binary.widen x) := if_pos h

theorem single_numberJson {x : Float32} (h : x.isFinite = true) :
    Json.Decoder.single (FieldValue.numberJson x) = .ok x := by
  rw [numberJson_eq h]
  exact congrArg Except.ok (Binary.narrow_widen x)

theorem pair_numberJson {p : Vec2 Float32} (h : ∀ x ∈ p.toList, x.isFinite = true) :
    Json.Decoder.pair Json.Decoder.single (.array (p.toList.map FieldValue.numberJson))
      = .ok p := by
  simp only [Vec2.toList, List.forall_mem_cons, List.not_mem_nil, false_implies, implies_true,
    and_true] at h
  simp only [Vec2.toList, List.map_cons, List.map_nil, Json.Decoder.pair, Json.Decoder.exactly,
    List.take, List.mapM_cons, List.mapM_nil, single_numberJson h.1, single_numberJson h.2]
  rfl

theorem triple_numberJson {c : Vec3 Float32} (h : ∀ x ∈ c.toList, x.isFinite = true) :
    Json.Decoder.triple Json.Decoder.single (.array (c.toList.map FieldValue.numberJson))
      = .ok c := by
  simp only [Vec3.toList, List.forall_mem_cons, List.not_mem_nil, false_implies, implies_true,
    and_true] at h
  simp only [Vec3.toList, List.map_cons, List.map_nil, Json.Decoder.triple, Json.Decoder.exactly,
    List.take, List.mapM_cons, List.mapM_nil, single_numberJson h.1, single_numberJson h.2.1,
    single_numberJson h.2.2]
  rfl

section Kinds

variable {name label : String}

/-- A number that a field admits is decoded as it is. -/
theorem admits_float {d least most : Float32} (hspan : Span least most)
    (h : Admits ⟨name, label, .float d least most⟩ value) :
    ∃ x, value = .float x ∧ Json.Decoder.single value.toJson = .ok x := by
  cases value with
  | float x => exact ⟨x, rfl, single_numberJson (h.isFinite hspan)⟩
  | _ => exact h.elim

theorem admits_bool {d : Bool} (h : Admits ⟨name, label, .bool d⟩ value) :
    ∃ b, value = .bool b ∧ Json.Decoder.bool value.toJson = .ok b := by
  cases value with
  | bool b => exact ⟨b, rfl, rfl⟩
  | _ => exact h.elim

theorem admits_color {d : Vec3 Float32} (h : Admits ⟨name, label, .color d⟩ value) :
    ∃ c, value = .color c ∧
      Json.Decoder.triple Json.Decoder.single value.toJson = .ok c := by
  cases value with
  | color c =>
    refine ⟨c, rfl, triple_numberJson fun x hx => ?_⟩
    simp only [Vec3.toList, List.mem_cons, List.not_mem_nil, or_false] at hx
    rcases hx with rfl | rfl | rfl
    · exact h.1.isFinite span_unit
    · exact h.2.1.isFinite span_unit
    · exact h.2.2.isFinite span_unit
  | _ => exact h.elim

theorem admits_point {d least most : Vec2 Float32} (hx : Span least.x most.x)
    (hy : Span least.y most.y) (h : Admits ⟨name, label, .point d least most⟩ value) :
    ∃ p, value = .point p ∧ Json.Decoder.pair Json.Decoder.single value.toJson = .ok p := by
  cases value with
  | point p =>
    refine ⟨p, rfl, pair_numberJson fun x hmem => ?_⟩
    simp only [Vec2.toList, List.mem_cons, List.not_mem_nil, or_false] at hmem
    rcases hmem with rfl | rfl
    · exact h.1.isFinite hx
    · exact h.2.isFinite hy
  | _ => exact h.elim

theorem admits_choice {d : String} {options : List String}
    (h : Admits ⟨name, label, .choice d options⟩ value) :
    ∃ s, value = .choice s ∧ Json.Decoder.text value.toJson = .ok s := by
  cases value with
  | choice s => exact ⟨s, rfl, rfl⟩
  | _ => exact h.elim

end Kinds

/-- **What is admitted is read back.** -/
theorem parse_toJson (hsound : f.kind.Sound) (h : f.Admits value) :
    (f.parse value.toJson).map (·.getD f.default) = .ok value := by
  obtain ⟨name, label, kind⟩ := f
  cases kind with
  | float d least most =>
    cases value with
    | float x =>
      have hdouble : fitting Json.Decoder.double (FieldValue.float x).toJson
          = some (Binary.widen x) := by
        rw [FieldValue.toJson, numberJson_eq (h.isFinite hsound.1)]
        rfl
      simp only [parse, hdouble, Binary.narrow_widen, clamp_of_held hsound.1 h]
      rfl
    | _ => exact h.elim
  | bool d =>
    obtain ⟨b, rfl, -⟩ := admits_bool h
    rfl
  | color d =>
    obtain ⟨c, rfl, hc⟩ := admits_color h
    obtain ⟨hx, hy, hz⟩ := h
    simp only [parse, fitting_of_ok hc, clamp_of_held span_unit hx, clamp_of_held span_unit hy,
      clamp_of_held span_unit hz]
    rfl
  | point d least most =>
    obtain ⟨p, rfl, hp⟩ := admits_point hsound.1 hsound.2.1 h
    obtain ⟨hx, hy⟩ := h
    simp only [parse, fitting_of_ok hp, clamp_of_held hsound.1 hx, clamp_of_held hsound.2.1 hy]
    rfl
  | choice d options =>
    obtain ⟨s, rfl, hs⟩ := admits_choice h
    simp only [parse, fitting_of_ok hs]
    -- The default need not be an option; then it is what is missing.
    by_cases hs : s ∈ options
    · rw [if_pos hs]
      rfl
    · rw [if_neg hs, h.resolve_left hs]
      rfl

end Field

end ParticleTimeline
