import ParticleTimeline.Particle.Grid
/-!
# How grids are filled

Filling a grid keeps three buffers in step: each holds the numbers of all
particles, one particle behind the other (`ParticleGrid.Holds`). A grid that is
built holds the particles of its cells (`ParticleGrid.holds_build`), so it has
the sizes asked for, and as many numbers in each buffer as its particles need
(`ParticleGrid.filled_build`). It is built exactly when its particles can be
counted, and laid under a picture exactly when the picture has a pixel as well
(`ParticleGrid.sample_ok_iff`).
-/

namespace ParticleTimeline

/-! ## Counting particles -/

theorem gridParticleCount_eq_ok {width height count : UInt32} :
    gridParticleCount width height = .ok count ↔
      ¬ (width = 0 ∨ height = 0) ∧ width.toNat * height.toNat ≤ maxParticles ∧
        count = width * height := by
  unfold gridParticleCount
  by_cases hempty : width = 0 ∨ height = 0
  · simp [hempty]
  · by_cases hsmall : width.toNat * height.toNat ≤ maxParticles
    · simp [hempty, hsmall, eq_comm]
    · simp [hempty, hsmall]

/-- A number of particles that is not refused is not held within 32 bits: it
is the product. -/
theorem TimelineConfig.toNat_particleCount {c : TimelineConfig} {count : UInt32}
    (h : gridParticleCount c.gridWidth c.gridHeight = .ok count) :
    c.particleCount.toNat = c.gridWidth.toNat * c.gridHeight.toNat := by
  obtain ⟨-, hsmall, -⟩ := gridParticleCount_eq_ok.1 h
  have hfits : c.gridWidth.toNat * c.gridHeight.toNat < 4294967296 := by
    simp only [maxParticles] at hsmall
    omega
  unfold particleCount
  rw [if_pos (by simp only [UInt32.size]; omega), UInt32.toNat_mul]
  exact Nat.mod_eq_of_lt hfits

/-- Pieces of one length, put together. -/
theorem length_flatMap_of_length {β γ : Type} {k : Nat} {f : β → List γ}
    (hf : ∀ b, (f b).length = k) (bs : List β) : (bs.flatMap f).length = k * bs.length := by
  simp [List.length_flatMap, hf, List.map_const', Nat.mul_comm]

theorem Vec2.length_toList {α : Type} (v : Vec2 α) : v.toList.length = 2 := rfl

theorem Vec3.length_toList {α : Type} (v : Vec3 α) : v.toList.length = 3 := rfl

namespace ParticleGrid

variable {α : Type}

/-! ## Filling the buffers -/

/-- A grid of some sizes with so many particles in its buffers. -/
structure Filled (width height : UInt32) (n : Nat) (g : ParticleGrid α) : Prop where
  width_eq : g.width = width
  height_eq : g.height = height
  texcoord : g.texcoord.size = 2 * n
  rgb : g.rgb.size = 3 * n
  hsv : g.hsv.size = 3 * n

/-- A grid of some sizes whose buffers hold some particles, and nothing else. -/
structure Holds (width height : UInt32) (vs : List (ParticleVertex α)) (g : ParticleGrid α) :
    Prop where
  width_eq : g.width = width
  height_eq : g.height = height
  texcoord : g.texcoord.toList = vs.flatMap fun v => v.texcoord.toList
  rgb : g.rgb.toList = vs.flatMap fun v => v.rgb.toList
  hsv : g.hsv.toList = vs.flatMap fun v => v.hsv.toList

variable {width height : UInt32} {n : Nat} {vs : List (ParticleVertex α)} {g : ParticleGrid α}

theorem toList_push2 (buffer : Array α) (v : Vec2 α) :
    (push2 buffer v).toList = buffer.toList ++ v.toList := by
  simp [push2, Vec2.toList]

theorem toList_push3 (buffer : Array α) (v : Vec3 α) :
    (push3 buffer v).toList = buffer.toList ++ v.toList := by
  simp [push3, Vec3.toList]

/-- **One more particle** stands behind the others in every buffer. -/
theorem Holds.push (h : g.Holds width height vs) (v : ParticleVertex α) :
    (g.push v).Holds width height (vs ++ [v]) where
  width_eq := h.width_eq
  height_eq := h.height_eq
  texcoord := by
    rw [List.flatMap_append, ← h.texcoord, List.flatMap_singleton]
    exact toList_push2 g.texcoord v.texcoord
  rgb := by
    rw [List.flatMap_append, ← h.rgb, List.flatMap_singleton]
    exact toList_push3 g.rgb v.rgb
  hsv := by
    rw [List.flatMap_append, ← h.hsv, List.flatMap_singleton]
    exact toList_push3 g.hsv v.hsv

/-- One row of particles. -/
theorem Holds.row (h : g.Holds width height vs) (v : Nat → ParticleVertex α) (count : Nat) :
    (Nat.fold count (fun x _ g => g.push (v x)) g).Holds width height
      (vs ++ (List.range count).map v) := by
  induction count with
  | zero =>
    rw [List.range_zero, List.map_nil, List.append_nil]
    exact h
  | succ count ih =>
    rw [Nat.fold_succ, List.range_succ, List.map_append, ← List.append_assoc]
    exact ih.push (v count)

/-- Row after row. -/
theorem Holds.rows (h : g.Holds width height vs) (v : Nat → Nat → ParticleVertex α)
    (across rows : Nat) :
    (Nat.fold rows (fun y _ g => Nat.fold across (fun x _ g => g.push (v x y)) g) g).Holds
      width height (vs ++ (List.range rows).flatMap fun y => (List.range across).map (v · y)) := by
  induction rows with
  | zero =>
    rw [List.range_zero, List.flatMap_nil, List.append_nil]
    exact h
  | succ rows ih =>
    rw [Nat.fold_succ, List.range_succ, List.flatMap_append, List.flatMap_singleton,
      ← List.append_assoc]
    exact ih.row (fun x => v x rows) across

theorem Holds.filled (h : g.Holds width height vs) : g.Filled width height vs.length where
  width_eq := h.width_eq
  height_eq := h.height_eq
  texcoord := by
    rw [← Array.length_toList, h.texcoord]
    exact length_flatMap_of_length (fun v => v.texcoord.length_toList) vs
  rgb := by
    rw [← Array.length_toList, h.rgb]
    exact length_flatMap_of_length (fun v => v.rgb.length_toList) vs
  hsv := by
    rw [← Array.length_toList, h.hsv]
    exact length_flatMap_of_length (fun v => v.hsv.length_toList) vs

/-! ## Grids that are built -/

variable [Scalar α] {colourAt : Vec2 α → Vec3 α}

/-- The particle of a cell. -/
def cell (width height : UInt32) (colourAt : Vec2 α → Vec3 α) (x y : Nat) : ParticleVertex α :=
  vertexAt colourAt (cellPlace width height x y)

/-- The particles of all cells, row by row. -/
def particles (width height : UInt32) (colourAt : Vec2 α → Vec3 α) : List (ParticleVertex α) :=
  (List.range height.toNat).flatMap fun y =>
    (List.range width.toNat).map (cell width height colourAt · y)

theorem length_particles :
    (particles width height colourAt).length = width.toNat * height.toNat := by
  rw [particles, length_flatMap_of_length (k := width.toNat) (by simp), List.length_range]

theorem build_eq_ok : build width height colourAt = .ok g ↔
    (∃ count, gridParticleCount width height = .ok count) ∧
      Nat.fold height.toNat (fun y _ g =>
        Nat.fold width.toNat (fun x _ g => g.push (cell width height colourAt x y)) g)
        ⟨width, height, #[], #[], #[]⟩ = g := by
  unfold build
  cases gridParticleCount width height with
  | error e => simp [bind, Except.bind]
  | ok count => simp [bind, Except.bind, pure, Except.pure, cell]

/-- **A grid that is built** holds the particles of its cells. -/
theorem holds_build (h : build width height colourAt = .ok g) :
    g.Holds width height (particles width height colourAt) := by
  have hempty : (⟨width, height, #[], #[], #[]⟩ : ParticleGrid α).Holds width height [] :=
    ⟨rfl, rfl, rfl, rfl, rfl⟩
  have hholds := hempty.rows (cell width height colourAt) width.toNat height.toNat
  rwa [(build_eq_ok.1 h).2] at hholds

/-- **A grid that is built is filled**, and its particles can be counted. -/
theorem filled_build (h : build width height colourAt = .ok g) :
    (∃ count, gridParticleCount width height = .ok count) ∧
      g.Filled width height (width.toNat * height.toNat) := by
  have hfilled := (holds_build h).filled
  rw [length_particles] at hfilled
  exact ⟨(build_eq_ok.1 h).1, hfilled⟩

theorem build_ok_iff : (∃ g, build width height colourAt = .ok g) ↔
    ∃ count, gridParticleCount width height = .ok count :=
  ⟨fun ⟨_, h⟩ => (build_eq_ok.1 h).1, fun h => ⟨_, build_eq_ok.2 ⟨h, rfl⟩⟩⟩

theorem filled_ofPicture {p : Picture} {scaling : ImageScaling}
    (h : ofPicture p width height scaling = .ok g) :
    (∃ count, gridParticleCount width height = .ok count) ∧
      g.Filled width height (width.toNat * height.toNat) := by
  unfold ofPicture at h
  split at h
  · simp at h
  · exact filled_build h

theorem ofPicture_ok_iff {p : Picture} {scaling : ImageScaling} :
    (∃ g : ParticleGrid α, ofPicture p width height scaling = .ok g) ↔
      p.isEmpty = false ∧ ∃ count, gridParticleCount width height = .ok count := by
  unfold ofPicture
  cases p.isEmpty with
  | true => simp
  | false => simp only [build_ok_iff, Bool.false_eq_true, if_false, true_and]

theorem filled_sample {p : Option Picture} {c : TimelineConfig} (h : sample p c = .ok g) :
    (∃ count, gridParticleCount c.gridWidth c.gridHeight = .ok count) ∧
      g.Filled c.gridWidth c.gridHeight (c.gridWidth.toNat * c.gridHeight.toNat) := by
  cases p with
  | none => exact filled_build h
  | some p => exact filled_ofPicture h

/-- Only a picture without pixels stands in the way of a grid that can be had. -/
theorem sample_ok_iff {p : Option Picture} {c : TimelineConfig} :
    (∃ g : ParticleGrid α, sample p c = .ok g) ↔
      (∀ q, p = some q → q.isEmpty = false) ∧
        ∃ count, gridParticleCount c.gridWidth c.gridHeight = .ok count := by
  cases p with
  | none => simp only [sample, gradient, build_ok_iff, reduceCtorEq, false_implies, implies_true,
      true_and]
  | some p => simp only [sample, ofPicture_ok_iff, Option.some.injEq, forall_eq']

end ParticleGrid

end ParticleTimeline
