import ParticleTimeline.Proofs.Timeline.Validity
/-!
# How grids lie in their buffers

A particle is read where it was written (`ParticleGrid.Holds.vertex?_eq`), and row by
row the particles are those of the cells (`ParticleGrid.getElem?_particles`). So the
grid of a timeline has no gaps (`ParticleGrid.sample_laidOut`).

The bytes for an upload tell the particles again (`ParticleGrid.verticesOf_vertexBytes`):
a word is the sum of its bytes, and a single is told by its word.
-/

namespace ParticleTimeline

/-! ## Pieces of one length -/

/-- **Pieces of one length, put together**: the `j`th element of the `i`th piece is
found by counting. -/
theorem getElem?_flatMap_of_length {β γ : Type} {k : Nat} {f : β → List γ}
    (hf : ∀ b, (f b).length = k) (bs : List β) (i : Nat) {j : Nat} (hj : j < k) :
    (bs.flatMap f)[k * i + j]? = bs[i]?.bind fun b => (f b)[j]? := by
  induction bs generalizing i with
  | nil => rfl
  | cons b bs ih =>
    rw [List.flatMap_cons]
    cases i with
    | zero =>
      rw [Nat.mul_zero, Nat.zero_add, List.getElem?_append_left (by rwa [hf])]
      rfl
    | succ i =>
      have hindex : k * (i + 1) + j = (f b).length + (k * i + j) := by
        rw [hf, Nat.mul_succ]
        omega
      rw [hindex, List.getElem?_append_right (Nat.le_add_right _ _), Nat.add_sub_cancel_left, ih]
      rfl

namespace ParticleGrid

variable {α : Type}

/-! ## Reading particles -/

section Reading

variable {width height : UInt32} {vs : List (ParticleVertex α)} {g : ParticleGrid α}

theorem pair?_of_toList {β : Type} {buffer : Array α} {bs : List β} {f : β → Vec2 α}
    (h : buffer.toList = bs.flatMap fun b => (f b).toList) (i : Nat) :
    pair? buffer i = bs[i]?.map f := by
  have hget : ∀ j, j < 2 → buffer[2 * i + j]? = bs[i]?.bind fun b => (f b).toList[j]? := by
    intro j hj
    rw [← Array.getElem?_toList, h]
    exact getElem?_flatMap_of_length (fun b => (f b).length_toList) bs i hj
  rw [pair?, ← Nat.add_zero (2 * i), hget 0 (by decide), Nat.add_zero, hget 1 (by decide)]
  cases bs[i]? <;> rfl

theorem triple?_of_toList {β : Type} {buffer : Array α} {bs : List β} {f : β → Vec3 α}
    (h : buffer.toList = bs.flatMap fun b => (f b).toList) (i : Nat) :
    triple? buffer i = bs[i]?.map f := by
  have hget : ∀ j, j < 3 → buffer[3 * i + j]? = bs[i]?.bind fun b => (f b).toList[j]? := by
    intro j hj
    rw [← Array.getElem?_toList, h]
    exact getElem?_flatMap_of_length (fun b => (f b).length_toList) bs i hj
  rw [triple?, ← Nat.add_zero (3 * i), hget 0 (by decide), Nat.add_zero, hget 1 (by decide),
    hget 2 (by decide)]
  cases bs[i]? <;> rfl

/-- **A particle is read where it was written.** -/
theorem Holds.vertex?_eq (h : g.Holds width height vs) (hsize : vs.length = g.size) (i : Nat) :
    g.vertex? i = vs[i]? := by
  rw [vertex?, pair?_of_toList h.texcoord, triple?_of_toList h.rgb, triple?_of_toList h.hsv,
    ← hsize]
  split
  · rename_i hi
    rw [List.getElem?_eq_getElem hi]
    rfl
  · rename_i hi
    exact (List.getElem?_eq_none (Nat.not_lt.1 hi)).symm

end Reading

/-! ## The particles of the cells -/

section Cells

variable [Scalar α]

variable {width height : UInt32} {colourAt : Vec2 α → Vec3 α} {g : ParticleGrid α}

/-- **Row by row**, every row from its first column on. -/
theorem getElem?_particles {x y : Nat} (hx : x < width.toNat) (hy : y < height.toNat) :
    (particles width height colourAt)[y * width.toNat + x]?
      = some (cell width height colourAt x y) := by
  rw [particles, Nat.mul_comm, getElem?_flatMap_of_length (by simp) _ y hx,
    List.getElem?_range hy, Option.bind_some, List.getElem?_map, List.getElem?_range hx,
    Option.map_some]

theorem length_particles_build (h : build width height colourAt = .ok g) :
    (particles width height colourAt).length = g.size := by
  rw [length_particles, size, (holds_build h).width_eq, (holds_build h).height_eq]

/-- A grid whose buffers hold one particle for every cell, row by row, with its
place, its colour and the hue, saturation and value of that colour. -/
structure LaidOut (width height : UInt32) (colourAt : Vec2 α → Vec3 α) (g : ParticleGrid α) :
    Prop where
  size_eq : g.size = width.toNat * height.toNat
  texcoord : g.texcoord.size = 2 * g.size
  rgb : g.rgb.size = 3 * g.size
  hsv : g.hsv.size = 3 * g.size
  /-- The place of a particle is the middle of its cell. -/
  vertex : ∀ x < width.toNat, ∀ y < height.toNat, ∀ place : Vec2 α,
    place = ⟨(Scalar.natural x + Scalar.half) / Scalar.natural width.toNat,
      (Scalar.natural y + Scalar.half) / Scalar.natural height.toNat⟩ →
    g.vertex? (y * width.toNat + x) = some
      { texcoord := place, rgb := colourAt place, hsv := Colour.hsv (colourAt place) }
  beyond : ∀ i, g.size ≤ i → g.vertex? i = none
  /-- The numbers of a particle lie within the buffers. -/
  within : ∀ i < g.size,
    2 * i + 2 ≤ g.texcoord.size ∧ 3 * i + 3 ≤ g.rgb.size ∧ 3 * i + 3 ≤ g.hsv.size

/-- **A grid that is built** is laid out. -/
theorem laidOut_build (h : build width height colourAt = .ok g) :
    g.LaidOut width height colourAt := by
  have hholds := holds_build h
  have hlength := length_particles_build h
  have hfilled := hholds.filled
  rw [hlength] at hfilled
  obtain ⟨-, -, htexcoord, hrgb, hhsv⟩ := hfilled
  refine ⟨hlength.symm.trans length_particles, htexcoord, hrgb, hhsv,
    fun x hx y hy place hplace => ?_, fun i hi => ?_, fun i hi => ?_⟩
  · subst hplace
    rw [hholds.vertex?_eq hlength, getElem?_particles hx hy]
    rfl
  · rw [vertex?, if_neg (Nat.not_lt.2 hi)]
  · rw [htexcoord, hrgb, hhsv]
    omega

/-- The colour of a place in the grid of a timeline: that of the picture there, or
of the ramp. -/
def colouring (p : Option Picture) (c : TimelineConfig) (place : Vec2 α) : Vec3 α :=
  match p with
  | some p =>
    PictureMap.colourAt p ((PictureMap.laying p c.gridWidth c.gridHeight c.scaling).apply place)
  | none => ⟨place.x, place.y, Scalar.one - place.x⟩

theorem sample_eq_build {p : Option Picture} {c : TimelineConfig}
    (hp : ∀ q, p = some q → q.isEmpty = false) :
    (sample p c : Except ConfigError (ParticleGrid α))
      = build c.gridWidth c.gridHeight (colouring p c) := by
  cases p with
  | none => rfl
  | some p =>
    have hsome : ¬ p.isEmpty = true := by simp [hp p rfl]
    rw [sample, ofPicture, if_neg hsome]
    rfl

end Cells

/-! ## Bytes -/

section Bytes

/-- The word of four bytes, the lowest first. -/
def wordOf (a b c d : UInt8) : UInt32 :=
  .ofNat (a.toNat + 256 * (b.toNat + 256 * (c.toNat + 256 * d.toNat)))

/-- The singles in some bytes, four for each. -/
def singlesOf : List UInt8 → List Float32
  | a :: b :: c :: d :: rest => .ofBits (wordOf a b c d) :: singlesOf rest
  | _ => []

/-- The numbers of a particle, in the order in which they are uploaded. -/
def numbers (v : ParticleVertex Float32) : List Float32 :=
  v.texcoord.toList ++ v.rgb.toList ++ v.hsv.toList

/-- The particles in some singles, eight for each. -/
def verticesOf : List Float32 → List (ParticleVertex Float32)
  | u :: v :: r :: g :: b :: h :: s :: l :: rest =>
    ⟨⟨u, v⟩, ⟨r, g, b⟩, ⟨h, s, l⟩⟩ :: verticesOf rest
  | _ => []

theorem wordOf_bytes (n : UInt32) :
    wordOf n.toUInt8 (n >>> 8).toUInt8 (n >>> 16).toUInt8 (n >>> 24).toUInt8 = n := by
  have hn := n.toNat_lt
  have hsum : n.toUInt8.toNat + 256 * ((n >>> 8).toUInt8.toNat
      + 256 * ((n >>> 16).toUInt8.toNat + 256 * (n >>> 24).toUInt8.toNat)) = n.toNat := by
    simp only [UInt32.toNat_toUInt8, UInt32.toNat_shiftRight, UInt32.reduceToNat, Nat.reduceMod,
      Nat.shiftRight_eq_div_pow, Nat.reducePow]
    omega
  rw [wordOf, hsum, UInt32.ofNat_toNat]

/-- **A single is told by its bytes.** -/
theorem singlesOf_singleBytes (x : Float32) (bytes : List UInt8) :
    singlesOf (singleBytes x ++ bytes) = x :: singlesOf bytes := by
  change Float32.ofBits (wordOf _ _ _ _) :: singlesOf bytes = _
  rw [wordOf_bytes]
  exact congrArg (· :: _) (Binary.pack_ofSingle x)

theorem singlesOf_flatMap (xs : List Float32) : singlesOf (xs.flatMap singleBytes) = xs := by
  induction xs with
  | nil => rfl
  | cons x xs ih => rw [List.flatMap_cons, singlesOf_singleBytes, ih]

theorem verticesOf_flatMap (vs : List (ParticleVertex Float32)) :
    verticesOf (vs.flatMap numbers) = vs := by
  induction vs with
  | nil => rfl
  | cons v vs ih => exact congrArg (v :: ·) ih

theorem length_vertexBytes (v : ParticleVertex Float32) : (vertexBytes v).length = 32 := rfl

/-- **Particles are told by their bytes.** -/
theorem verticesOf_vertexBytes (vs : List (ParticleVertex Float32)) :
    verticesOf (singlesOf (vs.flatMap vertexBytes)) = vs := by
  have hnumbers : vs.flatMap vertexBytes = (vs.flatMap numbers).flatMap singleBytes :=
    List.flatMap_assoc.symm
  rw [hnumbers, singlesOf_flatMap, verticesOf_flatMap]

theorem filterMap_getElem?_range {β : Type} (bs : List β) :
    (List.range bs.length).filterMap (bs[·]?) = bs := by
  induction bs with
  | nil => rfl
  | cons b bs ih =>
    rw [List.length_cons, List.range_succ_eq_map, List.filterMap_cons, List.filterMap_map]
    exact congrArg (b :: ·) ih

variable {width height : UInt32} {vs : List (ParticleVertex Float32)} {g : ParticleGrid Float32}

/-- **What is uploaded** are the bytes of one particle after the other. -/
theorem Holds.bytes_eq (h : g.Holds width height vs) (hsize : vs.length = g.size) :
    g.bytes = vs.flatMap vertexBytes := by
  rw [bytes, funext (h.vertex?_eq hsize), ← hsize, filterMap_getElem?_range]

end Bytes

/-- **The grid of a timeline is laid out row by row without gaps**, if it can be
had: every cell has its particle where it is read, with the colour of the ramp or
of the picture there, and nothing is read beyond the buffers. Its bytes are those
of its particles, one after the other, and tell them again. -/
theorem sample_laidOut {p : Option Picture} {c : TimelineConfig} {count : UInt32}
    (hcount : gridParticleCount c.gridWidth c.gridHeight = .ok count)
    (hp : ∀ q, p = some q → q.isEmpty = false) :
    ∃ g : ParticleGrid Float32, sample p c = .ok g ∧ g.size = count.toNat ∧
      g.LaidOut c.gridWidth c.gridHeight (colouring p c) ∧
      ∃ vs : List (ParticleVertex Float32), vs.length = g.size ∧ (∀ i, g.vertex? i = vs[i]?) ∧
        g.bytes = vs.flatMap vertexBytes ∧ (∀ v ∈ vs, (vertexBytes v).length = 32) ∧
        verticesOf (singlesOf g.bytes) = vs := by
  obtain ⟨g, hbuild⟩ : ∃ g : ParticleGrid Float32, build _ _ (colouring p c) = .ok g :=
    build_ok_iff.2 ⟨count, hcount⟩
  have hholds := holds_build hbuild
  have hlength := length_particles_build hbuild
  have hlaid := laidOut_build hbuild
  have hbytes := hholds.bytes_eq hlength
  refine ⟨g, ?_, ?_, hlaid, _, hlength, hholds.vertex?_eq hlength, hbytes,
    fun v _ => length_vertexBytes v, ?_⟩
  · rw [sample_eq_build hp, hbuild]
  · rw [hlaid.size_eq, (gridParticleCount_eq_ok_iff.1 hcount).2]
  · rw [hbytes, verticesOf_vertexBytes]

/-- A picture of a transparent and a red pixel. -/
def twoPixels : Picture := .ofFn 2 1 fun i => ⟨255, 0, 0, 255 * i.toUInt8⟩

/-- A timeline of three columns and two rows. -/
def threeByTwo : TimelineConfig where
  gridWidth := 3
  gridHeight := 2
  scaling := .fill

/-- The last particle is five sixths across and three quarters up. -/
theorem sample_laidOut_twoPixels : ∃ g : ParticleGrid Float32,
    sample (some twoPixels) threeByTwo = .ok g ∧ g.size = 6 ∧
      g.LaidOut 3 2 (colouring (some twoPixels) threeByTwo) ∧
      (g.vertex? 5).map ParticleVertex.texcoord = some ⟨(2 + 0.5) / 3, (1 + 0.5) / 2⟩ ∧
      verticesOf (singlesOf g.bytes) = (List.range 6).filterMap g.vertex? := by
  have hpicture : ∀ q, some twoPixels = some q → q.isEmpty = false := by
    intro q hq
    obtain rfl := Option.some.inj hq
    rfl
  obtain ⟨g, hg, hsize, hlaid, vs, hlength, hvertex, -, -, hdecoded⟩ :=
    @sample_laidOut (some twoPixels) threeByTwo 6 (by decide) hpicture
  have hsix : vs.length = 6 := hlength.trans hsize
  refine ⟨g, hg, hsize, hlaid, ?_, ?_⟩
  · have hlast : g.vertex? 5 = _ := hlaid.vertex 2 (by decide) 1 (by decide) _ rfl
    rw [hlast]
    decide +kernel
  rw [hdecoded, funext hvertex, ← hsix, filterMap_getElem?_range]

end ParticleGrid

end ParticleTimeline
