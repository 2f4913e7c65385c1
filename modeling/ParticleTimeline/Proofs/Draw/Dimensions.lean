import ParticleTimeline.Proofs.Draw.Command
import ParticleTimeline.Proofs.Effect.Measure
import ParticleTimeline.Proofs.Timeline.Config
/-!
# The dimensions of a command

A command draws as many particles as its timeline asks for and its grid has,
every attribute has numbers for just those, and every uniform has the type it
was declared with (`DrawCommand.Dimensioned`). The count comes from the
timeline, the shared buffers from the grid and the rest from the effects, so
this takes a grid that was sampled for the timeline and effects whose bindings
fit (`Build.dimensioned_ofRoll`).
-/

namespace ParticleTimeline

/-- A command and what it was built from agree about the particles. -/
structure DrawCommand.Dimensioned (command : DrawCommand) (c : TimelineConfig)
    (grid : ParticleGrid Float32) : Prop where
  count : command.count.toNat = c.gridWidth.toNat * c.gridHeight.toNat
  count_le : command.count.toNat ≤ maxParticles
  count_eq_size : command.count.toNat = grid.size
  attributes : ∀ e ∈ command.attributes,
    e.2.value.data.size = command.count.toNat * e.2.type.components
  uniforms : ∀ e ∈ command.uniforms, ∀ frame, (e.2.value.resolve frame).type = e.2.type

/-! ## Entries and the actions behind them -/

namespace Enrolment

variable {e : Enrolment}

/-- A uniform that a registration leaves behind was bound by it. -/
theorem bound_of_mem_uniforms {x : String × Entry Uniform} (h : x ∈ e.uniforms) :
    ∃ name, Action.bindUniform name x.2.type x.2.value ∈ e.actions := by
  unfold uniforms at h
  split at h
  · simp only [Allocator.entries, List.mem_map, List.mem_filterMap] at h
    obtain ⟨b, ⟨a, ha, hbinding⟩, rfl⟩ := h
    cases a with
    | bindUniform name type value =>
      obtain rfl := Option.some.inj hbinding
      exact ⟨name, ha⟩
    | _ => cases hbinding
  · simp at h

theorem bound_of_mem_attributes {x : String × Entry Attribute} (h : x ∈ e.attributes) :
    ∃ name, Action.bindAttribute name x.2.type x.2.value ∈ e.actions := by
  unfold attributes at h
  split at h
  · simp only [Allocator.entries, List.mem_map, List.mem_filterMap] at h
    obtain ⟨b, ⟨a, ha, hbinding⟩, rfl⟩ := h
    cases a with
    | bindAttribute name type value =>
      obtain rfl := Option.some.inj hbinding
      exact ⟨name, ha⟩
    | _ => cases hbinding
  · simp at h

end Enrolment

namespace Build

variable {c : TimelineConfig} {grid : ParticleGrid Float32} {moment : FrameContext}
  {queue : List Queued} {r : Registry} {p : Option Picture}

/-- Whatever is bound in a build fits the grid of the build. -/
theorem fits_roll (hqueue : Build.queue c r = .ok queue) (hmeasured : r.Measured)
    {e : Enrolment} (he : e ∈ roll c grid moment queue) : ∀ a ∈ e.actions, a.Fits grid.size := by
  obtain ⟨q, hq, -, hregistration⟩ := Draft.mem_enrol he
  have heffect := Registry.mem_of_get ((queue_eq_ok.1 hqueue).2.2 q hq)
  rw [Enrolment.actions, hregistration]
  exact hmeasured q.effect heffect _

/-! ## What all builds share -/

theorem type_sharedUniforms (c : TimelineConfig) : ∀ e ∈ (sharedUniforms c).entries,
    ∀ frame, (e.2.value.resolve frame).type = e.2.type := by
  simp [sharedUniforms, Allocator.entries, Uniform.resolve, UniformValue.type]

theorem size_sharedAttributes {width height : UInt32} {n : Nat}
    (h : grid.Filled width height n) : ∀ e ∈ (sharedAttributes grid).entries,
      e.2.value.data.size = n * e.2.type.components := by
  simp [sharedAttributes, Allocator.entries, GlslType.components, h.texcoord, h.rgb, h.hsv,
    Nat.mul_comm]

/-! ## Commands -/

/-- **The command of a build is dimensioned**, when its grid was sampled for
its timeline and the bindings of its effects fit. -/
theorem dimensioned_ofRoll (hqueue : Build.queue c r = .ok queue) (hmeasured : r.Measured)
    (hgrid : ParticleGrid.sample p c = .ok grid) (moment : FrameContext) :
    (ofRoll c grid (roll c grid moment queue)).Dimensioned c grid := by
  obtain ⟨⟨count, hcount⟩, hfilled⟩ := ParticleGrid.filled_sample hgrid
  have hproduct : c.particleCount.toNat = c.gridWidth.toNat * c.gridHeight.toNat :=
    TimelineConfig.toNat_particleCount hcount
  have hsize : grid.size = c.gridWidth.toNat * c.gridHeight.toNat := by
    rw [ParticleGrid.size, hfilled.width_eq, hfilled.height_eq]
  have hlimit := (gridParticleCount_eq_ok.1 hcount).2.1
  -- What an effect binds was measured when it was registered.
  have hfits : ∀ e ∈ roll c grid moment queue, ∀ a ∈ e.actions, a.Fits grid.size :=
    fun e he => fits_roll hqueue hmeasured he
  have hdrawn : (ofRoll c grid (roll c grid moment queue)).count.toNat = grid.size :=
    hproduct.trans hsize.symm
  refine ⟨hproduct, hproduct ▸ hlimit, hdrawn, fun x hx => ?_, fun x hx frame => ?_⟩
  · rw [hdrawn]
    rw [ofRoll_attributes, ← Table.insertAll_eq_ofList] at hx
    rcases Table.mem_insertAll hx with hx | hx
    · rcases List.mem_append.1 hx with hshared | heffects
      · exact hsize ▸ size_sharedAttributes hfilled x hshared
      · obtain ⟨e, he, hmem⟩ := List.mem_flatMap.1 heffects
        obtain ⟨name, hbound⟩ := Enrolment.bound_of_mem_attributes hmem
        exact hfits e he _ hbound
    · simp at hx
  · rw [ofRoll_uniforms, ← Table.insertAll_eq_ofList] at hx
    rcases Table.mem_insertAll hx with hx | hx
    · rcases List.mem_append.1 hx with hshared | heffects
      · exact type_sharedUniforms c x hshared frame
      · obtain ⟨e, he, hmem⟩ := List.mem_flatMap.1 heffects
        obtain ⟨name, hbound⟩ := Enrolment.bound_of_mem_uniforms hmem
        exact hfits e he _ hbound frame
    · simp at hx

end Build

end ParticleTimeline
