import ParticleTimeline.Proofs.Effect.BuiltIn
import ParticleTimeline.Proofs.Particle.Grid
/-!
# What fits its declaration

An attribute fits when it has as many numbers as its particles and its type
need, and a uniform fits when it has its type in every frame (`Action.Fits`).
The effects that come with the program bind nothing else, wherever their
pictures come from (`Registry.measured_builtInOf`).
-/

namespace ParticleTimeline

/-- What is bound is what is declared, when there are so many particles. -/
def Action.Fits (count : Nat) : Action → Prop
  | .bindUniform _ type value => ∀ frame, (value.resolve frame).type = type
  | .bindAttribute _ type value => value.data.size = count * type.components
  | .declare .. | .addGlobal .. | .addMain .. | .mark _ | .rollback .. | .onFrame _
  | .onTeardown _ => True

/-- A fade binds three numbers for every particle. -/
theorem fits_fadeTo {r : Request} {p : Picture} {actions : List Action}
    (h : fadeTo r p = .ok actions) : ∀ a ∈ actions, a.Fits r.grid.size := by
  obtain ⟨grid, hgrid, rfl⟩ := fadeTo_eq_ok h
  have hrgb := (ParticleGrid.filled_ofPicture hgrid).2.rgb
  simp only [List.forall_mem_cons, List.not_mem_nil, false_implies, implies_true, and_true,
    Action.Fits, GlslType.components, hrgb, ParticleGrid.size]
  exact Nat.mul_comm _ _

namespace Registry

/-- Effects whose bindings fit, whatever they are asked. -/
def Measured (r : Registry) : Prop :=
  ∀ e ∈ r.effects, ∀ q : Request, ∀ a ∈ (e.register q).actions, a.Fits q.grid.size

/-- **Everything that the built-in effects bind fits.** -/
theorem measured_builtInOf (source : PictureSource) : (builtInOf source).Measured := by
  intro e he q
  simp only [builtInOf, List.mem_cons, List.not_mem_nil, or_false] at he
  rcases he with rfl | rfl | rfl | rfl | rfl | rfl
  · simp [Effect.wave, Action.Fits, fixedFloat, Uniform.resolve, UniformValue.type]
  · simp [Effect.hueDisplace, Action.Fits, fixedFloat, Uniform.resolve, UniformValue.type]
  · simp only [Effect.converge]
    split
    · simp
    · simp [Action.Fits, fixedFloat, Uniform.resolve, UniformValue.type]
  · simp [Effect.colorize, Action.Fits, fixedFloat, Uniform.resolve, UniformValue.type]
  · rcases Effect.changeImageOf_actions source q with hnone | ⟨p, actions, hfade, hactions⟩
    · simp [hnone]
    · rw [hactions]
      exact fits_fadeTo hfade
  · simp [Effect.dummy]

end Registry

end ParticleTimeline
