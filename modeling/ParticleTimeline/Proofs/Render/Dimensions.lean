import ParticleTimeline.Proofs.Draw.Dimensions
import ParticleTimeline.Proofs.Render.Calls
/-!
# The dimensions of what is shown

Pictures and timelines change while builds wait, and a build keeps the
timeline and the grid that it was commissioned with. A renderer always has a
grid that was sampled for its timeline (`Renderer.Sampled`), so these two agree
in every commission that it gives (`Commission.Fit`), and the command that a
commission comes to is dimensioned. With the built-in effects that holds of
whatever is shown (`Renderer.active_dimensioned`).
-/

namespace ParticleTimeline

/-- Hooks have no part in the dimensions. -/
theorem DrawCommand.Dimensioned.of_bare {command other : DrawCommand} {c : TimelineConfig}
    {grid : ParticleGrid Float32} (h : command.Dimensioned c grid)
    (hbare : other.bare = command.bare) : other.Dimensioned c grid := by
  simp only [DrawCommand.bare, DrawCommand.mk.injEq] at hbare
  obtain ⟨hcount, hattributes, huniforms, -⟩ := hbare
  constructor
  · rw [hcount]
    exact h.count
  · rw [hcount]
    exact h.count_le
  · rw [hcount]
    exact h.count_eq_size
  · rw [hcount, hattributes]
    exact h.attributes
  · rw [huniforms]
    exact h.uniforms

/-- A commission whose effects bind what fits, and whose grid was sampled for
its timeline. -/
structure Commission.Fit (c : Commission) : Prop where
  queue : ∃ registry : Registry, registry.Measured ∧ Build.queue c.timeline registry = .ok c.queue
  grid : ∃ picture, ParticleGrid.sample picture c.timeline = .ok c.grid

theorem Commission.Fit.dimensioned {c : Commission} (h : c.Fit) :
    c.command.Dimensioned c.timeline c.grid := by
  obtain ⟨registry, hmeasured, hqueue⟩ := h.queue
  obtain ⟨picture, hgrid⟩ := h.grid
  exact Build.dimensioned_ofRoll hqueue hmeasured hgrid c.moment

/-- A renderer whose effects bind what fits, and whose grid was sampled for
its timeline. -/
structure Renderer.Sampled (r : Renderer) : Prop where
  measured : r.registry.Measured
  grid : ParticleGrid.sample r.picture r.timeline = .ok r.grid

/-- Waits change nothing about what is bound. -/
theorem Registry.SameButWaits.measured {r s : Registry} (h : r.SameButWaits s)
    (hmeasured : s.Measured) : r.Measured := by
  intro e he q
  obtain ⟨f, hf, hsame⟩ := h.exists_mem he
  rw [(hsame.registers q).actions]
  exact hmeasured f hf q

theorem Renderer.Sampled.same {r r' : Renderer} (h : r.Sampled) (hsame : r.SameSubject r') :
    r'.Sampled := by
  constructor
  · exact hsame.effects.measured h.measured
  · rw [hsame.picture, hsame.timeline, hsame.grid]
    exact h.grid

theorem mem_of_commissionOf {cs : List Commission} {generation : Nat} {c : Commission}
    (h : commissionOf cs generation = some c) : c ∈ cs := by
  cases generation with
  | zero => cases h
  | succ n => exact List.mem_of_getElem? h

namespace Operation

variable {op : Operation} {ops : List Operation} {r r' x : Renderer} {queue : List Queued}

/-- The effects that an operation brings in are the built-in ones. -/
def BuiltIn : Operation → Prop
  | changeEffects registry => ∃ source, registry = .builtInOf source
  | _ => True

theorem BuiltIn.faultless (h : op.BuiltIn) : op.Faultless := by
  cases op with
  | changeEffects registry =>
    obtain ⟨source, rfl⟩ := h
    exact Registry.faultless_builtInOf source
  | _ => trivial

/-! ## Commissions -/

/-- A grid is sampled before its build begins. -/
theorem sampled_of_begun (h : op.begun? r = some (x, queue)) (hr : r.Sampled) : x.Sampled := by
  cases begun_of_eq_some h with
  | timeline hqueue hgrid => exact ⟨hr.measured, hgrid⟩
  | picture hqueue hgrid => exact ⟨hr.measured, hgrid⟩
  | rebuild hqueue => exact hr

/-- **Every commission is fit.** -/
theorem fit_of_mem_commissions (hr : r.Sampled) {c : Commission} (hc : c ∈ op.commissions r) :
    c.Fit := by
  simp only [commissions, List.mem_map, Option.mem_toList] at hc
  obtain ⟨⟨x, queue⟩, hbegun, rfl⟩ := hc
  exact ⟨⟨r.registry, hr.measured, (queue_of_begun hbegun).1⟩,
    ⟨x.picture, (sampled_of_begun hbegun hr).grid⟩⟩

/-- Every operation leaves a grid that was sampled for its timeline. -/
theorem Performed.sampled (h : Performed op r r') (hr : r.Sampled) (hop : op.BuiltIn) :
    r'.Sampled := by
  cases h with
  | refused hstarts h => exact hr
  | @built op r x r' queue hbegun hpolled =>
    have hx := sampled_of_begun hbegun hr
    have henlisted : (x.enlist queue).Sampled := ⟨hx.measured, hx.grid⟩
    exact henlisted.same hpolled.same
  | resized width height r => exact hr.same (r.alike_resizeBuffers width height).toSameSubject
  | @framed now r r'' hpolled =>
    have hticked := hr.same (r.alike_ticked now).toSameSubject
    exact (hticked.same hpolled.same).same r''.alike_shown.toSameSubject
  | idle h => exact hr
  | @finished r r'' p left fit h hsettled =>
    have hwaits : ({ r with pending := none } : Renderer).Sampled := ⟨hr.measured, hr.grid⟩
    have hended := hwaits.same hsettled.same
    exact ⟨hended.measured, hended.grid⟩
  | reported error r => exact hr.same (r.alike_reported error).toSameSubject
  | clockChanged change r => exact ⟨hr.measured, hr.grid⟩
  | effectsChanged registry r =>
    obtain ⟨source, rfl⟩ := hop
    exact ⟨Registry.measured_builtInOf source, hr.grid⟩

/-- **Every commission of a history is fit.** -/
theorem fit_of_mem_commissionsAlong (hr : r.Sampled) (hsound : r.Sound)
    (hops : ∀ op ∈ ops, op.BuiltIn) {c : Commission} (hc : c ∈ commissionsAlong ops r) :
    c.Fit := by
  induction ops generalizing r with
  | nil => simp [commissionsAlong] at hc
  | cons op ops ih =>
    have hop := hops op List.mem_cons_self
    rcases List.mem_append.1 hc with hfirst | hlater
    · exact fit_of_mem_commissions hr hfirst
    · rcases perform_of_sound op hsound with ⟨r₁, hperform, hperformed⟩ | ⟨crash, hperform, -⟩
      · simp only [hperform] at hlater
        exact ih (hperformed.sampled hr hop) (hperformed.sound hsound hop.faultless)
          (fun op' hop' => hops op' (List.mem_cons_of_mem _ hop')) hlater
      · simp [hperform] at hlater

end Operation

/-! ## What is shown -/

namespace Renderer

open Operation (run commissionsAlong)

variable {device : Device} {timeline : TimelineConfig} {source : PictureSource}
variable {ops : List Operation} {r r' : Renderer}
variable {command : DrawCommand}

/-- The commissions of a renderer, from its creation on, are those of a history
of what there was before it. -/
theorem fit_of_create (hcreate : create device (.builtInOf source) timeline = .ok (.ok r))
    (hops : ∀ op ∈ ops, op.BuiltIn) {c : Commission}
    (hc : c ∈ commissionsAtFirst device (.builtInOf source) timeline ++ commissionsAlong ops r) :
    c.Fit := by
  obtain ⟨p, queue, hprepare, -, hperform⟩ := create_eq_ok hcreate
  obtain ⟨-, hgrid, hp⟩ := prepare_eq_ok hprepare
  have hsampled : p.Sampled := by
    rw [hp]
    exact ⟨Registry.measured_builtInOf source, hgrid⟩
  have hsound : p.Sound := by
    rw [hp]
    exact ⟨Registry.faultless_builtInOf source, by simp [builds]⟩
  -- The first build is that of a rebuild before all operations.
  have hfrom : c ∈ commissionsAlong (.rebuild :: ops) p := by
    simpa only [commissionsAtFirst, hprepare, commissionsAlong, hperform] using hc
  have hwhole : ∀ op ∈ Operation.rebuild :: ops, op.BuiltIn :=
    List.forall_mem_cons.2 ⟨trivial, hops⟩
  exact Operation.fit_of_mem_commissionsAlong hsampled hsound hwhole hfrom

/-- **Whatever is shown is dimensioned.** A renderer is created with the
built-in effects, over any source of pictures, and any history of operations
follows in which the source may come to answer otherwise. If a command is on
show then, it is the one that the build of its generation came to, and it
agrees with the timeline and the grid of that build: it has as many particles
as the sides of the grid multiply to, no more than the limit, and as the grid
has; every attribute has numbers for just so many; and every uniform has its
declared type in every frame. -/
theorem active_dimensioned
    (hcreate : create device (.builtInOf source) timeline = .ok (.ok r))
    (hops : ∀ op ∈ ops, op.BuiltIn) (hrun : run ops r = .ok r')
    (hactive : r'.slot.active = some command) :
    ∃ c, commissionOf (commissionsAtFirst device (.builtInOf source) timeline
          ++ commissionsAlong ops r) r'.slot.installed = some c ∧
      command.bare = c.command.bare ∧ command.Dimensioned c.timeline c.grid := by
  obtain ⟨haccounted, hsound⟩ := accounted_of_create hcreate (Registry.faultless_builtInOf source)
  obtain ⟨hlast, -⟩ :=
    Operation.run_accounted haccounted hsound (fun op hop => (hops op hop).faultless) hrun
  rcases hlast.shows with ⟨hnone, -⟩ | ⟨c, shown, hcommission, hshown, hbare, -⟩
  · rw [hnone] at hactive
    cases hactive
  · obtain rfl : shown = command := Option.some.inj (hshown.symm.trans hactive)
    have hfit := fit_of_create hcreate hops (mem_of_commissionOf hcommission)
    exact ⟨c, hcommission, hbare, hfit.dimensioned.of_bare hbare⟩

end Renderer

/-! ## A picture that keeps its build waiting -/

/-- One red picture, which takes a while to come. -/
def PictureSource.slow : PictureSource where
  names := ["red"]
  fetch _ _ := { waits := 1, answer := some (.ok (.ofFn 1 1 fun _ => ⟨255, 0, 0, 255⟩)) }

/-- A timeline of two particles that fade to it. -/
def TimelineConfig.reddening : TimelineConfig where
  tracks := [[{ effectId := "ChangeImage", timeBegin := 0, timeEnd := 1000,
                config := .object [("image", .text "red")] }]]
  gridWidth := 2
  gridHeight := 1

namespace Renderer

open Operation (run)

/-- A picture is set while the first build waits, and the build that this
begins ends in the frame that follows, with the colours of both pictures. -/
theorem active_dimensioned_slow :
    ∃ r r' command, ∃ c : Commission, create {} (.builtInOf .slow) .reddening = .ok (.ok r) ∧
      run [.setPicture (some (.ofFn 1 1 fun _ => ⟨0, 0, 255, 255⟩)), .frame 0] r = .ok r' ∧
      r'.slot.installed = 2 ∧ r'.slot.active = some command ∧ command.count = 2 ∧
      command.attributes.length = 4 ∧ command.Dimensioned c.timeline c.grid := by
  have hcomputed : ∃ r r', create {} (.builtInOf .slow) .reddening = .ok (.ok r) ∧
      run [.setPicture (some (.ofFn 1 1 fun _ => ⟨0, 0, 255, 255⟩)), .frame 0] r = .ok r' ∧
      (r'.slot.installed == 2 && r'.slot.active.any fun command =>
        command.count == 2 && command.attributes.length == 4) = true :=
    exists_of_computed (by decide +kernel)
  obtain ⟨r, r', hcreate, hrun, hended⟩ := hcomputed
  obtain ⟨hinstalled, hshown⟩ := Bool.and_eq_true_iff.1 hended
  obtain ⟨command, hactive, hcommand⟩ := (Option.any_eq_true _ _).1 hshown
  obtain ⟨hcount, hattributes⟩ := Bool.and_eq_true_iff.1 hcommand
  obtain ⟨c, -, -, hdimensioned⟩ := active_dimensioned hcreate
    (by simp [Operation.BuiltIn]) hrun hactive
  exact ⟨r, r', command, c, hcreate, hrun, beq_iff_eq.1 hinstalled, hactive,
    beq_iff_eq.1 hcount, beq_iff_eq.1 hattributes, hdimensioned⟩

end Renderer

end ParticleTimeline
