import ParticleTimeline.Proofs.Draw.Waits
import ParticleTimeline.Proofs.Render.Operation
import ParticleTimeline.Proofs.Timeline.Config
/-!
# What is shown is what was asked for

Every build has a generation, and only the latest one may still be installed
(`Renderer.Ordered`); so superseded builds change nothing but the journal
when they end (`Renderer.RetiredPolled.slot`). The grid is sampled for the
timeline on show, and the clock has its length. When no build is under way,
the command on show draws what an uninterrupted build of the timeline would
draw, however often the builds were polled and however often their effects
waited, which they may do otherwise every time. All of this is one invariant
(`Renderer.Consistent`), which every operation keeps that leaves the clock
alone and lets the effects do what they did (`Operation.Performed.consistent`).
-/

namespace ParticleTimeline

/-- What a command draws, without its hooks. -/
def DrawCommand.bare (c : DrawCommand) : DrawCommand := { c with hooks := {} }

namespace CommandSlot

/-- Frame hooks change nothing that is drawn, and no generation. -/
theorem runFrameHooks_bare (s : CommandSlot) (frame : FrameContext) :
    (s.runFrameHooks frame).1.active.map DrawCommand.bare = s.active.map DrawCommand.bare ∧
      (s.runFrameHooks frame).1.latest = s.latest ∧
      (s.runFrameHooks frame).1.installed = s.installed := by
  unfold runFrameHooks
  cases hactive : s.active with
  | none => simp [hactive]
  | some c => exact ⟨rfl, rfl, rfl⟩

end CommandSlot

namespace Renderer

/-! ## Generations -/

/-- The build under way has the latest generation, and has yet to be
installed; superseded builds have earlier generations. -/
structure Ordered (r : Renderer) : Prop where
  retired : ∀ p ∈ r.retired, p.ticket.generation < r.slot.latest
  pending : ∀ p ∈ r.pending.toList,
    p.ticket.generation = r.slot.latest ∧ r.slot.installed < r.slot.latest
  installed : r.slot.installed ≤ r.slot.latest
  idle : r.pending = none → r.slot.installed = r.slot.latest

variable {patient : Bool} {r r' : Renderer} {p : PendingBuild} {left : Option PendingBuild}
variable {fit : Bool}

/-- A superseded build that ends is not installed. -/
theorem Settled.slot_of_stale (h : Settled patient r p r' left fit)
    (hstale : p.ticket.generation < r.slot.latest) : r'.slot = r.slot := by
  cases h with
  | waits houtcome => rfl
  | installed houtcome hcurrent => omega
  | late houtcome hstale => rfl

/-- **Superseded builds never touch the slot.** -/
theorem RetiredPolled.slot {ps : List PendingBuild} (h : RetiredPolled ps r r')
    (hstale : ∀ p ∈ ps, p.ticket.generation < r.slot.latest) : r'.slot = r.slot := by
  induction h with
  | nil r => rfl
  | @cons p rest r r₁ r'' left fit h hrest ih =>
    have hslot := h.slot_of_stale (hstale p List.mem_cons_self)
    have hlater := ih fun q hq => by
      simpa only [hslot] using hstale q (List.mem_cons_of_mem _ hq)
    exact hlater.trans hslot

/-- What polling all builds comes to: the build under way goes on waiting and
the slot stays as it was, or the build is installed. -/
theorem BuildsPolled.slot (h : r.BuildsPolled r') (hordered : r.Ordered) :
    (r'.slot = r.slot ∧ (r.pending = none ↔ r'.pending = none)) ∨
      ∃ p command, r.pending = some p ∧ p.build.poll.outcome = .finished command ∧
        r'.pending = none ∧
        r'.slot = { r.slot with active := some command, installed := r.slot.latest } := by
  cases h with
  | idle h hidle =>
    have hsame : r.pending = none := by rw [← hidle, h.frame]
    exact .inl ⟨h.slot hordered.retired, by simp [hsame, hidle]⟩
  | @pending p r₁ r₂ left fit h hpending hsettled =>
    have hsame : r.pending = some p := by rw [← hpending, h.frame]
    -- Superseded builds went first, and left the slot alone.
    have hslot : r₁.slot = r.slot := h.slot hordered.retired
    have hgeneration := (hordered.pending p (by simp [hsame])).1
    cases hsettled with
    | waits houtcome => exact .inl ⟨hslot, by simp [hsame]⟩
    | @installed command houtcome hcurrent =>
      exact .inr ⟨p, command, hsame, houtcome, rfl, by rw [hslot]⟩
    | late houtcome hstale => exact absurd (hslot ▸ hgeneration) hstale

theorem BuildsPolled.ordered (h : r.BuildsPolled r') (hordered : r.Ordered) : r'.Ordered := by
  obtain ⟨hretired, hpending⟩ := h.later
  have hlatest : r'.slot.latest = r.slot.latest := by
    rcases h.slot hordered with ⟨hslot, -⟩ | ⟨p, command, -, -, -, hslot⟩ <;> rw [hslot]
  have hstale : ∀ q ∈ r'.retired, q.ticket.generation < r'.slot.latest := by
    intro q hq
    obtain ⟨p, hp, hlater⟩ := hretired q hq
    rw [hlater.ticket, hlatest]
    exact hordered.retired p hp
  rcases h.slot hordered with ⟨hslot, hidle⟩ | ⟨p, command, hp, -, hnone, hslot⟩
  · refine ⟨hstale, fun q hq => ?_, hslot ▸ hordered.installed, fun hnone => ?_⟩
    · obtain ⟨p, hp, hlater⟩ := hpending q hq
      rw [hlater.ticket, hslot]
      exact hordered.pending p hp
    · rw [hslot]
      exact hordered.idle (hidle.2 hnone)
  · exact ⟨hstale, by simp [hnone], by simp [hslot], fun _ => by simp [hslot]⟩

/-- A build that begins has the latest generation, and supersedes all others. -/
theorem Ordered.enlist (h : r.Ordered) (queue : List Queued) : (r.enlist queue).Ordered := by
  have hinstalled := h.installed
  refine ⟨fun p hp => ?_, fun p hp => ?_, ?_, nofun⟩
  · simp only [Renderer.enlist, CommandSlot.begin, List.mem_append] at hp ⊢
    rcases hp with hp | hp
    · have := h.retired p hp
      omega
    · have := (h.pending p hp).1
      omega
  -- The ticket is newer than all there were, and has installed nothing.
  · simp only [Renderer.enlist, CommandSlot.begin, Option.toList_some, List.mem_singleton] at hp ⊢
    subst hp
    exact ⟨rfl, by omega⟩
  · simp only [Renderer.enlist, CommandSlot.begin]
    omega

/-! ## The timeline on show -/

variable {registry : Registry}

/-- A build of the timeline on show, after some polls. When it began, its
effects may have been about to wait as they liked. -/
def Current (registry : Registry) (r : Renderer) (b : Build) : Prop :=
  ∃ registry' moment queue, registry'.SameButWaits registry ∧
    Build.queue r.timeline registry' = .ok queue ∧
    Build.Left (Build.start r.timeline r.grid moment queue) b

/-- The command on show draws what an uninterrupted build of the timeline
draws, whenever it begins and however often its effects wait. -/
def Shows (registry : Registry) (r : Renderer) : Prop :=
  ∃ active, r.slot.active = some active ∧ ∀ registry' : Registry, registry'.SameButWaits registry →
    ∃ queue, Build.queue r.timeline registry' = .ok queue ∧
      ∀ moment, ∃ command,
        (Build.start r.timeline r.grid moment queue).finish.outcome = .finished command ∧
          command.bare = active.bare

/-- What a renderer is like when a build may begin. Its effects do what those
of a registry do. -/
structure Ready (registry : Registry) (r : Renderer) : Prop where
  sound : r.Sound
  effects : r.registry.SameButWaits registry
  ordered : r.Ordered
  grid : ParticleGrid.sample r.picture r.timeline = .ok r.grid
  period : r.clock.period = Clock.heldPeriod r.timeline.duration

/-- What a renderer is like at any time. -/
structure Consistent (registry : Registry) (r : Renderer) : Prop extends Ready registry r where
  current : ∀ p ∈ r.pending.toList, Current registry r p.build
  shows : r.pending = none → Shows registry r

/-! ## Changes that do not matter -/

/-- Two renderers that have the same to show, with effects that do the same. -/
structure SameSubject (r r' : Renderer) : Prop where
  effects : r'.registry.SameButWaits r.registry
  timeline : r'.timeline = r.timeline
  picture : r'.picture = r.picture
  grid : r'.grid = r.grid
  period : r'.clock.period = r.clock.period

/-- Two renderers that have the same to show, show the same and have the same
builds. -/
structure Alike (r r' : Renderer) : Prop extends SameSubject r r' where
  latest : r'.slot.latest = r.slot.latest
  installed : r'.slot.installed = r.slot.installed
  active : r'.slot.active.map DrawCommand.bare = r.slot.active.map DrawCommand.bare
  pending : r'.pending = r.pending
  retired : r'.retired = r.retired

theorem Current.same {b : Build} (h : Current registry r b) (hsame : r.SameSubject r') :
    Current registry r' b := by
  rw [Current, hsame.timeline, hsame.grid]
  exact h

theorem Shows.same (h : Shows registry r) (hsame : r.SameSubject r')
    (hbare : r'.slot.active.map DrawCommand.bare = r.slot.active.map DrawCommand.bare) :
    Shows registry r' := by
  obtain ⟨active, hactive, hbuilds⟩ := h
  rw [hactive] at hbare
  obtain ⟨active', hactive', hdrawn⟩ := Option.map_eq_some_iff.1 hbare
  rw [Shows, hsame.timeline, hsame.grid]
  refine ⟨active', hactive', fun registry' hregistry => ?_⟩
  obtain ⟨queue, hqueue, hfinishes⟩ := hbuilds registry' hregistry
  refine ⟨queue, hqueue, fun moment => ?_⟩
  obtain ⟨command, hfinished, hcommand⟩ := hfinishes moment
  exact ⟨command, hfinished, hcommand.trans hdrawn.symm⟩

theorem Ready.same (h : Ready registry r) (hsame : r.SameSubject r') (hsound : r'.Sound)
    (hordered : r'.Ordered) : Ready registry r' where
  sound := hsound
  effects := hsame.effects.trans h.effects
  ordered := hordered
  grid := by
    rw [hsame.picture, hsame.timeline, hsame.grid]
    exact h.grid
  period := by
    rw [hsame.period, hsame.timeline]
    exact h.period

theorem Alike.ordered (halike : r.Alike r') (h : r.Ordered) : r'.Ordered := by
  obtain ⟨hretired, hpending, hinstalled, hidle⟩ := h
  constructor
  · rw [halike.retired, halike.latest]
    exact hretired
  · rw [halike.pending, halike.latest, halike.installed]
    exact hpending
  · rw [halike.latest, halike.installed]
    exact hinstalled
  · rw [halike.pending, halike.latest, halike.installed]
    exact hidle

theorem Consistent.alike (h : Consistent registry r) (halike : r.Alike r') :
    Consistent registry r' := by
  have hsame := halike.toSameSubject
  have hbuilds : r'.builds = r.builds := by rw [builds, builds, halike.pending, halike.retired]
  have hsound : r'.Sound := ⟨halike.effects.faultless h.sound.registry, hbuilds ▸ h.sound.builds⟩
  exact {
    toReady := h.toReady.same hsame hsound (halike.ordered h.ordered)
    current := fun p hp => (h.current p (halike.pending ▸ hp)).same hsame
    shows := fun hnone => (h.shows (halike.pending ▸ hnone)).same hsame halike.active }

/-! ## Builds that end -/

theorem BuildsPolled.same (h : r.BuildsPolled r') : r.SameSubject r' := by
  rw [h.frame]
  exact ⟨.refl _, rfl, rfl, rfl, rfl⟩

theorem Settled.same (h : Settled patient r p r' left fit) : r.SameSubject r' := by
  rw [h.frame]
  exact ⟨.refl _, rfl, rfl, rfl, rfl⟩

/-- **A build that ends shows its timeline**, if its effects do not look at the
time. -/
theorem Consistent.shows_of_finished (h : Consistent registry r) (hfaultless : registry.Faultless)
    (htimeless : registry.Timeless) (hpending : r.pending = some p) {command : DrawCommand}
    (hfinished : (p.build.advance patient).outcome = .finished command)
    (hsame : r.SameSubject r') (hactive : r'.slot.active = some command) :
    Shows registry r' := by
  obtain ⟨registry', moment, queue, hregistry, hqueue, hleft⟩ := h.current p (by simp [hpending])
  rw [Shows, hsame.timeline, hsame.grid]
  refine ⟨command, hactive, fun registry'' hregistry' => ?_⟩
  obtain ⟨queue', hqueue', hfinishes⟩ := hleft.command_same hqueue
    (hregistry.faultless hfaultless) (hregistry.timeless htimeless) hfinished
    (hregistry'.trans hregistry.symm)
  exact ⟨queue', hqueue', fun moment => ⟨command, hfinishes moment, rfl⟩⟩

theorem BuildsPolled.consistent (h : r.BuildsPolled r') (hr : Consistent registry r)
    (hfaultless : registry.Faultless) (htimeless : registry.Timeless) :
    Consistent registry r' := by
  refine ⟨hr.toReady.same h.same (h.sound hr.sound) (h.ordered hr.ordered), fun q hq => ?_,
    fun hnone => ?_⟩
  · obtain ⟨p, hp, hlater⟩ := h.later.2 q hq
    obtain ⟨registry', moment, queue, hregistry, hqueue, hleft⟩ := hr.current p hp
    exact Current.same ⟨registry', moment, queue, hregistry, hqueue, hleft.trans hlater.left⟩ h.same
  · rcases h.slot hr.ordered with ⟨hslot, hidle⟩ | ⟨p, command, hpending, hfinished, -, hslot⟩
    · exact (hr.shows (hidle.2 hnone)).same h.same (by rw [hslot])
    · exact hr.shows_of_finished hfaultless htimeless hpending hfinished h.same (by rw [hslot])

/-- Waiting for the build under way installs it. -/
theorem Settled.slot_of_pending (h : Settled true { r with pending := none } p r' left fit)
    (hpending : r.pending = some p) (hordered : r.Ordered) (hsound : p.build.Sound) :
    ∃ command, p.build.finish.outcome = .finished command ∧ left = none ∧
      r'.slot = { r.slot with active := some command, installed := r.slot.latest } := by
  have hgeneration := (hordered.pending p (by simp [hpending])).1
  obtain rfl := h.left_eq_none hsound
  cases h with
  | @installed command houtcome hcurrent => exact ⟨command, houtcome, rfl, rfl⟩
  | late houtcome hstale => exact absurd hgeneration hstale

theorem Settled.ordered (h : Settled true { r with pending := none } p r' left fit)
    (hpending : r.pending = some p) (hordered : r.Ordered) (hsound : p.build.Sound) :
    Ordered { r' with pending := left } := by
  have hretired : r'.retired = r.retired := by rw [h.frame]
  obtain ⟨command, -, rfl, hslot⟩ := h.slot_of_pending hpending hordered hsound
  refine ⟨?_, by simp, ?_, fun _ => ?_⟩
  · simp only [hretired, hslot]
    exact hordered.retired
  · simp only [hslot, Nat.le_refl]
  · simp only [hslot]

/-! ## Clock ticks, frames and sizes -/

theorem alike_ticked (r : Renderer) (now : Nat) : r.Alike (r.ticked now) :=
  ⟨⟨.refl _, rfl, rfl, rfl, Clock.tick_period _ _⟩, rfl, rfl, rfl, rfl, rfl⟩

theorem alike_shown (r : Renderer) : r.Alike r.shown := by
  obtain ⟨hactive, hlatest, hinstalled⟩ := r.slot.runFrameHooks_bare r.moment
  rw [shown_eq]
  exact ⟨⟨.refl _, rfl, rfl, rfl, rfl⟩, hlatest, hinstalled, hactive, rfl, rfl⟩

theorem alike_resizeBuffers (r : Renderer) (width height : UInt32) :
    r.Alike (r.resizeBuffers width height).1 := by
  rw [resizeBuffers_eq]
  exact ⟨⟨.refl _, rfl, rfl, rfl, rfl⟩, rfl, rfl, rfl, rfl, rfl⟩

theorem alike_reported (r : Renderer) (error : EffectError) :
    r.Alike { r with reports := r.reports.report error } :=
  ⟨⟨.refl _, rfl, rfl, rfl, rfl⟩, rfl, rfl, rfl, rfl, rfl⟩

/-- Effects may come to wait otherwise. -/
theorem Ready.alike_effects (h : Ready registry r) {registry' : Registry}
    (hsame : registry'.SameButWaits registry) : r.Alike { r with registry := registry' } :=
  ⟨⟨hsame.trans h.effects.symm, rfl, rfl, rfl, rfl⟩, rfl, rfl, rfl, rfl, rfl⟩

/-! ## Going forward -/

/-- How a renderer goes forward: generations only grow, and what comes to be
drawn was asked for no earlier than the latest build there was. -/
structure Advances (r r' : Renderer) : Prop where
  latest : r.slot.latest ≤ r'.slot.latest
  installed : r.slot.installed ≤ r'.slot.installed
  active :
    (r'.slot.installed = r.slot.installed ∧
      r'.slot.active.map DrawCommand.bare = r.slot.active.map DrawCommand.bare) ∨
    r.slot.latest ≤ r'.slot.installed

theorem Advances.refl (r : Renderer) : r.Advances r :=
  ⟨Nat.le_refl _, Nat.le_refl _, .inl ⟨rfl, rfl⟩⟩

theorem Advances.trans {r'' : Renderer} (h : r.Advances r') (h' : r'.Advances r'') :
    r.Advances r'' := by
  obtain ⟨hlatest, hinstalled, hactive⟩ := h
  obtain ⟨hlatest', hinstalled', hactive'⟩ := h'
  refine ⟨by omega, by omega, ?_⟩
  rcases hactive' with ⟨hsame', hbare'⟩ | hnew'
  · rcases hactive with ⟨hsame, hbare⟩ | hnew
    · exact .inl ⟨hsame'.trans hsame, hbare'.trans hbare⟩
    · exact .inr (by omega)
  · exact .inr (by omega)

theorem Alike.advances (h : r.Alike r') : r.Advances r' :=
  ⟨Nat.le_of_eq h.latest.symm, Nat.le_of_eq h.installed.symm, .inl ⟨h.installed, h.active⟩⟩

/-- A build only ever replaces what was asked for before it. -/
theorem advances_of_installed {command : DrawCommand}
    (h : r'.slot = { r.slot with active := some command, installed := r.slot.latest })
    (hordered : r.Ordered) : r.Advances r' := by
  have hlatest : r'.slot.latest = r.slot.latest := by rw [h]
  have hinstalled : r'.slot.installed = r.slot.latest := by rw [h]
  have hbehind := hordered.installed
  exact ⟨by omega, by omega, .inr (by omega)⟩

theorem BuildsPolled.advances (h : r.BuildsPolled r') (hordered : r.Ordered) : r.Advances r' := by
  rcases h.slot hordered with ⟨hslot, -⟩ | ⟨p, command, -, -, -, hslot⟩
  · refine ⟨?_, ?_, .inl ?_⟩ <;> simp only [hslot, Nat.le_refl, and_self]
  · exact advances_of_installed hslot hordered

/-- Taking a ticket changes nothing that is drawn. -/
theorem advances_enlist {x : Renderer} (queue : List Queued) (h : x.slot = r.slot) :
    r.Advances (x.enlist queue) := by
  refine ⟨?_, ?_, .inl ?_⟩ <;> simp only [enlist, CommandSlot.begin, h, and_self, Nat.le_refl]
  exact Nat.le_succ _

end Renderer

namespace Operation

/-- An operation that leaves the clock alone. The effects may come to wait more
often or less, but they go on doing what those of a registry do. -/
def Plain (registry : Registry) : Operation → Prop
  | changeClock _ => False
  | changeEffects registry' => registry'.SameButWaits registry
  | _ => True

variable {op : Operation} {ops : List Operation} {r r' x : Renderer} {queue : List Queued}
variable {registry : Registry}

theorem Plain.faultless (h : op.Plain registry) (hfaultless : registry.Faultless) :
    op.Faultless := by
  cases op with
  | changeEffects registry' => exact Registry.SameButWaits.faultless h hfaultless
  | _ => trivial

/-! ## Beginning a build -/

/-- A change samples the grid and sets the clock before its build begins. -/
theorem ready_of_begun (h : r.Ready registry) (hbegun : op.begun? r = some (x, queue)) :
    ParticleGrid.sample x.picture x.timeline = .ok x.grid ∧
      x.clock.period = Clock.heldPeriod x.timeline.duration := by
  cases begun_of_eq_some hbegun with
  | timeline hqueue hgrid => exact ⟨hgrid, rfl⟩
  | picture hqueue hgrid => exact ⟨hgrid, h.period⟩
  | rebuild hqueue => exact ⟨h.grid, h.period⟩

/-- **A build that begins is a build of the timeline then on show**, and all
builds before it become stale. -/
theorem enlist_consistent (h : r.Ready registry) (hbegun : op.begun? r = some (x, queue)) :
    (x.enlist queue).Consistent registry := by
  obtain ⟨hqueue, hx⟩ := queue_of_begun hbegun
  obtain ⟨hgrid, hperiod⟩ := ready_of_begun h hbegun
  have hregistry : x.registry = r.registry := by rw [hx]
  refine { sound := h.sound.enlist hbegun, effects := ?_, ordered := ?_, grid := hgrid,
           period := hperiod, current := ?_, shows := nofun }
  · exact hregistry ▸ h.effects
  · have hready : x.Ordered := by
      rw [hx]
      exact ⟨h.ordered.retired, h.ordered.pending, h.ordered.installed, h.ordered.idle⟩
    exact hready.enlist queue
  · intro p hp
    simp only [Renderer.enlist, Option.toList_some, List.mem_singleton] at hp
    subst hp
    exact ⟨r.registry, x.moment, queue, h.effects, hqueue, .here⟩

/-! ## One operation -/

/-- **Every plain operation keeps a renderer consistent.** -/
theorem Performed.consistent (h : Performed op r r') (hop : op.Plain registry)
    (hr : r.Consistent registry) (hfaultless : registry.Faultless)
    (htimeless : registry.Timeless) : r'.Consistent registry := by
  have hkept := h.sound hr.sound (hop.faultless hfaultless)
  cases h with
  | refused hstarts h => exact hr
  | built hbegun hpolled =>
    exact hpolled.consistent (enlist_consistent hr.toReady hbegun) hfaultless htimeless
  | resized width height r => exact hr.alike (r.alike_resizeBuffers width height)
  | @framed now r r' hpolled =>
    exact (hpolled.consistent (hr.alike (r.alike_ticked now)) hfaultless htimeless).alike
      r'.alike_shown
  | idle h => exact hr
  | @finished r r' p left fit h hsettled =>
    have hsound := hr.sound.builds p (List.mem_append_right _ (by simp [h]))
    obtain ⟨command, hfinished, rfl, hslot⟩ := hsettled.slot_of_pending h hr.ordered hsound
    have hsame : r.SameSubject { r' with pending := none } := by
      obtain ⟨heffects, htimeline, hpicture, hgrid, hperiod⟩ := hsettled.same
      exact ⟨heffects, htimeline, hpicture, hgrid, hperiod⟩
    exact ⟨hr.toReady.same hsame hkept (hsettled.ordered h hr.ordered hsound), by simp,
      fun _ => hr.shows_of_finished hfaultless htimeless h hfinished hsame (by simp only [hslot])⟩
  | reported error r => exact hr.alike (r.alike_reported error)
  | clockChanged change r => exact hop.elim
  | effectsChanged registry' r => exact hr.alike (hr.alike_effects hop)

/-- **No plain operation goes back** to what was asked for before. -/
theorem Performed.advances (h : Performed op r r') (hop : op.Plain registry)
    (hr : r.Consistent registry) : r.Advances r' := by
  cases h with
  | refused hstarts h => exact .refl r
  | @built op r x r' queue hbegun hpolled =>
    have hslot : x.slot = r.slot := by rw [(queue_of_begun hbegun).2]
    -- Between the ticket and the poll nothing is drawn that was not drawn before.
    have hbegan := enlist_consistent hr.toReady hbegun
    exact (Renderer.advances_enlist queue hslot).trans (hpolled.advances hbegan.ordered)
  | resized width height r => exact (r.alike_resizeBuffers width height).advances
  | @framed now r r' hpolled =>
    have hticked := r.alike_ticked now
    have hordered := (hr.alike hticked).ordered
    exact (hticked.advances.trans (hpolled.advances hordered)).trans r'.alike_shown.advances
  | idle h => exact .refl r
  | @finished r r' p left fit h hsettled =>
    have hsound := hr.sound.builds p (List.mem_append_right _ (by simp [h]))
    obtain ⟨command, -, -, hslot⟩ := hsettled.slot_of_pending h hr.ordered hsound
    exact Renderer.advances_of_installed hslot hr.ordered
  | reported error r => exact (r.alike_reported error).advances
  | clockChanged change r => exact hop.elim
  | effectsChanged registry' r => exact (hr.alike_effects hop).advances

/-! ## Histories -/

/-- **A plain history keeps a renderer consistent**, and never goes back. -/
theorem run_consistent (hr : r.Consistent registry) (hfaultless : registry.Faultless)
    (htimeless : registry.Timeless) (hplain : ∀ op ∈ ops, op.Plain registry)
    (hrun : run ops r = .ok r') : r'.Consistent registry ∧ r.Advances r' := by
  induction ops generalizing r with
  | nil =>
    obtain rfl := Except.ok.inj hrun
    exact ⟨hr, .refl r⟩
  | cons op ops ih =>
    have hop := hplain op List.mem_cons_self
    rcases perform_of_sound op hr.sound with ⟨r₁, hperform, hperformed⟩ | ⟨crash, hperform, -⟩
    · obtain ⟨hconsistent, hadvances⟩ := ih (hperformed.consistent hop hr hfaultless htimeless)
        (fun op' hop' => hplain op' (List.mem_cons_of_mem _ hop'))
        (by simpa only [run, hperform] using hrun)
      exact ⟨hconsistent, (hperformed.advances hop hr).trans hadvances⟩
    · simp [run, hperform] at hrun

end Operation

namespace Renderer

open Operation (run)

variable {device : Device} {registry : Registry} {timeline : TimelineConfig} {r r' : Renderer}

/-- A created renderer is consistent. -/
theorem consistent_of_create (hcreate : create device registry timeline = .ok (.ok r))
    (hfaultless : registry.Faultless) (htimeless : registry.Timeless) : r.Consistent registry := by
  obtain ⟨p, queue, hprepare, hbegun, hperform⟩ := create_eq_ok hcreate
  obtain ⟨-, hgrid, hp⟩ := prepare_eq_ok hprepare
  have hready : p.Ready registry := by
    rw [hp]
    exact ⟨⟨hfaultless, by simp [builds]⟩, .refl registry,
      ⟨by simp, by simp, Nat.le_refl _, fun _ => rfl⟩, hgrid, rfl⟩
  have hbegan := Operation.enlist_consistent hready hbegun
  obtain ⟨r₁, fit, hpoll, hpolled⟩ := pollBuilds_of_sound _ hbegan.sound.builds
  rw [Operation.perform_of_begun hbegun, startBuild_eq, hpoll] at hperform
  obtain rfl : r₁ = r := Except.ok.inj hperform
  exact hpolled.consistent hbegan hfaultless htimeless

/-- **What is shown is what was asked for.** A renderer is created with effects
that do not fault, and whose contribution does not depend on the time; a history
of plain operations follows, and the effects may wait in it as they like, in
every build otherwise. Then the build under way has the latest generation, and
superseded ones have earlier ones; along the history the generation on show never
decreases, and a build comes to be shown only as long as none is asked for
after it; the grid is that of the picture and the timeline on show, and the
clock has its length; and when no build is under way, what is drawn is what
an uninterrupted build of the timeline draws, however often its effects wait. -/
theorem rebuild_consistent (hcreate : create device registry timeline = .ok (.ok r))
    (hfaultless : registry.Faultless) (htimeless : registry.Timeless) {ops : List Operation}
    (hplain : ∀ op ∈ ops, op.Plain registry) (hrun : run ops r = .ok r') :
    (∀ p ∈ r'.pending.toList, p.ticket.generation = r'.slot.latest) ∧
      (∀ p ∈ r'.retired, p.ticket.generation < r'.slot.latest) ∧
      (∀ earlier later r₁, ops = earlier ++ later → run earlier r = .ok r₁ → r₁.Advances r') ∧
      ParticleGrid.sample r'.picture r'.timeline = .ok r'.grid ∧
      Scalar.same r'.clock.period r'.timeline.duration = true ∧
      (r'.pending = none → r'.Shows registry) := by
  have hcreated := consistent_of_create hcreate hfaultless htimeless
  have hr' := (Operation.run_consistent hcreated hfaultless htimeless hplain hrun).1
  refine ⟨fun p hp => (hr'.ordered.pending p hp).1, hr'.ordered.retired, ?_, hr'.grid, ?_,
    hr'.shows⟩
  · intro earlier later r₁ hsplit hearlier
    have hmiddle := Operation.run_consistent hcreated hfaultless htimeless
      (fun op hop => hplain op (hsplit ▸ List.mem_append_left _ hop)) hearlier
    have hlater : run later r₁ = .ok r' := by
      simpa only [hsplit, Operation.run_append, hearlier] using hrun
    exact (Operation.run_consistent hmiddle.1 hfaultless htimeless
      (fun op hop => hplain op (hsplit ▸ List.mem_append_right _ hop)) hlater).2
  · rw [hr'.period]
    exact Clock.same_heldPeriod r'.timeline.zero_le_duration

end Renderer

/-! ## Effects that wait otherwise -/

/-- A registry with an effect that puts down the hooks of the waiting one, and
waits for twice as long. -/
def Registry.hesitant : Registry where
  effects := [{
    id := "Waiting"
    displayName := "Waiting"
    fields := []
    register := fun _ =>
      { moves := [.act (.onTeardown "early"), .wait, .wait, .act (.onTeardown "late")] } }]

theorem Registry.hesitant_same : Registry.hesitant.SameButWaits .waiting :=
  .cons ⟨rfl, fun _ => ⟨rfl, rfl⟩⟩ .nil

theorem Registry.timeless_waiting : Registry.waiting.Timeless := by
  intro e he q moment
  obtain rfl := List.mem_singleton.1 he
  exact .refl _

namespace Renderer

open Operation (run)

/-- The second build waits longer than the first one, which it supersedes, and
ends in the second frame that follows. -/
theorem rebuild_consistent_waiting :
    ∃ r r', create {} .waiting .waiting = .ok (.ok r) ∧
      run [.changeEffects .hesitant, .rebuild, .frame 0, .frame 1] r = .ok r' ∧
      r'.slot.installed = 2 ∧ r'.Shows .waiting := by
  have hcomputed : ∃ r r', create {} .waiting .waiting = .ok (.ok r) ∧
      run [.changeEffects .hesitant, .rebuild, .frame 0, .frame 1] r = .ok r' ∧
      (r'.slot.installed == 2 && r'.pending.isNone) = true :=
    exists_of_computed (by decide +kernel)
  obtain ⟨r, r', hcreate, hrun, hended⟩ := hcomputed
  obtain ⟨hinstalled, hnone⟩ := Bool.and_eq_true_iff.1 hended
  have hplain : ∀ op ∈ [Operation.changeEffects .hesitant, .rebuild, .frame 0, .frame 1],
      op.Plain .waiting := by
    simp [Operation.Plain, Registry.hesitant_same]
  obtain ⟨-, -, -, -, -, hshows⟩ := rebuild_consistent hcreate Registry.faultless_waiting
    Registry.timeless_waiting hplain hrun
  exact ⟨r, r', hcreate, hrun, beq_iff_eq.1 hinstalled, hshows (Option.isNone_iff_eq_none.1 hnone)⟩

end Renderer

end ParticleTimeline
