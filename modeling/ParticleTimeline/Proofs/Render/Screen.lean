import ParticleTimeline.Proofs.Render.Operation
import ParticleTimeline.Proofs.Render.Slots
/-!
# What operations do to the framebuffers

A renderer keeps three framebuffers: the history, the spare slot, and the one
that particles are drawn into. Builds come and go without touching them, or
anything else that is on the screen (`Renderer.pollBuilds_screen`). So three
operations are left to speak of: a timeline may switch the feedback on or
off, the buffers may get a new size, and a frame is presented
(`Operation.perform_leaves`). An active frame lets the three framebuffers
change places in a circle (`Renderer.present_active`).

What has happened to the screen is logged (`Operation.log`): the rest of a
history does not matter to what is seen.
-/

namespace ParticleTimeline

/-! ## The screen -/

/-- What of a renderer has to do with framebuffers. -/
structure Screen where
  timeline : TimelineConfig
  device : Device
  feedback : Feedback
  particles : Framebuffer
  width : UInt32
  height : UInt32
  frames : Nat

namespace Renderer

def screen (r : Renderer) : Screen where
  timeline := r.timeline
  device := r.device
  feedback := r.feedback
  particles := r.particles
  width := r.width
  height := r.height
  frames := r.frames

/-- Whether earlier frames are to show. -/
def accumulates (r : Renderer) : Bool := r.timeline.accumulation ≠ .none

variable {r r' : Renderer} {fit : Bool}

/-! ## Builds -/

/-- Whatever a build does, it stays off the screen. -/
theorem settle_frame {ticket : BuildTicket} {polled : Polled} {left : Option PendingBuild}
    (h : r.settle ticket polled = .ok (r', left, fit)) :
    r' = { r with slot := r'.slot, reports := r'.reports, journal := r'.journal } := by
  unfold settle at h
  simp only at h
  cases houtcome : polled.outcome with
  | crashed fault => simp [houtcome] at h
  | suspended build =>
    simp only [houtcome, Except.ok.injEq, Prod.mk.injEq] at h
    rw [← h.1]
    rfl
  | finished command =>
    simp only [houtcome, Except.ok.injEq, Prod.mk.injEq] at h
    rw [← h.1]
    rfl

theorem settle_error {ticket : BuildTicket} {polled : Polled} {crash : Crash}
    (h : r.settle ticket polled = .error crash) : ∃ fault, polled.outcome = .crashed fault := by
  unfold settle at h
  simp only at h
  cases houtcome : polled.outcome with
  | crashed fault => exact ⟨fault, rfl⟩
  | suspended build => simp [houtcome] at h
  | finished command => simp [houtcome] at h

theorem pollRetired_frame {ps : List PendingBuild} (h : pollRetired ps r = .ok r') :
    r' = { r with slot := r'.slot, retired := r'.retired, reports := r'.reports,
                  journal := r'.journal } := by
  induction ps generalizing r with
  | nil =>
    obtain rfl := Except.ok.inj h
    rfl
  | cons p ps ih =>
    simp only [pollRetired, bind, Except.bind] at h
    cases hsettle : r.settle p.ticket p.build.poll with
    | error crash => simp [hsettle] at h
    | ok settled =>
      obtain ⟨r₁, left, fit⟩ := settled
      simp only [hsettle] at h
      rw [ih h, settle_frame hsettle]

theorem pollRetired_error {ps : List PendingBuild} {crash : Crash}
    (h : pollRetired ps r = .error crash) :
    ∃ p ∈ ps, ∃ fault, p.build.poll.outcome = .crashed fault := by
  induction ps generalizing r with
  | nil => simp [pollRetired] at h
  | cons p ps ih =>
    simp only [pollRetired, bind, Except.bind] at h
    cases hsettle : r.settle p.ticket p.build.poll with
    | error crash =>
      obtain ⟨fault, hfault⟩ := settle_error hsettle
      exact ⟨p, List.mem_cons_self, fault, hfault⟩
    | ok settled =>
      obtain ⟨r₁, left, fit⟩ := settled
      simp only [hsettle] at h
      obtain ⟨q, hq, hfault⟩ := ih h
      exact ⟨q, List.mem_cons_of_mem _ hq, hfault⟩

/-- **Polling builds stays off the screen.** -/
theorem pollBuilds_screen (h : r.pollBuilds = .ok (r', fit)) : r'.screen = r.screen := by
  simp only [pollBuilds, bind, Except.bind] at h
  cases hretired : pollRetired r.retired { r with retired := [] } with
  | error crash => simp [hretired] at h
  | ok r₁ =>
    have hkept : r₁.screen = r.screen := by
      rw [pollRetired_frame hretired]
      rfl
    simp only [hretired] at h
    cases hpending : r₁.pending with
    | none =>
      simp only [hpending, pure, Except.pure, Except.ok.injEq, Prod.mk.injEq] at h
      rw [← h.1, hkept]
    | some p =>
      simp only [hpending] at h
      cases hsettle : r₁.settle p.ticket p.build.poll with
      | error crash => simp [hsettle] at h
      | ok settled =>
        obtain ⟨r₂, left, fit⟩ := settled
        simp only [hsettle, pure, Except.pure, Except.ok.injEq, Prod.mk.injEq] at h
        rw [← h.1, ← hkept, settle_frame hsettle]
        rfl

/-- Polling only ever crashes with one of the builds. -/
theorem pollBuilds_error {crash : Crash} (h : r.pollBuilds = .error crash) :
    ∃ p ∈ r.builds, ∃ fault, p.build.poll.outcome = .crashed fault := by
  simp only [pollBuilds, bind, Except.bind] at h
  cases hretired : pollRetired r.retired { r with retired := [] } with
  | error crash =>
    obtain ⟨p, hp, hfault⟩ := pollRetired_error hretired
    exact ⟨p, List.mem_append_left _ hp, hfault⟩
  | ok r₁ =>
    have hkept : r₁.pending = r.pending := by rw [pollRetired_frame hretired]
    simp only [hretired] at h
    cases hpending : r₁.pending with
    | none => simp [hpending, pure, Except.pure] at h
    | some p =>
      simp only [hpending] at h
      cases hsettle : r₁.settle p.ticket p.build.poll with
      | error crash =>
        obtain ⟨fault, hfault⟩ := settle_error hsettle
        refine ⟨p, List.mem_append_right _ ?_, fault, hfault⟩
        simp [← hkept, hpending]
      | ok settled => simp [hsettle, pure, Except.pure] at h

theorem startBuild_screen {queue : List Queued} (h : r.startBuild queue = .ok r') :
    r'.screen = r.screen := by
  rw [startBuild_eq] at h
  cases hpoll : (r.enlist queue).pollBuilds with
  | error crash => simp [hpoll, Except.map] at h
  | ok polled =>
    obtain ⟨r₁, fit⟩ := polled
    simp only [hpoll, Except.map, Except.ok.injEq] at h
    rw [← h, pollBuilds_screen hpoll]
    rfl

/-! ## A frame -/

/-- What drawing the particles asks of the device. -/
def strokes (r : Renderer) (moment : FrameContext) : List DeviceCall :=
  .clear r.particles.id
      ⟨r.timeline.background.x, r.timeline.background.y, r.timeline.background.z,
        if r.feedback.isActive then 0 else 1⟩
    :: r.slot.active.toList.map fun c => .draw r.particles.id c.count (c.uniformValues moment)

/-- What a frame without feedback asks of the device. -/
def idleCalls (r : Renderer) (moment : FrameContext) : List DeviceCall :=
  r.strokes moment ++ [.present r.particles.id]

/-- What a frame with feedback asks of the device, with a step to fade the
history. -/
def activeCalls (r : Renderer) (step : FullscreenPass) (moment : FrameContext) :
    List DeviceCall :=
  .pass step [r.feedback.history.id] r.feedback.spare.id
    :: r.strokes moment
      ++ [.pass .apply [r.particles.id] r.feedback.spare.id,
        .pass .composite [r.particles.id, r.feedback.spare.id] r.feedback.history.id,
        .present r.feedback.history.id]

theorem drawParticles_eq (r : Renderer) (moment : FrameContext) :
    r.drawParticles moment =
        ({ r with device := (r.drawParticles moment).1.device }, r.slot.active.isSome) ∧
      (r.drawParticles moment).1.device.calls.toList
        = r.device.calls.toList ++ r.strokes moment := by
  unfold drawParticles
  cases hactive : r.slot.active with
  | none => simp [strokes, hactive, Device.clear, Device.record]
  | some c => simp [strokes, hactive, Device.clear, Device.draw, Device.record]

/-- Without feedback the particles are presented as they are drawn. -/
theorem present_idle (hmode : r.feedback.mode = .none) (moment : FrameContext) :
    (r.present moment).1.screen =
        { r.screen with device := (r.present moment).1.device, frames := r.frames + 1 } ∧
      (r.present moment).1.device.calls.toList = r.device.calls.toList ++ r.idleCalls moment ∧
      (r.present moment).2 = r.slot.active.isSome := by
  obtain ⟨hdrawn, hcalls⟩ := r.drawParticles_eq moment
  have hpre : r.feedback.prePass r.device = (r.feedback, r.device) := by
    simp only [Feedback.prePass, FullscreenPass.step?, hmode]
  have hpresent : r.present moment =
      ({ r with
          device := (r.drawParticles moment).1.device.present r.particles
          frames := r.frames + 1 }, r.slot.active.isSome) := by
    simp only [present, hpre]
    rw [hdrawn]
    simp [Feedback.postPass, Feedback.isActive, hmode]
  refine ⟨by rw [hpresent]; rfl, ?_, by rw [hpresent]⟩
  rw [hpresent]
  simp [Device.present, Device.record, hcalls, idleCalls]

/-- The renderer when a step has faded the history into the spare slot. -/
def faded (r : Renderer) (step : FullscreenPass) : Renderer :=
  { r with
    feedback := r.feedback.turned
    device := r.device.run step [r.feedback.history] r.feedback.spare }

theorem faded_calls (r : Renderer) (step : FullscreenPass) :
    (r.faded step).device.calls.toList
      = r.device.calls.toList ++ [.pass step [r.feedback.history.id] r.feedback.spare.id] := by
  simp [faded, Device.run, Device.record]

/-- **An active frame.** The spare slot becomes the history, the particles
become the spare slot, and what was the history is presented. -/
theorem present_active (hmode : r.feedback.mode ≠ .none) (moment : FrameContext) :
    (r.present moment).1.screen = { r.screen with
        device := (r.present moment).1.device
        feedback := r.feedback.turned.withSpare r.particles
        particles := r.feedback.history
        frames := r.frames + 1 } ∧
      (∃ step : FullscreenPass, step.blend = none ∧
        (r.present moment).1.device.calls.toList
          = r.device.calls.toList ++ r.activeCalls step moment) ∧
      (r.present moment).2 = r.slot.active.isSome := by
  obtain ⟨step, hstep, hblend⟩ :=
    FullscreenPass.exists_step hmode r.feedback.width r.feedback.height
  obtain ⟨hdrawn, hcalls⟩ := (r.faded step).drawParticles_eq moment
  have hpre : r.feedback.prePass r.device = ((r.faded step).feedback, (r.faded step).device) := by
    simp only [Feedback.prePass, hstep]
    rfl
  have hactive : (r.faded step).feedback.isActive = true := Feedback.isActive_iff.2 hmode
  have hpresent : r.present moment =
      ({ r with
          feedback := (r.faded step).feedback.withSpare r.particles
          particles := (r.faded step).feedback.spare
          device := ((((r.faded step).drawParticles moment).1.device.run .apply [r.particles]
            (r.faded step).feedback.history).run .composite
              [r.particles, (r.faded step).feedback.history]
              (r.faded step).feedback.spare).present (r.faded step).feedback.spare
          frames := r.frames + 1 }, r.slot.active.isSome) := by
    simp only [present, hpre]
    rw [show { r with feedback := (r.faded step).feedback, device := (r.faded step).device }
      = r.faded step from rfl, hdrawn]
    simp only [Feedback.postPass, hactive, if_true]
    rfl
  -- The two slots have been exchanged before anything is drawn.
  have hhistory : (r.faded step).feedback.history = r.feedback.spare := r.feedback.history_turned
  have hspare : (r.faded step).feedback.spare = r.feedback.history := r.feedback.spare_turned
  have hstrokes : (r.faded step).strokes moment = r.strokes moment := rfl
  rw [hpresent, hhistory, hspare]
  refine ⟨rfl, ⟨step, hblend, ?_⟩, rfl⟩
  simp [Device.present, Device.run, Device.record, hcalls, faded_calls, hstrokes, activeCalls]

/-- A frame that goes through presents what builds have left on the screen. -/
theorem frame_eq_ok {now : Nat} {report : FrameReport} (h : r.frame now = .ok (r', report)) :
    ∃ (x : Renderer) (moment : FrameContext), x.screen = r.screen ∧ r' = (x.present moment).1 ∧
      report.drew = (x.present moment).2 := by
  unfold frame at h
  rcases htick : r.clock.tick now with ⟨clock, deliveries, _ | fault⟩
  · simp only [htick, pure, Except.pure, bind, Except.bind] at h
    cases hpoll : ({ r with reports := r.reports.drain.1, clock } : Renderer).pollBuilds with
    | error crash => simp [hpoll] at h
    | ok polled =>
      obtain ⟨x, installed⟩ := polled
      simp only [hpoll, Except.ok.injEq, Prod.mk.injEq] at h
      have hscreen := pollBuilds_screen hpoll
      exact ⟨{ x.note (x.slot.runFrameHooks x.moment).2 with
        slot := (x.slot.runFrameHooks x.moment).1 }, x.moment, hscreen, h.1.symm, by rw [← h.2]⟩
  · simp only [htick, bind, Except.bind, throw, throwThe, MonadExceptOf.throw] at h
    simp at h

/-- **When a frame crashes**, the clock has failed to count or a build has
crashed. -/
theorem frame_eq_error {now : Nat} {crash : Crash} (h : r.frame now = .error crash) :
    (r.clock.tick now).2.2 = some .overflow ∨
      ∃ p ∈ r.builds, ∃ fault, p.build.poll.outcome = .crashed fault := by
  unfold frame at h
  rcases htick : r.clock.tick now with ⟨clock, deliveries, _ | fault⟩
  · simp only [htick, pure, Except.pure, bind, Except.bind] at h
    cases hpoll : ({ r with reports := r.reports.drain.1, clock } : Renderer).pollBuilds with
    | error crash =>
      obtain ⟨p, hp, hfault⟩ := pollBuilds_error hpoll
      exact .inr ⟨p, hp, hfault⟩
    | ok polled => simp [hpoll] at h
  · left
    have hfault : (r.clock.tick now).2.2 = some fault := by rw [htick]
    rw [Clock.tick_fault hfault]

end Renderer

/-! ## A new size -/

namespace Renderer

/-- A new size leaves the framebuffers what they were, and draws nothing. -/
theorem resizeBuffers_frame (r : Renderer) (width height : UInt32) :
    (r.resizeBuffers width height).1.feedback.mode = r.feedback.mode ∧
      (r.resizeBuffers width height).1.feedback.history.id = r.feedback.history.id ∧
      (r.resizeBuffers width height).1.feedback.spare.id = r.feedback.spare.id ∧
      (r.resizeBuffers width height).1.particles.id = r.particles.id ∧
      (r.resizeBuffers width height).1.device.calls = r.device.calls := by
  obtain ⟨hmode, hhistory, hspare, hcalls⟩ :=
    r.feedback.resize_frame r.device (max width 1) (max height 1)
  unfold resizeBuffers
  simp only
  split
  · exact ⟨hmode, hhistory, hspare, rfl, hcalls⟩
  · split
    · exact ⟨hmode, hhistory, hspare, rfl, hcalls⟩
    · rename_i hparticles
      obtain ⟨rfl, hlast⟩ := Device.resize_eq_ok hparticles
      exact ⟨hmode, hhistory, hspare, rfl, hlast.trans hcalls⟩

/-! ## Three framebuffers -/

/-- The framebuffers of a renderer are three, and its feedback is that of the
timeline on show. -/
structure Arranged (r : Renderer) : Prop where
  mode : r.feedback.mode = r.timeline.accumulation
  distinct : [r.feedback.history.id, r.feedback.spare.id, r.particles.id].Nodup

variable {r r' : Renderer} {moment : FrameContext}

theorem screen_eq_iff : r'.screen = r.screen ↔
    r'.timeline = r.timeline ∧ r'.device = r.device ∧ r'.feedback = r.feedback ∧
      r'.particles = r.particles ∧ r'.width = r.width ∧ r'.height = r.height ∧
      r'.frames = r.frames := by
  simp only [screen, Screen.mk.injEq]

theorem accumulates_of_screen (h : r'.screen = r.screen) : r'.accumulates = r.accumulates := by
  rw [accumulates, accumulates, (screen_eq_iff.1 h).1]

theorem Arranged.of_screen (h : r.Arranged) (hscreen : r'.screen = r.screen) : r'.Arranged := by
  obtain ⟨htimeline, -, hfeedback, hparticles, -⟩ := screen_eq_iff.1 hscreen
  exact ⟨by rw [hfeedback, htimeline, h.mode], by rw [hfeedback, hparticles]; exact h.distinct⟩

theorem Arranged.isActive (h : r.Arranged) : r.accumulates = r.feedback.isActive := by
  simp only [accumulates, Feedback.isActive, h.mode]

theorem Arranged.present (h : r.Arranged) : (r.present moment).1.Arranged := by
  by_cases hmode : r.feedback.mode = .none
  · obtain ⟨hscreen, -⟩ := present_idle hmode moment
    simp only [screen, Screen.mk.injEq] at hscreen
    obtain ⟨htimeline, -, hfeedback, hparticles, -⟩ := hscreen
    exact ⟨by rw [hfeedback, htimeline, h.mode], by rw [hfeedback, hparticles]; exact h.distinct⟩
  · obtain ⟨hscreen, -⟩ := present_active hmode moment
    simp only [screen, Screen.mk.injEq] at hscreen
    obtain ⟨htimeline, -, hfeedback, hparticles, -⟩ := hscreen
    refine ⟨?_, ?_⟩
    · rw [hfeedback, htimeline, Feedback.withSpare_eq]
      exact h.mode
    · rw [hfeedback, hparticles, Feedback.history_withSpare, Feedback.history_turned,
        Feedback.spare_withSpare]
      -- The framebuffers have moved on by one place.
      exact (List.perm_append_comm : ([r.feedback.history.id] ++ [_, _]).Perm _).nodup h.distinct

/-! ## Another mode -/

/-- The screen when the mode of another timeline is set. -/
def switched (r : Renderer) (timeline : TimelineConfig) : Screen :=
  { r.screen with
    timeline
    feedback := (r.feedback.setMode r.device timeline.accumulation).1
    device := (r.feedback.setMode r.device timeline.accumulation).2 }

/-- The slots are cleared where feedback begins, and only there. -/
theorem since_switched {timeline : TimelineConfig} (hr : r.Arranged)
    (h : r'.screen = r.switched timeline) :
    r'.feedback.history.id = r.feedback.history.id ∧
      r'.device.since r.device =
        if r.accumulates = false ∧ r'.accumulates = true then
          [.clear r.feedback.first.id ⟨0, 0, 0, 0⟩, .clear r.feedback.second.id ⟨0, 0, 0, 0⟩]
        else [] := by
  simp only [screen, switched, Screen.mk.injEq] at h
  obtain ⟨htimeline, hdevice, hfeedback, -⟩ := h
  have hcalls := r.feedback.setMode_calls r.device timeline.accumulation
  rw [← hdevice] at hcalls
  have hbegins : (r.feedback.mode = .none ∧ timeline.accumulation ≠ .none) ↔
      r.accumulates = false ∧ r'.accumulates = true := by
    simp [accumulates, htimeline, hr.mode]
  constructor
  · rw [hfeedback, Feedback.setMode_fst]
    rfl
  · rw [Device.since_eq hcalls]
    simp only [hbegins]

end Renderer

/-! ## Operations -/

namespace Operation

/-- Whether an operation is about the framebuffers. -/
def isSeen : Operation → Bool
  | resize .. | frame _ => true
  | _ => false

/-- What an operation leaves on the screen. -/
inductive Leaves : Operation → Renderer → Renderer → Prop
  | kept {op : Operation} {r r' : Renderer} (hseen : op.isSeen = false)
      (h : r'.screen = r.screen) : Leaves op r r'
  | switched {timeline : TimelineConfig} {r r' : Renderer}
      (h : r'.screen = r.switched timeline) : Leaves (.setTimeline timeline) r r'
  | resized (width height : UInt32) (r : Renderer) :
      Leaves (.resize width height) r (r.resizeBuffers width height).1
  | framed {now : Nat} {r x : Renderer} {moment : FrameContext} {report : FrameReport}
      (h : x.screen = r.screen) (hframe : r.frame now = .ok ((x.present moment).1, report))
      (hdrew : report.drew = (x.present moment).2) : Leaves (.frame now) r (x.present moment).1

variable {op : Operation} {ops : List Operation} {r r' : Renderer}

/-- **What is left on the screen** when an operation goes through. -/
theorem perform_leaves (h : op.perform r = .ok r') : Leaves op r r' := by
  -- What starts a build shows what there is when it begins; refused, it changes nothing.
  have hchange : op.starts = true → Leaves op r r' := by
    intro hstarts
    cases hbegun : op.begun? r with
    | none =>
      rw [perform_of_refused hstarts hbegun] at h
      obtain rfl := Except.ok.inj h
      exact .kept (by cases op <;> first | rfl | cases hstarts) rfl
    | some begun =>
      obtain ⟨x, queue⟩ := begun
      rw [perform_of_begun hbegun] at h
      have hscreen := Renderer.startBuild_screen h
      cases begun_of_eq_some hbegun with
      | timeline hqueue hgrid => exact .switched hscreen
      | picture hqueue hgrid => exact .kept rfl hscreen
      | rebuild hqueue => exact .kept rfl hscreen
  cases op with
  | setTimeline timeline => exact hchange rfl
  | setPicture picture => exact hchange rfl
  | rebuild => exact hchange rfl
  | resize width height =>
    simp only [perform, Renderer.resize] at h
    cases hfault : (r.resizeBuffers width height).2.bind AllocationError.fault? with
    | some fault => simp [hfault, Except.map] at h
    | none =>
      simp only [hfault, Except.map, Except.ok.injEq] at h
      exact h ▸ .resized width height r
  | frame now =>
    cases hframe : r.frame now with
    | error crash => simp [perform, hframe, Except.map] at h
    | ok framed =>
      obtain ⟨r₁, report⟩ := framed
      simp only [perform, hframe, Except.map, Except.ok.injEq] at h
      obtain ⟨x, moment, hscreen, hpresent, hdrew⟩ := Renderer.frame_eq_ok hframe
      rw [← h, hpresent]
      exact .framed hscreen (hpresent ▸ hframe) hdrew
  | finishBuild =>
    simp only [perform, Renderer.finishBuild] at h
    cases hpending : r.pending with
    | none =>
      simp only [hpending, pure, Except.pure, Except.map, Except.ok.injEq] at h
      exact h ▸ .kept rfl rfl
    | some p =>
      cases hsettle : Renderer.settle { r with pending := none } p.ticket p.build.finish with
      | error crash => simp [hpending, hsettle, bind, Except.bind, Except.map] at h
      | ok settled =>
        obtain ⟨r₁, left, fit⟩ := settled
        simp only [hpending, hsettle, bind, Except.bind, pure, Except.pure, Except.map,
          Except.ok.injEq] at h
        rw [← h]
        refine .kept rfl ?_
        rw [Renderer.settle_frame hsettle]
        rfl
  | report error =>
    obtain rfl := Except.ok.inj h
    exact .kept rfl rfl
  | changeClock change =>
    obtain rfl := Except.ok.inj h
    exact .kept rfl rfl
  | changeEffects registry =>
    obtain rfl := Except.ok.inj h
    exact .kept rfl rfl

/-- What a device was asked stays asked. -/
theorem Leaves.keeps_calls (h : Leaves op r r') :
    r.device.calls.toList <+: r'.device.calls.toList := by
  cases h with
  | kept hseen h =>
    have hcalls := (Renderer.screen_eq_iff.1 h).2.1
    exact ⟨[], by rw [List.append_nil, hcalls]⟩
  | @switched timeline r r' h =>
    simp only [Renderer.screen, Renderer.switched, Screen.mk.injEq] at h
    rw [h.2.1, Feedback.setMode_calls]
    exact List.prefix_append _ _
  | resized width height r =>
    have hcalls := (r.resizeBuffers_frame width height).2.2.2.2
    exact ⟨[], by rw [List.append_nil, hcalls]⟩
  | @framed now r x moment report h hframe hdrew =>
    rw [← (Renderer.screen_eq_iff.1 h).2.1]
    by_cases hmode : x.feedback.mode = .none
    · rw [(Renderer.present_idle hmode moment).2.1]
      exact List.prefix_append _ _
    · obtain ⟨-, ⟨step, -, hcalls⟩, -⟩ := Renderer.present_active hmode moment
      rw [hcalls]
      exact List.prefix_append _ _

theorem run_keeps_calls (hrun : run ops r = .ok r') :
    r.device.calls.toList <+: r'.device.calls.toList := by
  induction ops generalizing r with
  | nil =>
    obtain rfl := Except.ok.inj hrun
    exact List.prefix_refl _
  | cons op ops ih =>
    simp only [run] at hrun
    cases hperform : op.perform r with
    | error crash => simp [hperform] at hrun
    | ok r₁ =>
      simp only [hperform] at hrun
      exact (perform_leaves hperform).keeps_calls.trans (ih hrun)

/-! ## What has happened -/

end Operation

/-- Something that has happened to the screen. -/
inductive Happening where
  /-- Earlier frames began to show. -/
  | activated
  /-- A frame was presented: whether earlier ones were to show in it, and
  whether there was a command to draw. -/
  | framed (active drew : Bool)
  /-- The history got a new size. -/
  | reallocated
deriving DecidableEq, Repr

namespace Operation

/-- What happens to the screen in an operation. -/
def happened : Operation → Renderer → List Happening
  | frame now, r =>
    match r.frame now with
    | .ok (_, seen) => [.framed r.accumulates seen.drew]
    | .error _ => []
  | resize width height, r =>
    if (r.resizeBuffers width height).1.feedback.history.size = r.feedback.history.size then []
    else [.reallocated]
  | op, r =>
    match op.perform r with
    | .ok r' => if r.accumulates = false ∧ r'.accumulates = true then [.activated] else []
    | .error _ => []

/-- What happens to the screen in some operations, oldest first. -/
def log : List Operation → Renderer → List Happening
  | [], _ => []
  | op :: ops, r =>
    match op.perform r with
    | .ok r' => op.happened r ++ log ops r'
    | .error _ => []

variable {op : Operation} {ops : List Operation} {r r' : Renderer}

theorem happened_of_not_isSeen (hseen : op.isSeen = false) (h : op.perform r = .ok r') :
    op.happened r = if r.accumulates = false ∧ r'.accumulates = true then [.activated] else [] := by
  cases op with
  | resize width height => simp [isSeen] at hseen
  | frame now => simp [isSeen] at hseen
  | _ => simp only [happened, h]

/-- Nothing happens that a screen does not show. -/
theorem happened_of_kept (hseen : op.isSeen = false) (h : op.perform r = .ok r')
    (hscreen : r'.screen = r.screen) : op.happened r = [] := by
  rw [happened_of_not_isSeen hseen h, Renderer.accumulates_of_screen hscreen]
  simp

/-! ## The arrangement along a history -/

theorem Leaves.arranged (h : Leaves op r r') (hr : r.Arranged) : r'.Arranged := by
  cases h with
  | kept hseen h => exact hr.of_screen h
  | @switched timeline r r' h =>
    simp only [Renderer.screen, Renderer.switched, Screen.mk.injEq, Feedback.setMode_fst] at h
    obtain ⟨htimeline, -, hfeedback, hparticles, -⟩ := h
    exact ⟨by rw [hfeedback, htimeline], by rw [hfeedback, hparticles]; exact hr.distinct⟩
  | resized width height r =>
    obtain ⟨hmode, hhistory, hspare, hparticles, -⟩ := r.resizeBuffers_frame width height
    have htimeline : (r.resizeBuffers width height).1.timeline = r.timeline := by
      rw [r.resizeBuffers_eq]
    refine ⟨by rw [hmode, htimeline, hr.mode], ?_⟩
    rw [hhistory, hspare, hparticles]
    exact hr.distinct
  | framed h hframe hdrew => exact (hr.of_screen h).present

theorem run_arranged (hr : r.Arranged) (hrun : run ops r = .ok r') : r'.Arranged := by
  induction ops generalizing r with
  | nil =>
    obtain rfl := Except.ok.inj hrun
    exact hr
  | cons op ops ih =>
    simp only [run] at hrun
    cases hperform : op.perform r with
    | error crash => simp [hperform] at hrun
    | ok r₁ =>
      simp only [hperform] at hrun
      exact ih ((perform_leaves hperform).arranged hr) hrun

end Operation

/-! ## The beginning -/

namespace Renderer

variable {device : Device} {registry : Registry} {timeline : TimelineConfig} {r : Renderer}

/-- What is on the screen of a renderer that has only been created. -/
structure Fresh (r : Renderer) (device : Device) (timeline : TimelineConfig) : Prop where
  screen : r.screen = {
    timeline
    device := r.device
    feedback := { mode := timeline.accumulation,
                  first := ⟨device.nextId, "accumulation-a", 1, 1⟩,
                  second := ⟨device.nextId + 1, "accumulation-b", 1, 1⟩ }
    particles := ⟨device.nextId + 2, "particles", 1, 1⟩
    width := 1
    height := 1
    frames := 0 }
  calls : r.device.calls = device.calls

theorem fresh_of_prepare (h : prepare device registry timeline = .ok r) :
    r.Fresh device timeline := by
  unfold prepare at h
  cases hvalid : timeline.validate with
  | error e => simp [hvalid, Except.mapError, bind, Except.bind] at h
  | ok u =>
    cases hgrid : (ParticleGrid.gradient timeline.gridWidth timeline.gridHeight :
        Except ConfigError (ParticleGrid Float32)) with
    | error e => simp [hvalid, hgrid, Except.mapError, bind, Except.bind] at h
    | ok grid =>
      cases hfeedback : Feedback.create device timeline.accumulation with
      | error e => simp [hvalid, hgrid, hfeedback, Except.mapError, bind, Except.bind] at h
      | ok made =>
        obtain ⟨d₁, feedback⟩ := made
        cases hparticles : d₁.create "particles" 1 1 with
        | error e =>
          simp [hvalid, hgrid, hfeedback, hparticles, Except.mapError, bind, Except.bind] at h
        | ok last =>
          obtain ⟨d₂, particles⟩ := last
          simp only [hvalid, hgrid, hfeedback, hparticles, Except.mapError, bind, Except.bind, pure,
            Except.pure, Except.ok.injEq] at h
          obtain ⟨rfl, hnext, hcalls₁⟩ := Feedback.create_eq_ok hfeedback
          obtain ⟨rfl, -, hcalls₂⟩ := Device.create_eq_ok hparticles
          subst h
          exact ⟨by rw [hnext]; rfl, hcalls₂.trans hcalls₁⟩

theorem fresh_of_create (h : create device registry timeline = .ok (.ok r)) :
    r.Fresh device timeline := by
  obtain ⟨p, queue, hprepare, hbegun, hperform⟩ := create_eq_ok h
  rw [Operation.perform_of_begun hbegun] at hperform
  have hscreen := startBuild_screen hperform
  have hdevice := (screen_eq_iff.1 hscreen).2.1
  have hp := fresh_of_prepare hprepare
  exact ⟨by rw [hscreen, hp.screen, hdevice], by rw [hdevice, hp.calls]⟩

theorem Fresh.arranged (h : r.Fresh device timeline) : r.Arranged := by
  have hscreen := h.screen
  simp only [Renderer.screen, Screen.mk.injEq] at hscreen
  obtain ⟨htimeline, -, hfeedback, hparticles, -⟩ := hscreen
  refine ⟨by rw [hfeedback, htimeline], ?_⟩
  rw [hfeedback, hparticles]
  simp [Feedback.history, Feedback.spare]

end Renderer

/-! ## A timeline without effects -/

/-- A timeline of a single particle, which nothing happens to. -/
def TimelineConfig.still (accumulation : AccumulationMode) : TimelineConfig where
  gridWidth := 1
  gridHeight := 1
  accumulation

end ParticleTimeline
