import ParticleTimeline.Proofs.Clock
import ParticleTimeline.Proofs.Draw.Build
import ParticleTimeline.Render.Renderer
/-!
# Polling the builds of a renderer

A renderer polls its builds one by one, and takes in what each has come to:
the build waits, or its command is installed, or the command comes too late
and is torn down (`Renderer.Settled`). Sound builds are polled without a
fault (`Renderer.pollBuilds_of_sound`); the builds that are left then come
from those there were (`Renderer.BuildsPolled.later`), and nothing but the
slot, the builds, the reports and the journal is touched. Starting a build
enlists it and polls (`Renderer.startBuild_eq`); a frame polls and then shows
the command (`Renderer.frame_eq`).
-/

namespace ParticleTimeline

namespace Renderer

/-! ## Taking in polls -/

/-- The builds that are polled, superseded ones first. -/
def builds (r : Renderer) : List PendingBuild := r.retired ++ r.pending.toList

/-- The renderer when it has heard of the events and reports of a poll. -/
def heard (r : Renderer) (polled : Polled) : Renderer :=
  { r.note polled.events with reports := r.reports.reportAll polled.reports }

/-- What a build does to a renderer when it goes on: it waits, or its command
is installed, or it comes too late and is torn down. -/
inductive Settled (patient : Bool) (r : Renderer) (p : PendingBuild) :
    Renderer → Option PendingBuild → Bool → Prop
  | waits {build : Build} (h : (p.build.advance patient).outcome = .suspended build) :
      Settled patient r p (r.heard (p.build.advance patient)) (some { p with build }) false
  | installed {command : DrawCommand} (h : (p.build.advance patient).outcome = .finished command)
      (hcurrent : p.ticket.generation = r.slot.latest) :
      Settled patient r p
        { (r.heard (p.build.advance patient)).note
            (r.slot.active.toList.flatMap DrawCommand.tearDown) with
          slot := { r.slot with active := some command, installed := r.slot.latest } }
        none true
  | late {command : DrawCommand} (h : (p.build.advance patient).outcome = .finished command)
      (hstale : p.ticket.generation ≠ r.slot.latest) :
      Settled patient r p ((r.heard (p.build.advance patient)).note command.tearDown) none false

variable {patient : Bool} {r r' : Renderer} {p : PendingBuild} {left : Option PendingBuild}
variable {fit : Bool}

/-- **A sound build is taken in**, unless it is waited for in vain. -/
theorem settle_of_sound (patient : Bool) (r : Renderer) {p : PendingBuild} (h : p.build.Sound) :
    (∃ r' left fit, r.settle p.ticket (p.build.advance patient) = .ok (r', left, fit) ∧
      Settled patient r p r' left fit) ∨
    (patient = true ∧ (p.build.advance patient).outcome = .crashed .endless ∧
      ∃ journal, r.settle p.ticket (p.build.advance patient) = .error ⟨.endless, journal⟩) := by
  have horderly := h.advance patient
  cases houtcome : (p.build.advance patient).outcome with
  | suspended build =>
    refine .inl ⟨_, _, _, ?_, .waits houtcome⟩
    simp only [settle, houtcome]
    rfl
  | finished command =>
    refine .inl ?_
    -- Only the ticket taken last may install.
    by_cases hcurrent : p.ticket.generation = r.slot.latest
    · refine ⟨_, _, _, ?_, .installed houtcome hcurrent⟩
      simp only [settle, houtcome, CommandSlot.install, CommandSlot.isCurrent, heard, note,
        hcurrent, decide_true, if_true]
    · refine ⟨_, _, _, ?_, .late houtcome hcurrent⟩
      simp only [settle, houtcome, CommandSlot.install, CommandSlot.isCurrent, heard, note,
        hcurrent, decide_false, Bool.false_eq_true, if_false]
  | crashed fault =>
    rw [houtcome] at horderly
    obtain ⟨hpatient, rfl⟩ := horderly
    refine .inr ⟨hpatient, rfl, (r.heard (p.build.advance patient)).journal, ?_⟩
    simp only [settle, houtcome, heard]

/-- A build that is waited for ends. -/
theorem Settled.left_eq_none (h : Settled true r p r' left fit) (hsound : p.build.Sound) :
    left = none := by
  cases h with
  | waits houtcome =>
    have horderly := hsound.advance true
    rw [houtcome] at horderly
    exact absurd horderly.1 (by decide)
  | installed => rfl
  | late => rfl

/-- Only the slot, the reports and the journal are touched. -/
theorem Settled.frame (h : Settled patient r p r' left fit) :
    r' = { r with slot := r'.slot, reports := r'.reports, journal := r'.journal } := by
  cases h <;> rfl

/-- What polling superseded builds does, one after the other; what is left of
them is kept. -/
inductive RetiredPolled : List PendingBuild → Renderer → Renderer → Prop
  | nil (r : Renderer) : RetiredPolled [] r r
  | cons {p : PendingBuild} {rest : List PendingBuild} {r r' r'' : Renderer}
      {left : Option PendingBuild} {fit : Bool} (h : Settled false r p r' left fit)
      (hrest : RetiredPolled rest { r' with retired := r'.retired ++ left.toList } r'') :
      RetiredPolled (p :: rest) r r''

theorem RetiredPolled.frame {ps : List PendingBuild} (h : RetiredPolled ps r r') :
    r' = { r with slot := r'.slot, retired := r'.retired, reports := r'.reports,
                  journal := r'.journal } := by
  induction h with
  | nil r => rfl
  | cons h hrest ih =>
    rw [ih, h.frame]

theorem pollRetired_of_sound {ps : List PendingBuild} (h : ∀ p ∈ ps, p.build.Sound) (r : Renderer) :
    ∃ r', pollRetired ps r = .ok r' ∧ RetiredPolled ps r r' := by
  induction ps generalizing r with
  | nil => exact ⟨r, rfl, .nil r⟩
  | cons p ps ih =>
    rcases settle_of_sound false r (h p List.mem_cons_self) with
      ⟨r₁, left, fit, hsettle, hsettled⟩ | ⟨hpatient, -⟩
    · obtain ⟨r₂, hpoll, hpolled⟩ := ih (fun q hq => h q (List.mem_cons_of_mem _ hq))
        { r₁ with retired := r₁.retired ++ left.toList }
      refine ⟨r₂, ?_, .cons hsettled hpolled⟩
      rw [pollRetired, Build.poll, hsettle]
      exact hpoll
    · simp at hpatient

/-- What polling all builds does. -/
inductive BuildsPolled (r : Renderer) : Renderer → Prop
  | idle {r' : Renderer} (h : RetiredPolled r.retired { r with retired := [] } r')
      (hidle : r'.pending = none) : BuildsPolled r r'
  | pending {p : PendingBuild} {r₁ r₂ : Renderer} {left : Option PendingBuild} {fit : Bool}
      (h : RetiredPolled r.retired { r with retired := [] } r₁) (hpending : r₁.pending = some p)
      (hsettled : Settled false r₁ p r₂ left fit) : BuildsPolled r { r₂ with pending := left }

/-- **Sound builds are polled without a fault.** -/
theorem pollBuilds_of_sound (r : Renderer) (h : ∀ p ∈ r.builds, p.build.Sound) :
    ∃ r' fit, r.pollBuilds = .ok (r', fit) ∧ BuildsPolled r r' := by
  obtain ⟨r₁, hpoll, hpolled⟩ := pollRetired_of_sound
    (fun p hp => h p (List.mem_append_left _ hp)) { r with retired := [] }
  have hkept : r₁.pending = r.pending := by rw [hpolled.frame]
  cases hpending : r₁.pending with
  | none =>
    refine ⟨r₁, false, ?_, .idle hpolled hpending⟩
    simp only [pollBuilds, hpoll, bind, Except.bind, hpending]
    rfl
  | some p =>
    have hsound : p.build.Sound := by
      rw [hkept] at hpending
      exact h p (List.mem_append_right _ (by simp [hpending]))
    rcases settle_of_sound false r₁ hsound with
      ⟨r₂, left, fit, hsettle, hsettled⟩ | ⟨hpatient, -⟩
    · refine ⟨{ r₂ with pending := left }, fit, ?_, .pending hpolled hpending hsettled⟩
      simp only [pollBuilds, hpoll, bind, Except.bind, hpending, Build.poll, hsettle]
      rfl
    · simp at hpatient

theorem BuildsPolled.frame (h : r.BuildsPolled r') :
    r' = { r with slot := r'.slot, pending := r'.pending, retired := r'.retired,
                  reports := r'.reports, journal := r'.journal } := by
  cases h with
  | idle h hidle => rw [h.frame]
  | pending h hpending hsettled => rw [hsettled.frame, h.frame]

/-! ## What is left of the builds -/

end Renderer

/-- A build that some polls have made of another one. -/
structure PendingBuild.Later (p q : PendingBuild) : Prop where
  ticket : q.ticket = p.ticket
  left : Build.Left p.build q.build

namespace Renderer

variable {patient : Bool} {r r' : Renderer} {p : PendingBuild} {left : Option PendingBuild}
variable {fit : Bool}

theorem Settled.later (h : Settled false r p r' left fit) {q : PendingBuild}
    (hq : q ∈ left.toList) : p.Later q := by
  cases h with
  | waits houtcome =>
    obtain rfl : q = _ := by simpa using hq
    exact ⟨rfl, .later .here houtcome⟩
  | installed houtcome hcurrent => simp at hq
  | late houtcome hstale => simp at hq

theorem RetiredPolled.later {ps : List PendingBuild} (h : RetiredPolled ps r r')
    {q : PendingBuild} (hq : q ∈ r'.retired) : q ∈ r.retired ∨ ∃ p ∈ ps, p.Later q := by
  induction h with
  | nil r => exact .inl hq
  | @cons p rest r r₁ r'' left fit h hrest ih =>
    have hkept : r₁.retired = r.retired := by rw [h.frame]
    rcases ih hq with hq | ⟨p', hp', hlater⟩
    · rcases List.mem_append.1 hq with hq | hq
      · exact .inl (hkept ▸ hq)
      · exact .inr ⟨p, List.mem_cons_self, h.later hq⟩
    · exact .inr ⟨p', List.mem_cons_of_mem _ hp', hlater⟩

/-- **Superseded builds stay superseded**, and the latest one stays the latest
until it ends. -/
theorem BuildsPolled.later (h : r.BuildsPolled r') :
    (∀ q ∈ r'.retired, ∃ p ∈ r.retired, p.Later q) ∧
      ∀ q ∈ r'.pending.toList, ∃ p ∈ r.pending.toList, p.Later q := by
  have hretired : ∀ {r₁ : Renderer}, RetiredPolled r.retired { r with retired := [] } r₁ →
      ∀ q ∈ r₁.retired, ∃ p ∈ r.retired, p.Later q := by
    intro r₁ h q hq
    rcases h.later hq with hq | hq
    · simp at hq
    · exact hq
  cases h with
  | idle h hidle => exact ⟨hretired h, by simp [hidle]⟩
  | @pending p r₁ r₂ left fit h hpending hsettled =>
    have hkept : r₂.retired = r₁.retired := by rw [hsettled.frame]
    have hsame : r.pending = some p := by rw [← hpending, h.frame]
    refine ⟨fun q hq => hretired h q (hkept ▸ hq), fun q hq => ⟨p, by simp [hsame], ?_⟩⟩
    exact hsettled.later hq

/-! ## Beginning a build -/

/-- The renderer with a build of its timeline under way, and the one before
it superseded. -/
def enlist (r : Renderer) (queue : List Queued) : Renderer :=
  { r with
    slot := r.slot.begin.1
    retired := r.retired ++ r.pending.toList
    pending := some
      { ticket := r.slot.begin.2, build := Build.start r.timeline r.grid r.moment queue } }

theorem startBuild_eq (r : Renderer) (queue : List Queued) :
    r.startBuild queue = (r.enlist queue).pollBuilds.map Prod.fst := by
  simp only [startBuild, enlist]
  cases pollBuilds _ <;> rfl

end Renderer

/-! ## Faults that effects have no part in -/

theorem AllocationError.eq_overflow {e : AllocationError} {fault : Fault}
    (h : e.fault? = some fault) : fault = .overflow := by
  cases e with
  | refused => simp [fault?] at h
  | uncountable => exact (Option.some.inj h).symm

namespace Renderer

/-! ## Showing a frame -/

/-- The renderer when the reports are taken and the clock has moved on. -/
def ticked (r : Renderer) (now : Nat) : Renderer :=
  { r with reports := r.reports.drain.1, clock := (r.clock.tick now).1 }

/-- The renderer when the frame hooks have run and the frame is presented. -/
def shown (r : Renderer) : Renderer :=
  ({ r.note (r.slot.runFrameHooks r.moment).2 with
      slot := (r.slot.runFrameHooks r.moment).1 }.present r.moment).1

/-- A frame touches neither the builds nor what is built. -/
theorem shown_eq (r : Renderer) :
    r.shown = { r with
      device := r.shown.device, feedback := r.shown.feedback, particles := r.shown.particles
      frames := r.shown.frames, slot := (r.slot.runFrameHooks r.moment).1
      journal := r.journal ++ (r.slot.runFrameHooks r.moment).2 } := by
  unfold shown present drawParticles
  simp only
  split <;> rfl

theorem resizeBuffers_eq (r : Renderer) (width height : UInt32) :
    (r.resizeBuffers width height).1 = { r with
      device := (r.resizeBuffers width height).1.device
      feedback := (r.resizeBuffers width height).1.feedback
      particles := (r.resizeBuffers width height).1.particles
      width := (r.resizeBuffers width height).1.width
      height := (r.resizeBuffers width height).1.height } := by
  unfold resizeBuffers
  simp only
  split
  · rfl
  · split <;> rfl

theorem frame_eq (r : Renderer) (now : Nat) :
    (r.frame now).map Prod.fst =
      match (r.clock.tick now).2.2 with
      | some fault => .error ⟨fault, r.journal⟩
      | none => (r.ticked now).pollBuilds.map fun polled => polled.1.shown := by
  unfold frame ticked
  rcases htick : r.clock.tick now with ⟨clock, deliveries, _ | fault⟩
  · simp only
    cases hpoll : ({ r with reports := r.reports.drain.1, clock } : Renderer).pollBuilds with
    | ok polled =>
      simp only [pure, Except.pure, bind, Except.bind, Except.map]
      rfl
    | error crash => simp only [bind, Except.bind, Except.map]
  · rfl

end Renderer

end ParticleTimeline
