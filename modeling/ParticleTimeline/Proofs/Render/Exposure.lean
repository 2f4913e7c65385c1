import Mathlib.Data.Finset.Lattice.Lemmas
import ParticleTimeline.Proofs.Log
import ParticleTimeline.Proofs.Render.Screen
/-!
# Which frames show

Every framebuffer has in it what was drawn in some frames (`Exposure`): a
clear leaves none, drawing adds the frame at hand, a pass brings the frames
of what it samples, in the place of those there were or beside them. What a
device is asked to do is all there is to it.

Three framebuffers change places in every active frame. The one that matters
between frames is the history: as long as feedback is on, the frames in it
are those that drew since it was switched on (`Renderer.Exposed`). A frame
keeps this and presents one framebuffer (`Renderer.Exposed.present`), and so
does everything but a new size; so along a history nothing is lost, and
nothing shows again from before (`Renderer.history_exact`).
-/

namespace ParticleTimeline

/-- The frames that show in each framebuffer, and in what was presented, oldest
first. -/
structure Exposure where
  inside : Nat → Finset Nat := fun _ => ∅
  shown : List (Finset Nat) := []

namespace Exposure

/-- The number of the frame at hand. -/
def number (e : Exposure) : Nat := e.shown.length

/-- Has some frames show in a framebuffer, and no others. -/
def expose (e : Exposure) (target : Nat) (frames : Finset Nat) : Exposure :=
  { e with inside := Function.update e.inside target frames }

/-- The frames that show in some framebuffers together. -/
def together (e : Exposure) (sources : List Nat) : Finset Nat :=
  sources.foldr (fun source frames => e.inside source ∪ frames) ∅

/-- What something that a device is asked to do makes of it. -/
def after (e : Exposure) : DeviceCall → Exposure
  | .clear target _ => e.expose target ∅
  | .draw target _ _ => e.expose target (insert e.number (e.inside target))
  | .pass p sources target =>
    match p.blend with
    | none => e.expose target (e.together sources)
    | some _ => e.expose target (e.inside target ∪ e.together sources)
  | .present source => { e with shown := e.shown ++ [e.inside source] }

def replay (e : Exposure) (calls : List DeviceCall) : Exposure := calls.foldl after e

variable (e : Exposure)

@[simp] theorem replay_nil : e.replay [] = e := rfl

@[simp] theorem replay_cons (call : DeviceCall) (calls : List DeviceCall) :
    e.replay (call :: calls) = (e.after call).replay calls := rfl

theorem replay_append (calls calls' : List DeviceCall) :
    e.replay (calls ++ calls') = (e.replay calls).replay calls' := List.foldl_append

@[simp] theorem number_expose (target : Nat) (frames : Finset Nat) :
    (e.expose target frames).number = e.number := rfl

@[simp] theorem shown_expose (target : Nat) (frames : Finset Nat) :
    (e.expose target frames).shown = e.shown := rfl

@[simp] theorem inside_expose_self (target : Nat) (frames : Finset Nat) :
    (e.expose target frames).inside target = frames := by
  simp [expose]

theorem inside_expose_of_ne {source target : Nat} (h : source ≠ target) (frames : Finset Nat) :
    (e.expose target frames).inside source = e.inside source := by
  simp [expose, h]

@[simp] theorem expose_expose (target : Nat) (frames frames' : Finset Nat) :
    (e.expose target frames).expose target frames' = e.expose target frames' := by
  simp [expose]

theorem inside_cleared {source target target' : Nat} (colour : Vec4 Float32)
    (h : source = target ∨ source = target') :
    (e.replay [.clear target colour, .clear target' colour]).inside source = ∅ := by
  by_cases hlast : source = target'
  · simp [after, hlast]
  · obtain rfl := h.resolve_right hlast
    simp [after, inside_expose_of_ne, hlast]

end Exposure

/-! ## What a frame asks for -/

/-- The frames that drawing the particles leaves in their framebuffer. -/
def Renderer.drawn (r : Renderer) (number : Nat) : Finset Nat :=
  if r.slot.active.isSome then {number} else ∅

theorem Renderer.mem_drawn {r : Renderer} {number number' : Nat} :
    number ∈ r.drawn number' ↔ r.slot.active.isSome = true ∧ number = number' := by
  unfold drawn
  split <;> simp [*]

namespace Exposure

variable (e : Exposure) (r : Renderer) (moment : FrameContext)

theorem replay_strokes :
    e.replay (r.strokes moment) = e.expose r.particles.id (r.drawn e.number) := by
  cases hactive : r.slot.active with
  | none => simp [Renderer.strokes, Renderer.drawn, hactive, after]
  | some c => simp [Renderer.strokes, Renderer.drawn, hactive, after]

theorem replay_idle :
    e.replay (r.idleCalls moment) =
      { e.expose r.particles.id (r.drawn e.number) with
        shown := e.shown ++ [r.drawn e.number] } := by
  rw [Renderer.idleCalls, replay_append, replay_strokes]
  simp [after]

/-- **The frames go round.** The history is faded into the spare slot and the
particles are added to it; what is presented has both in it. -/
theorem replay_active {step : FullscreenPass} (hstep : step.blend = none) (hr : r.Arranged) :
    (e.replay (r.activeCalls step moment)).shown = e.shown
        ++ [r.drawn e.number ∪ (e.inside r.feedback.history.id ∪ r.drawn e.number)] ∧
      (e.replay (r.activeCalls step moment)).inside r.feedback.spare.id
        = e.inside r.feedback.history.id ∪ r.drawn e.number := by
  have hdistinct := hr.distinct
  simp only [List.nodup_cons, List.mem_cons, List.not_mem_nil, or_false, not_or] at hdistinct
  obtain ⟨⟨hhs, -⟩, hsp, -⟩ := hdistinct
  rw [Renderer.activeCalls, List.cons_append, replay_cons, replay_append, replay_strokes]
  have happly : FullscreenPass.apply.blend = some .additive := rfl
  have hcomposite : FullscreenPass.composite.blend = none := rfl
  simp [after, together, hstep, happly, hcomposite, inside_expose_of_ne, hsp, Ne.symm hhs,
    Ne.symm hsp]

end Exposure

/-! ## The frames of a log -/

namespace Happening

def isFrame : Happening → Bool
  | framed .. => true
  | _ => false

/-- The number of frames in a log. -/
def frames (hs : List Happening) : Nat := hs.countP isFrame

/-- A frame in which there was something to draw. -/
def drew : Happening → Bool
  | framed _ drew => drew
  | _ => false

/-- The frame with some number drew, and feedback has not been switched on
since. -/
def Trails (hs : List Happening) (number : Nat) : Prop :=
  ∃ earlier h later, hs = earlier ++ h :: later ∧
    (h.drew = true ∧ frames earlier = number) ∧ ∀ h' ∈ later, h' ≠ activated

theorem not_trails_nil (number : Nat) : ¬Trails [] number := by
  rintro ⟨earlier, h, later, hsplit, -⟩
  simp at hsplit

theorem not_trails_activated (hs : List Happening) (number : Nat) :
    ¬Trails (hs ++ [activated]) number := by
  rw [Trails, Log.split_concat_iff]
  rintro (⟨hdrew, -⟩ | ⟨hne, -⟩)
  · simp [drew] at hdrew
  · exact hne rfl

theorem trails_framed {hs : List Happening} {active drew : Bool} {number : Nat} :
    Trails (hs ++ [framed active drew]) number ↔
      Trails hs number ∨ (drew = true ∧ number = frames hs) := by
  rw [Trails, Log.split_concat_iff, Trails]
  simp only [Happening.drew, ne_eq, reduceCtorEq, not_false_eq_true, true_and, eq_comm]
  exact or_comm

end Happening

/-! ## The frames in the history -/

namespace Renderer

open Exposure Happening

/-- As long as feedback is on, the frames in the history are those that drew
since it was switched on. -/
structure Exposed (r : Renderer) (hs : List Happening) (e : Exposure) : Prop where
  number : e.number = r.frames
  frames : Happening.frames hs = r.frames
  history : r.accumulates = true →
    ∀ number, number ∈ e.inside r.feedback.history.id ↔ Trails hs number

variable {r r' : Renderer} {hs : List Happening} {e : Exposure}

theorem Exposed.of_screen (h : r.Exposed hs e) (hscreen : r'.screen = r.screen) :
    r'.Exposed hs e := by
  obtain ⟨htimeline, -, hfeedback, -, -, -, hframes⟩ := screen_eq_iff.1 hscreen
  refine ⟨by rw [hframes, h.number], by rw [hframes, h.frames], fun haccumulates => ?_⟩
  rw [hfeedback]
  refine h.history ?_
  rw [← haccumulates, accumulates, accumulates, htimeline]

/-- **A frame** presents one framebuffer. Without feedback only the frame
itself shows in it, and otherwise all that drew since feedback was switched
on. -/
theorem Exposed.present (h : r.Exposed hs e) (hr : r.Arranged) (moment : FrameContext) :
    ∃ calls shown, (r.present moment).1.device.calls.toList = r.device.calls.toList ++ calls ∧
      (e.replay calls).shown = e.shown ++ [shown] ∧
      (r.accumulates = false →
        ∀ number, number ∈ shown ↔ (r.present moment).2 = true ∧ number = r.frames) ∧
      (r.accumulates = true → ∀ number, number ∈ shown ↔
        Trails (hs ++ [.framed true (r.present moment).2]) number) ∧
      (r.present moment).1.Exposed
        (hs ++ [.framed r.accumulates (r.present moment).2]) (e.replay calls) := by
  have hframes : Happening.frames (hs ++ [.framed r.accumulates (r.present moment).2])
      = r.frames + 1 := by
    simp [Happening.frames, isFrame, ← h.frames]
  cases haccumulates : r.accumulates with
  | false =>
    have hmode : r.feedback.mode = .none := by
      simpa [hr.isActive, Feedback.isActive] using haccumulates
    obtain ⟨hscreen, hcalls, hdrew⟩ := present_idle hmode moment
    simp only [screen, Screen.mk.injEq] at hscreen
    obtain ⟨htimeline, -, -, -, -, -, hcount⟩ := hscreen
    have hreplay := e.replay_idle r moment
    have hshown : (e.replay (r.idleCalls moment)).shown = e.shown ++ [r.drawn e.number] := by
      rw [hreplay]
    refine ⟨r.idleCalls moment, r.drawn e.number, hcalls, hshown, fun _ number => ?_, by simp, ?_⟩
    · rw [mem_drawn, hdrew, h.number]
    · refine ⟨?_, haccumulates ▸ hframes.trans hcount.symm, fun hafter => ?_⟩
      · rw [Exposure.number, hshown, hcount, List.length_append, ← h.number]
        rfl
      · simp only [accumulates, htimeline] at hafter haccumulates
        simp [hafter] at haccumulates
  | true =>
    have hmode : r.feedback.mode ≠ .none := by
      simpa [hr.isActive, Feedback.isActive] using haccumulates
    obtain ⟨hscreen, ⟨step, hstep, hcalls⟩, hdrew⟩ := present_active hmode moment
    simp only [screen, Screen.mk.injEq] at hscreen
    obtain ⟨htimeline, -, hfeedback, -, -, -, hcount⟩ := hscreen
    obtain ⟨hshown, hspare⟩ := e.replay_active r moment hstep hr
    -- The history holds the trails so far, and the draw adds what this frame shows.
    have htrails : ∀ number, Trails (hs ++ [.framed true (r.present moment).2]) number ↔
        number ∈ e.inside r.feedback.history.id ∪ r.drawn e.number := by
      intro number
      rw [trails_framed, Finset.mem_union, mem_drawn, hdrew, h.frames, h.number,
        h.history haccumulates]
    refine ⟨r.activeCalls step moment, _, hcalls, hshown, by simp, fun _ number => ?_, ?_⟩
    · rw [htrails, Finset.mem_union]
      exact ⟨fun h => h.elim (Finset.mem_union_right _) id, .inr⟩
    · refine ⟨?_, haccumulates ▸ hframes.trans hcount.symm, fun _ number => ?_⟩
      · rw [Exposure.number, hshown, hcount, List.length_append, ← h.number]
        rfl
      · -- The spare slot of this frame is the history of the next.
        rw [hfeedback, Feedback.history_withSpare, Feedback.history_turned, hspare, htrails]

/-- A switch of the mode clears the history, when feedback begins with it. -/
theorem Exposed.switched {timeline : TimelineConfig} (h : r.Exposed hs e) (hr : r.Arranged)
    (hscreen : r'.screen = r.switched timeline) :
    r'.Exposed
      (hs ++ if r.accumulates = false ∧ r'.accumulates = true then [.activated] else [])
      (e.replay (r'.device.since r.device)) := by
  have hcount : r'.frames = r.frames := congrArg Screen.frames hscreen
  obtain ⟨hhistory, hsince⟩ := since_switched hr hscreen
  rw [hsince]
  by_cases hswitched : r.accumulates = false ∧ r'.accumulates = true
  · rw [if_pos hswitched, if_pos hswitched]
    refine ⟨?_, ?_, fun _ number => ?_⟩
    · rw [hcount, ← h.number]
      rfl
    · rw [hcount, ← h.frames]
      simp [Happening.frames, isFrame]
    · rw [hhistory, e.inside_cleared _ r.feedback.history_id]
      simp [not_trails_activated]
  · rw [if_neg hswitched, if_neg hswitched, List.append_nil]
    refine ⟨by rw [hcount]; exact h.number, by rw [hcount, h.frames], fun hafter number => ?_⟩
    have hbefore : r.accumulates = true := by
      by_contra hno
      exact hswitched ⟨by simpa using hno, hafter⟩
    rw [hhistory]
    exact h.history hbefore number

end Renderer

namespace Operation

open Renderer

/-- Every operation but a new size. -/
def KeepsSize : Operation → Prop
  | resize .. => False
  | _ => True

variable {op : Operation} {ops : List Operation} {r r' : Renderer} {hs : List Happening}
variable {e : Exposure}

/-- **The history is exact** after an operation, if it was before. -/
theorem perform_exposed (hperform : op.perform r = .ok r') (hop : op.KeepsSize) (hr : r.Arranged)
    (h : r.Exposed hs e) :
    r'.Exposed (hs ++ op.happened r) (e.replay (r'.device.since r.device)) := by
  cases perform_leaves hperform with
  | kept hseen hscreen =>
    have hdevice := (screen_eq_iff.1 hscreen).2.1
    rw [happened_of_kept hseen hperform hscreen, List.append_nil,
      Device.since_self (by rw [hdevice])]
    exact h.of_screen hscreen
  | switched hscreen =>
    rw [happened_of_not_isSeen rfl hperform]
    exact h.switched hr hscreen
  | resized width height r => exact hop.elim
  | @framed now r x moment report hscreen hframe hdrew =>
    have hx := h.of_screen hscreen
    obtain ⟨calls, shown, hcalls, -, -, -, hexposed⟩ := hx.present (hr.of_screen hscreen) moment
    have hdevice := (screen_eq_iff.1 hscreen).2.1
    have hsame := accumulates_of_screen hscreen
    rw [hdevice] at hcalls
    rw [Device.since_eq hcalls]
    simp only [happened, hframe, hdrew, ← hsame]
    exact hexposed

theorem run_exposed (hrun : run ops r = .ok r') (hops : ∀ op ∈ ops, op.KeepsSize)
    (hr : r.Arranged) (h : r.Exposed hs e) :
    r'.Exposed (hs ++ log ops r) (e.replay (r'.device.since r.device)) := by
  induction ops generalizing r hs e with
  | nil =>
    obtain rfl := Except.ok.inj hrun
    rw [Device.since_self rfl, log, List.append_nil]
    exact h
  | cons op ops ih =>
    simp only [run] at hrun
    cases hperform : op.perform r with
    | error crash => simp [hperform] at hrun
    | ok r₁ =>
      simp only [hperform] at hrun
      have hleaves := perform_leaves hperform
      have hrest := ih hrun (fun op' hop' => hops op' (List.mem_cons_of_mem _ hop'))
        (hleaves.arranged hr)
        (perform_exposed hperform (hops op List.mem_cons_self) hr h)
      rw [Device.since_trans hleaves.keeps_calls (run_keeps_calls hrun), Exposure.replay_append]
      simpa only [log, hperform, List.append_assoc] using hrest

end Operation

namespace Renderer

open Operation Happening

variable {device : Device} {registry : Registry} {timeline : TimelineConfig} {r r' : Renderer}

/-- The frames in the framebuffers, when some has been asked of a device that
another one was not asked. -/
def exposure (r r' : Renderer) : Exposure := Exposure.replay {} (r'.device.since r.device)

theorem Fresh.exposed (h : r.Fresh device timeline) : r.Exposed [] {} := by
  have hscreen := h.screen
  simp only [Renderer.screen, Screen.mk.injEq] at hscreen
  obtain ⟨-, -, -, -, -, -, hframes⟩ := hscreen
  exact ⟨hframes.symm, hframes.symm, fun _ number => by simp [not_trails_nil]⟩

/-- **The history is exact.** A renderer is created, and a history follows in
which no size changes. Then the frame after it presents one framebuffer, and
what shows in it are the frames that should: without feedback this very
frame, if it drew, and otherwise those that drew since feedback was switched
on or the renderer was created. No frame presents if the clock cannot count
to it, or a build crashes. -/
theorem history_exact (hcreate : create device registry timeline = .ok (.ok r))
    {ops : List Operation} (hops : ∀ op ∈ ops, op.KeepsSize) (hrun : run ops r = .ok r')
    (now : Nat) :
    (exposure r r').shown.length = r'.frames ∧
      ((∃ r'' report shown, r'.frame now = .ok (r'', report) ∧
          (exposure r r'').shown = (exposure r r').shown ++ [shown] ∧
          (r'.timeline.accumulation = .none →
            ∀ number, number ∈ shown ↔ report.drew = true ∧ number = r'.frames) ∧
          (r'.timeline.accumulation ≠ .none →
            ∀ number, number ∈ shown ↔ Trails (log ops r ++ [.framed true report.drew]) number)) ∨
        (r'.clock.tick now).2.2 = some .overflow ∨
        ∃ p ∈ r'.builds, ∃ fault, p.build.poll.outcome = .crashed fault) := by
  have hfresh := fresh_of_create hcreate
  have hexposed : r'.Exposed (log ops r) (exposure r r') :=
    run_exposed hrun hops hfresh.arranged hfresh.exposed
  have harranged := run_arranged hfresh.arranged hrun
  refine ⟨hexposed.number, ?_⟩
  cases hframe : r'.frame now with
  | error crash => exact .inr (frame_eq_error hframe)
  | ok framed =>
    obtain ⟨r'', report⟩ := framed
    obtain ⟨x, moment, hscreen, rfl, hdrew⟩ := frame_eq_ok hframe
    obtain ⟨htimeline, hdevice, -, -, -, -, hcount⟩ := screen_eq_iff.1 hscreen
    obtain ⟨calls, shown, hcalls, hshown, hidle, hactive, -⟩ :=
      (hexposed.of_screen hscreen).present (harranged.of_screen hscreen) moment
    rw [hdevice] at hcalls
    have hsince := Device.since_trans (run_keeps_calls hrun) ⟨calls, hcalls.symm⟩
    refine .inl ⟨_, report, shown, rfl, ?_, fun hmode => ?_, fun hmode => ?_⟩
    · rw [exposure, hsince, Exposure.replay_append, Device.since_eq hcalls]
      exact hshown
    · rw [hdrew, ← hcount]
      exact hidle (by simp [accumulates, htimeline, hmode])
    · rw [hdrew]
      exact hactive (by simp [accumulates, htimeline, hmode])

/-- Trails are switched off for a frame, and then on again: the frames from
before do not come back. -/
theorem history_exact_switched :
    ∃ r r' r'' report shown, create {} (.builtIn []) (.still .trails) = .ok (.ok r) ∧
      run [.frame 0, .setTimeline (.still .none), .frame 0, .setTimeline (.still .smear), .frame 0]
        r = .ok r' ∧
      r'.frame 0 = .ok (r'', report) ∧
      (exposure r r'').shown = (exposure r r').shown ++ [shown] ∧ shown = {2, 3} := by
  have hcomputed : ∃ r r', create {} (.builtIn []) (.still .trails) = .ok (.ok r) ∧
      run [.frame 0, .setTimeline (.still .none), .frame 0, .setTimeline (.still .smear), .frame 0]
        r = .ok r' ∧
      (log [.frame 0, .setTimeline (.still .none), .frame 0, .setTimeline (.still .smear),
            .frame 0] r
          == [.framed true true, .framed false true, .activated, .framed true true]
        && r'.timeline.accumulation == .smear
        && (r'.clock.tick 0).2.2.isNone && r'.builds.isEmpty
        && (r'.frame 0).toOption.any fun framed => framed.2.drew) = true :=
    exists_of_computed (by decide +kernel)
  obtain ⟨r, r', hcreate, hrun, hlast⟩ := hcomputed
  simp only [Bool.and_eq_true, beq_iff_eq, Option.isNone_iff_eq_none, List.isEmpty_iff] at hlast
  obtain ⟨⟨⟨⟨hlog, hmode⟩, hcounts⟩, hbuilds⟩, hdrew⟩ := hlast
  have hops : ∀ op ∈ [Operation.frame 0, .setTimeline (.still .none), .frame 0,
      .setTimeline (.still .smear), .frame 0], op.KeepsSize := by
    simp [KeepsSize]
  rcases (history_exact hcreate hops hrun 0).2 with
    ⟨r'', report, shown, hframe, hshown, -, hactive⟩ | hoverflow | ⟨p, hp, -⟩
  · refine ⟨r, r', r'', report, shown, hcreate, hrun, hframe, hshown, ?_⟩
    rw [hframe] at hdrew
    have hreport : report.drew = true := hdrew
    ext number
    rw [hactive (by simp [hmode]), hlog, hreport]
    have hbefore : ¬Trails [.framed true true, .framed false true, .activated] number :=
      not_trails_activated [.framed true true, .framed false true] number
    show Trails ((([.framed true true, .framed false true] ++ [.activated])
      ++ [.framed true true]) ++ [.framed true true]) number ↔ _
    rw [trails_framed, trails_framed]
    simp [hbefore, Happening.frames, isFrame, List.countP_cons]
  · simp [hcounts] at hoverflow
  · simp [hbuilds] at hp

end Renderer

end ParticleTimeline
