import Mathlib.Data.Finset.Erase
import Mathlib.Data.Finset.Lattice.Lemmas
import ParticleTimeline.Proofs.Log
import ParticleTimeline.Proofs.Render.Screen
/-!
# Whether what is sampled is defined

A framebuffer of a new size has undefined contents, until it is cleared or
something is drawn over all of it. Nobody keeps account of that; here it is
kept, from what a device is asked to do and from the sizes that requests
change (`Operation.undefined`).

Between two operations it is the history that matters: it is undefined when
it is stale, which is to say that it got a new size, and neither an active
frame nor a switch to feedback has come after that (`Renderer.Tracked`). Every
pass samples defined contents but the first one of an active frame over a
stale history (`Renderer.samples_defined`).
-/

namespace ParticleTimeline

/-! ## What a device is asked to do -/

namespace DeviceCall

/-- Of the framebuffers with undefined contents, those that are left. -/
def leaves (undefined : Finset Nat) : DeviceCall → Finset Nat
  | clear target _ => undefined.erase target
  | draw .. | present _ => undefined
  | pass p _ target =>
    match p.blend with
    | none => undefined.erase target
    | some _ => undefined

/-- A pass samples its inputs, and what it is blended with. -/
def Samples (source : Nat) : DeviceCall → Prop
  | pass p sources target => source ∈ sources ∨ p.blend.isSome = true ∧ source = target
  | _ => False

/-- What is left undefined by something that is asked. -/
def leave (undefined : Finset Nat) (calls : List DeviceCall) : Finset Nat :=
  calls.foldl leaves undefined

/-- Everything that is sampled is defined at that moment. -/
def Defined : Finset Nat → List DeviceCall → Prop
  | _, [] => True
  | undefined, call :: calls =>
    (∀ source ∈ undefined, ¬call.Samples source) ∧ Defined (call.leaves undefined) calls

instance decidableSamples (source : Nat) : (call : DeviceCall) → Decidable (call.Samples source)
  | clear .. | draw .. | present _ => inferInstanceAs (Decidable False)
  | pass p sources target =>
    inferInstanceAs (Decidable (source ∈ sources ∨ p.blend.isSome = true ∧ source = target))

instance decidableDefined :
    (calls : List DeviceCall) → (undefined : Finset Nat) → Decidable (Defined undefined calls)
  | [], _ => inferInstanceAs (Decidable True)
  | call :: calls, undefined =>
    let := decidableDefined calls (call.leaves undefined)
    inferInstanceAs (Decidable ((∀ source ∈ undefined, ¬call.Samples source) ∧
      Defined (call.leaves undefined) calls))

variable (undefined : Finset Nat) (r : Renderer) (moment : FrameContext)

@[simp] theorem leave_cons (call : DeviceCall) (calls : List DeviceCall) :
    leave undefined (call :: calls) = leave (call.leaves undefined) calls := rfl

@[simp] theorem defined_cons (call : DeviceCall) (calls : List DeviceCall) :
    Defined undefined (call :: calls) ↔
      (∀ source ∈ undefined, ¬call.Samples source) ∧ Defined (call.leaves undefined) calls :=
  Iff.rfl

@[simp] theorem leave_nil : leave undefined [] = undefined := rfl

@[simp] theorem defined_nil : Defined undefined [] := trivial

theorem leave_append (calls calls' : List DeviceCall) :
    leave undefined (calls ++ calls') = leave (leave undefined calls) calls' := List.foldl_append

theorem defined_append (calls calls' : List DeviceCall) :
    Defined undefined (calls ++ calls') ↔
      Defined undefined calls ∧ Defined (leave undefined calls) calls' := by
  induction calls generalizing undefined with
  | nil => simp
  | cons call calls ih => simp only [List.cons_append, defined_cons, leave_cons, ih, and_assoc]

/-- Drawing the particles begins with a clear, and samples nothing. -/
theorem strokes_defined :
    leave undefined (r.strokes moment) = undefined.erase r.particles.id ∧
      Defined undefined (r.strokes moment) := by
  cases hactive : r.slot.active with
  | none => simp [Renderer.strokes, hactive, leaves, Samples]
  | some c => simp [Renderer.strokes, hactive, leaves, Samples]

theorem idleCalls_defined :
    leave undefined (r.idleCalls moment) = undefined.erase r.particles.id ∧
      Defined undefined (r.idleCalls moment) := by
  obtain ⟨hleave, hdefined⟩ := strokes_defined undefined r moment
  rw [Renderer.idleCalls, leave_append, defined_append, hleave]
  exact ⟨rfl, hdefined, by simp [Samples]⟩

/-- **An active frame samples the history first.** Whatever else it samples it
has drawn over before, and it leaves all three framebuffers defined. -/
theorem activeCalls_defined {step : FullscreenPass} (hstep : step.blend = none) :
    leave undefined (r.activeCalls step moment) =
        ((undefined.erase r.feedback.spare.id).erase r.particles.id).erase r.feedback.history.id ∧
      (Defined undefined (r.activeCalls step moment) ↔ r.feedback.history.id ∉ undefined) := by
  have happly : FullscreenPass.apply.blend = some .additive := rfl
  have hcomposite : FullscreenPass.composite.blend = none := rfl
  obtain ⟨hleave, hdefined⟩ := strokes_defined (undefined.erase r.feedback.spare.id) r moment
  rw [Renderer.activeCalls, List.cons_append, leave_cons, defined_cons]
  have hfirst : DeviceCall.leaves undefined
      (.pass step [r.feedback.history.id] r.feedback.spare.id)
        = undefined.erase r.feedback.spare.id := by
    simp [leaves, hstep]
  rw [hfirst, leave_append, defined_append, hleave]
  constructor
  · simp [leaves, happly, hcomposite]
  · have hsteps : (∀ source ∈ undefined,
        ¬(pass step [r.feedback.history.id] r.feedback.spare.id).Samples source) ↔
          r.feedback.history.id ∉ undefined := by
      simp [Samples, hstep]
    have hrest : Defined ((undefined.erase r.feedback.spare.id).erase r.particles.id)
        [.pass .apply [r.particles.id] r.feedback.spare.id,
          .pass .composite [r.particles.id, r.feedback.spare.id] r.feedback.history.id,
          .present r.feedback.history.id] := by
      simp only [defined_cons, defined_nil, Samples, leaves, happly, hcomposite]
      simp +contextual
    rw [hsteps]
    exact ⟨fun h => h.1, fun h => ⟨h, hdefined, hrest⟩⟩

end DeviceCall

/-! ## A stale history -/

namespace Happening

/-- Whether something gives the history new contents. -/
def refreshes : Happening → Bool
  | activated => true
  | framed active _ => active
  | reallocated => false

/-- The history got a new size, and nothing has given it contents since. -/
def Stale (hs : List Happening) : Prop :=
  ∃ earlier h later, hs = earlier ++ h :: later ∧ h = reallocated ∧
    ∀ h' ∈ later, h'.refreshes = false

theorem not_stale_nil : ¬Stale [] := by
  rintro ⟨earlier, h, later, hsplit, -⟩
  simp at hsplit

theorem stale_concat {hs : List Happening} {h : Happening} :
    Stale (hs ++ [h]) ↔ h = reallocated ∨ (h.refreshes = false ∧ Stale hs) :=
  Log.split_concat_iff

end Happening

/-! ## Operations -/

/-- What a new size leaves undefined, if it is one. -/
def Framebuffer.disturbed (before after : Framebuffer) : Finset Nat :=
  if after.size = before.size then ∅ else {before.id}

theorem Framebuffer.mem_disturbed {before after : Framebuffer} {id : Nat} :
    id ∈ before.disturbed after ↔ after.size ≠ before.size ∧ id = before.id := by
  unfold disturbed
  split <;> simp [*]

namespace Operation

open Happening

/-- The framebuffers whose size really changes in an operation. -/
def disturbs : Operation → Renderer → Finset Nat
  | resize width height, r =>
    let r' := (r.resizeBuffers width height).1
    r.feedback.history.disturbed r'.feedback.history ∪
      r.feedback.spare.disturbed r'.feedback.spare ∪ r.particles.disturbed r'.particles
  | _, _ => ∅

/-- The framebuffers of undefined contents after some operations. -/
def undefined : List Operation → Renderer → Finset Nat → Finset Nat
  | [], _, ids => ids
  | op :: ops, r, ids =>
    match op.perform r with
    | .ok r' =>
      undefined ops r' (DeviceCall.leave (ids ∪ op.disturbs r) (r'.device.since r.device))
    | .error _ => ids

end Operation

namespace Renderer

open Happening

/-- The history is undefined when it is stale. -/
def Tracked (r : Renderer) (hs : List Happening) (ids : Finset Nat) : Prop :=
  r.feedback.history.id ∈ ids ↔ Stale hs

variable {r r' : Renderer} {hs : List Happening} {ids : Finset Nat}

theorem Tracked.of_screen (h : r.Tracked hs ids) (hscreen : r'.screen = r.screen) :
    r'.Tracked hs ids := by
  obtain ⟨-, -, hfeedback, -⟩ := screen_eq_iff.1 hscreen
  rw [Tracked, hfeedback]
  exact h

/-- **A frame** samples defined contents, unless it is an active one and the
history is stale; an active frame gives the history new contents. -/
theorem Tracked.present (h : r.Tracked hs ids) (hr : r.Arranged) (moment : FrameContext) :
    ∃ calls, (r.present moment).1.device.calls.toList = r.device.calls.toList ++ calls ∧
      (DeviceCall.Defined ids calls ↔ ¬(r.accumulates = true ∧ Stale hs)) ∧
      (r.present moment).1.Tracked (hs ++ [.framed r.accumulates (r.present moment).2])
        (DeviceCall.leave ids calls) := by
  have hdistinct := hr.distinct
  simp only [List.nodup_cons, List.mem_cons, List.not_mem_nil, or_false, not_or] at hdistinct
  obtain ⟨⟨hhs, hhp⟩, hsp, -⟩ := hdistinct
  cases haccumulates : r.accumulates with
  | false =>
    have hmode : r.feedback.mode = .none := by
      simpa [hr.isActive, Feedback.isActive] using haccumulates
    obtain ⟨hscreen, hcalls, -⟩ := present_idle hmode moment
    simp only [screen, Screen.mk.injEq] at hscreen
    obtain ⟨-, -, hfeedback, -⟩ := hscreen
    obtain ⟨hleave, hdefined⟩ := DeviceCall.idleCalls_defined ids r moment
    refine ⟨r.idleCalls moment, hcalls, by simp [hdefined], ?_⟩
    rw [Tracked, hfeedback, hleave, stale_concat, Finset.mem_erase]
    simp only [ne_eq, hhp, not_false_eq_true, true_and, reduceCtorEq, refreshes, false_or]
    exact h
  | true =>
    have hmode : r.feedback.mode ≠ .none := by
      simpa [hr.isActive, Feedback.isActive] using haccumulates
    obtain ⟨hscreen, ⟨step, hstep, hcalls⟩, -⟩ := present_active hmode moment
    simp only [screen, Screen.mk.injEq] at hscreen
    obtain ⟨-, -, hfeedback, -⟩ := hscreen
    -- The history is sampled, and afterwards written anew.
    obtain ⟨hleave, hdefined⟩ := DeviceCall.activeCalls_defined ids r moment hstep
    refine ⟨r.activeCalls step moment, hcalls, ?_, ?_⟩
    · rw [hdefined, show r.feedback.history.id ∈ ids ↔ Stale hs from h]
      simp
    · rw [Tracked, hfeedback, hleave, stale_concat, Feedback.history_withSpare,
        Feedback.history_turned]
      simp [refreshes]

/-- Where feedback begins, the history is cleared. -/
theorem Tracked.switched {timeline : TimelineConfig} (h : r.Tracked hs ids) (hr : r.Arranged)
    (hscreen : r'.screen = r.switched timeline) :
    DeviceCall.Defined ids (r'.device.since r.device) ∧
      r'.Tracked
        (hs ++ if r.accumulates = false ∧ r'.accumulates = true then [.activated] else [])
        (DeviceCall.leave ids (r'.device.since r.device)) := by
  obtain ⟨hhistory, hsince⟩ := since_switched hr hscreen
  rw [hsince, Tracked, hhistory]
  by_cases hswitched : r.accumulates = false ∧ r'.accumulates = true
  · rw [if_pos hswitched, if_pos hswitched, stale_concat]
    refine ⟨by simp [DeviceCall.Samples], ?_⟩
    have hcleared : r.feedback.history.id ∉
        (ids.erase r.feedback.first.id).erase r.feedback.second.id := by
      rcases r.feedback.history_id with hfirst | hsecond
      · simp [hfirst]
      · simp [hsecond]
    simpa [DeviceCall.leaves, refreshes] using hcleared
  · rw [if_neg hswitched, if_neg hswitched, List.append_nil]
    exact ⟨DeviceCall.defined_nil ids, h⟩

/-- A new size leaves the history undefined, if it is one for the history. -/
theorem Tracked.resized (h : r.Tracked hs ids) (hr : r.Arranged) (width height : UInt32) :
    (r.resizeBuffers width height).1.Tracked
      (hs ++ Operation.happened (.resize width height) r)
      (ids ∪ Operation.disturbs (.resize width height) r) := by
  have hdistinct := hr.distinct
  simp only [List.nodup_cons, List.mem_cons, List.not_mem_nil, or_false, not_or] at hdistinct
  obtain ⟨⟨hhs, hhp⟩, -⟩ := hdistinct
  have hhistory := (r.resizeBuffers_frame width height).2.1
  have hdisturbed : r.feedback.history.id ∈ Operation.disturbs (.resize width height) r ↔
      (r.resizeBuffers width height).1.feedback.history.size ≠ r.feedback.history.size := by
    simp [Operation.disturbs, Framebuffer.mem_disturbed, hhs, hhp]
  rw [Tracked, hhistory, Finset.mem_union, hdisturbed]
  by_cases hsize : (r.resizeBuffers width height).1.feedback.history.size = r.feedback.history.size
  · simp only [Operation.happened, hsize, if_true, List.append_nil, ne_eq, not_true_eq_false,
      or_false]
    exact h
  · simp only [Operation.happened, hsize, if_false, stale_concat]
    simp [hsize]

end Renderer

namespace Operation

open Renderer Happening

variable {op : Operation} {ops : List Operation} {r r' : Renderer} {hs : List Happening}
variable {ids : Finset Nat}

theorem disturbs_of_not_isSeen (hseen : op.isSeen = false) (r : Renderer) : op.disturbs r = ∅ := by
  cases op with
  | resize width height => simp [isSeen] at hseen
  | _ => rfl

/-- **What an operation samples** is defined, but for an active frame over a
stale history. -/
theorem perform_tracked (hperform : op.perform r = .ok r') (hr : r.Arranged)
    (h : r.Tracked hs ids) :
    (DeviceCall.Defined (ids ∪ op.disturbs r) (r'.device.since r.device) ↔
        ¬((∃ now, op = .frame now) ∧ r.accumulates = true ∧ Stale hs)) ∧
      r'.Tracked (hs ++ op.happened r)
        (DeviceCall.leave (ids ∪ op.disturbs r) (r'.device.since r.device)) := by
  cases perform_leaves hperform with
  | kept hseen hscreen =>
    have hdevice := (screen_eq_iff.1 hscreen).2.1
    have hframe : ¬∃ now, op = .frame now := by
      rintro ⟨now, rfl⟩
      simp [isSeen] at hseen
    rw [happened_of_kept hseen hperform hscreen, List.append_nil,
      Device.since_self (by rw [hdevice]), disturbs_of_not_isSeen hseen, Finset.union_empty]
    exact ⟨by simp [hframe], h.of_screen hscreen⟩
  | switched hscreen =>
    obtain ⟨hdefined, htracked⟩ := h.switched hr hscreen
    rw [happened_of_not_isSeen rfl hperform, disturbs_of_not_isSeen rfl, Finset.union_empty]
    exact ⟨by simp [hdefined], htracked⟩
  | resized width height r =>
    rw [Device.since_self (r.resizeBuffers_frame width height).2.2.2.2]
    exact ⟨by simp, h.resized hr width height⟩
  | @framed now r x moment report hscreen hframe hdrew =>
    have hdevice := (screen_eq_iff.1 hscreen).2.1
    have hsame := accumulates_of_screen hscreen
    obtain ⟨calls, hcalls, hdefined, htracked⟩ :=
      (h.of_screen hscreen).present (hr.of_screen hscreen) moment
    rw [hdevice] at hcalls
    rw [Device.since_eq hcalls, show disturbs (.frame now) r = ∅ from rfl, Finset.union_empty]
    simp only [happened, hframe, hdrew, ← hsame]
    exact ⟨by simpa using hdefined, htracked⟩

theorem run_tracked (hrun : run ops r = .ok r') (hr : r.Arranged) (h : r.Tracked hs ids) :
    r'.Tracked (hs ++ log ops r) (undefined ops r ids) := by
  induction ops generalizing r hs ids with
  | nil =>
    obtain rfl := Except.ok.inj hrun
    rw [log, List.append_nil]
    exact h
  | cons op ops ih =>
    simp only [run] at hrun
    cases hperform : op.perform r with
    | error crash => simp [hperform] at hrun
    | ok r₁ =>
      simp only [hperform] at hrun
      have hrest := ih hrun ((perform_leaves hperform).arranged hr)
        (perform_tracked hperform hr h).2
      simpa only [log, undefined, hperform, List.append_assoc] using hrest

end Operation

namespace Renderer

open Operation Happening

variable {device : Device} {registry : Registry} {timeline : TimelineConfig} {r r' r'' : Renderer}

/-- **When what is sampled is defined.** A renderer is created, and a history
follows. Then all that the next operation samples is defined, unless this is a
frame in an active mode and the history is stale: it got a new size, and since
then feedback has neither begun nor been through a frame. -/
theorem samples_defined (hcreate : create device registry timeline = .ok (.ok r))
    {ops : List Operation} (hrun : run ops r = .ok r') {op : Operation}
    (hperform : op.perform r' = .ok r'') :
    DeviceCall.Defined (undefined ops r ∅ ∪ op.disturbs r') (r''.device.since r'.device) ↔
      ¬((∃ now, op = .frame now) ∧ r'.timeline.accumulation ≠ .none ∧ Stale (log ops r)) := by
  have harranged := (fresh_of_create hcreate).arranged
  have hbegun : r.Tracked [] ∅ := by simp [Tracked, not_stale_nil]
  have htracked : r'.Tracked (log ops r) (undefined ops r ∅) := run_tracked hrun harranged hbegun
  have haccumulates : r'.accumulates = true ↔ r'.timeline.accumulation ≠ .none := by
    simp [accumulates]
  rw [(perform_tracked hperform (run_arranged harranged hrun) htracked).1, haccumulates]

/-- A new size is taken while feedback is on; feedback is switched off and on
again before the next frame. -/
theorem samples_defined_switched :
    ∃ r r' r'', create {} (.builtIn []) (.still .trails) = .ok (.ok r) ∧
      run [.resize 2 1, .setTimeline (.still .none), .setTimeline (.still .smear)] r = .ok r' ∧
      (Operation.frame 0).perform r' = .ok r'' ∧
      DeviceCall.Defined
        (undefined [.resize 2 1, .setTimeline (.still .none), .setTimeline (.still .smear)] r ∅)
        (r''.device.since r'.device) := by
  have hcomputed : ∃ r r', create {} (.builtIn []) (.still .trails) = .ok (.ok r) ∧
      run [.resize 2 1, .setTimeline (.still .none), .setTimeline (.still .smear)] r = .ok r' ∧
      (log [.resize 2 1, .setTimeline (.still .none), .setTimeline (.still .smear)] r
          == [.reallocated, .activated]
        && ((Operation.frame 0).perform r').toOption.isSome) = true :=
    exists_of_computed (by decide +kernel)
  obtain ⟨r, r', hcreate, hrun, hlast⟩ := hcomputed
  obtain ⟨hlog, hframed⟩ := Bool.and_eq_true_iff.1 hlast
  have hfresh : ¬Stale (log [.resize 2 1, .setTimeline (.still .none),
      .setTimeline (.still .smear)] r) := by
    rw [beq_iff_eq.1 hlog, show [reallocated, activated] = [reallocated] ++ [activated] from rfl,
      stale_concat]
    simp [refreshes]
  cases hframe : (Operation.frame 0).perform r' with
  | error crash => simp [hframe, Except.toOption] at hframed
  | ok r'' =>
    have hdefined := (samples_defined hcreate hrun hframe).2 fun h => hfresh h.2.2
    rw [show disturbs (.frame 0) r' = ∅ from rfl, Finset.union_empty] at hdefined
    exact ⟨r, r', r'', hcreate, hrun, hframe, hdefined⟩

/-- A new size is taken while feedback is on, and the next frame samples a
framebuffer that nothing has been drawn into. -/
theorem samples_undefined_resized :
    ∃ r r' r'', create {} (.builtIn []) (.still .trails) = .ok (.ok r) ∧
      run [.resize 2 1] r = .ok r' ∧ (Operation.frame 0).perform r' = .ok r'' ∧
      ¬DeviceCall.Defined (undefined [.resize 2 1] r ∅) (r''.device.since r'.device) := by
  have hcomputed : ∃ r r', create {} (.builtIn []) (.still .trails) = .ok (.ok r) ∧
      run [.resize 2 1] r = .ok r' ∧
      (((Operation.frame 0).perform r').toOption.any fun r'' => !decide
        (DeviceCall.Defined (undefined [.resize 2 1] r ∅) (r''.device.since r'.device))) = true :=
    exists_of_computed (by decide +kernel)
  obtain ⟨r, r', hcreate, hrun, hlast⟩ := hcomputed
  cases hframe : (Operation.frame 0).perform r' with
  | error crash => simp [hframe, Except.toOption] at hlast
  | ok r'' =>
    refine ⟨r, r', r'', hcreate, hrun, hframe, ?_⟩
    simpa [hframe, Except.toOption] using hlast

end Renderer

end ParticleTimeline
