import ParticleTimeline.Proofs.Draw.Hooks
/-!
# Which frame hooks run

A frame hook is called in frame after frame until it ends
(`FrameHook.after`), so the hooks of a command that has been shown in some
frames are those of its hooks that have lasted through them, in their order
(`HookList.runFrame_after`). Builds call no frame hook, whatever becomes of
them: all that a poll runs is torn down (`Build.frameCalls_advance`).
-/

namespace ParticleTimeline

/-! ## Calls among events -/

/-- Whether an event is the call of a frame hook. -/
def HookEvent.isFramed : HookEvent → Bool
  | .framed .. => true
  | .tornDown _ => false

/-- The calls of frame hooks among some events. -/
def frameCalls (events : List HookEvent) : List HookEvent := events.filter HookEvent.isFramed

@[simp] theorem frameCalls_nil : frameCalls [] = [] := rfl

@[simp] theorem frameCalls_append (es fs : List HookEvent) :
    frameCalls (es ++ fs) = frameCalls es ++ frameCalls fs :=
  List.filter_append es fs

@[simp] theorem frameCalls_tearDown (h : HookList) : frameCalls h.tearDown = [] := by
  simp [frameCalls, HookList.tearDown, HookEvent.isFramed]

/-- Only its calls are looked at. -/
theorem frameCalls_calls (hooks : List FrameHook) (frame : FrameContext) :
    frameCalls (hooks.map fun hook => .framed hook.tag frame)
      = hooks.map fun hook => .framed hook.tag frame := by
  rw [frameCalls, List.filter_eq_self]
  simp [HookEvent.isFramed]

/-! ## A hook through frames -/

namespace FrameHook

/-- What is left of a hook after some frames, each of which called it; nothing
if it ended in one of them. -/
def after (hook : FrameHook) : List FrameContext → Option FrameHook
  | [] => some hook
  | f :: fs => (hook.call f).bind (·.after fs)

/-- Whether a hook has gone on behind every one of some frames. -/
def lasts (hook : FrameHook) (fs : List FrameContext) : Bool := (hook.after fs).isSome

theorem after_concat (hook : FrameHook) (fs : List FrameContext) (f : FrameContext) :
    hook.after (fs ++ [f]) = (hook.after fs).bind (·.call f) := by
  induction fs generalizing hook with
  | nil => cases h : hook.call f <;> simp [after, h]
  | cons g fs ih =>
    cases h : hook.call g with
    | none => simp [after, h]
    | some hook' => simpa [after, h] using ih hook'

theorem tag_of_call {hook hook' : FrameHook} {f : FrameContext} (h : hook.call f = some hook') :
    hook'.tag = hook.tag := by
  unfold call at h
  split at h
  · obtain rfl := Option.some.inj h
    rfl
  · cases h

theorem tag_of_after {hook hook' : FrameHook} {fs : List FrameContext}
    (h : hook.after fs = some hook') : hook'.tag = hook.tag := by
  induction fs generalizing hook with
  | nil =>
    obtain rfl := Option.some.inj h
    rfl
  | cons f fs ih =>
    obtain ⟨next, hcall, hafter⟩ := Option.bind_eq_some_iff.1 h
    exact (ih hafter).trans (tag_of_call hcall)

/-- **A hook has lasted just when it has never wanted to end**: behind every
frame it went on, given the frames before. -/
theorem lasts_iff (hook : FrameHook) (fs : List FrameContext) :
    hook.lasts fs = true ↔ ∀ earlier f later, fs = earlier ++ f :: later →
      hook.goesOn (earlier.reverse ++ hook.calls) f = true := by
  induction fs generalizing hook with
  | nil => simp [lasts, after]
  | cons g fs ih =>
    constructor
    · intro h earlier f later hsplit
      -- A hook that has ended stays so.
      cases hgoes : hook.goesOn hook.calls g with
      | false => simp [lasts, after, call, hgoes] at h
      | true =>
        cases earlier with
        | nil =>
          obtain ⟨rfl, -⟩ := List.cons.inj hsplit
          simpa using hgoes
        | cons e earlier =>
          obtain ⟨rfl, hrest⟩ := List.cons.inj hsplit
          have hlater : ({ hook with calls := g :: hook.calls } : FrameHook).lasts fs = true := by
            simpa [lasts, after, call, hgoes] using h
          simpa using (ih _).1 hlater earlier f later hrest
    · intro h
      have hgoes : hook.goesOn hook.calls g = true := by simpa using h [] g fs rfl
      have hlater : ({ hook with calls := g :: hook.calls } : FrameHook).lasts fs = true := by
        refine (ih _).2 fun earlier f later hsplit => ?_
        simpa using h (g :: earlier) f later (by rw [hsplit, List.cons_append])
      simpa [lasts, after, call, hgoes] using hlater

end FrameHook

/-- What is called when some frames have passed are the hooks that have lasted
through them. -/
theorem calls_after (hooks : List FrameHook) (fs : List FrameContext) (frame : FrameContext) :
    (hooks.filterMap (·.after fs)).map (fun hook => HookEvent.framed hook.tag frame)
      = (hooks.filter (·.lasts fs)).map fun hook => .framed hook.tag frame := by
  induction hooks with
  | nil => rfl
  | cons hook hooks ih =>
    cases hafter : hook.after fs with
    | none => simpa [FrameHook.lasts, hafter] using ih
    | some hook' => simpa [FrameHook.lasts, hafter, FrameHook.tag_of_after hafter] using ih

/-- **One more frame** leaves the hooks that have lasted one frame longer. -/
theorem HookList.runFrame_after (h : HookList) {hooks : List FrameHook} {fs : List FrameContext}
    (hframe : h.frame = hooks.filterMap (·.after fs)) (f : FrameContext) :
    (h.runFrame f).1.frame = hooks.filterMap (·.after (fs ++ [f])) := by
  simp only [runFrame, hframe, List.filterMap_filterMap, FrameHook.after_concat]

/-! ## Builds call nothing -/

namespace Build

variable {patient : Bool}

/-- A registration that closes runs only what it tears down. -/
theorem frameCalls_of_turn {d d' : Draft} {s : Stages} {o : Ongoing} {events : List HookEvent}
    {reports : List EffectError} (h : turn patient d o = .closed d' s events reports) :
    frameCalls events = [] := by
  unfold turn at h
  split at h
  · cases h
  · cases h
  · split at h
    · split at h
      · cases h
        rfl
      · cases h
    · split at h
      · cases h
        exact frameCalls_tearDown _
      · cases h
    · split at h <;> cases h

/-- **Polling a build calls no frame hook.** -/
theorem frameCalls_advance (patient : Bool) (b : Build) :
    frameCalls (b.advance patient).events = [] := by
  induction b using induct with
  | nil d s => rfl
  | begun q rest d s ih => exact ih
  | ongoing queue d o ih =>
    rw [advance_registering]
    cases hturn : turn patient d o with
    | closed d' s' events reports =>
      simp only [Polled.since, frameCalls_append, frameCalls_of_turn hturn, List.nil_append]
      exact ih d' s'
    | suspended o' => rfl
    | crashed fault hooks => simp [crash]

/-- Giving up a build calls none either. -/
theorem frameCalls_abandon (b : Build) : frameCalls b.abandon = [] := by
  cases b <;> simp [abandon]

end Build

end ParticleTimeline
