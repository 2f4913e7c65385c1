import Mathlib.Data.List.Nodup
import ParticleTimeline.Proofs.Render.Slots
/-!
# What is read and what is written

Feedback goes round three framebuffers: its two slots, and the one that the
caller draws particles into. Nothing that is done to it makes or loses one;
they only change places (`FeedbackOperation.perform_ids`), so three that were
distinct when they were made stay so. That is why no pass ever reads what it
writes (`FeedbackOperation.perform_calls`): the inputs of a pass and its
target have different places. All that holds of a run of operations is said
in one (`FeedbackOperation.run_exchanged`).
-/

namespace ParticleTimeline

/-- A pass that writes nothing it reads; whatever else is asked of a device. -/
def DeviceCall.Apart : DeviceCall → Prop
  | .pass _ inputs target => target ∉ inputs
  | _ => True

/-- Feedback and the framebuffer that particles are drawn into, with the
device that both belong to. -/
structure Exchange where
  feedback : Feedback
  device : Device
  particles : Framebuffer

namespace Exchange

/-- The ids of the three framebuffers. -/
def ids (x : Exchange) : List Nat := [x.feedback.first.id, x.feedback.second.id, x.particles.id]

/-- The ids by what the framebuffers are for. -/
theorem ids_perm (x : Exchange) :
    x.ids.Perm [x.feedback.history.id, x.feedback.spare.id, x.particles.id] := by
  cases hswapped : x.feedback.swapped with
  | false => simp [ids, Feedback.history, Feedback.spare, hswapped]
  | true =>
    simp only [ids, Feedback.history, Feedback.spare, hswapped, if_true]
    exact List.Perm.swap ..

/-- Feedback and a framebuffer that one device has made, whichever came
first. What else the device did meanwhile is left open, but that it does not
give an id twice. -/
inductive Opened (mode : AccumulationMode) : Exchange → Prop
  | particlesFirst {d d₁ d₂ d₃ : Device} {label : String} {width height : UInt32}
      {particles : Framebuffer} {feedback : Feedback}
      (hparticles : d.create label width height = .ok (d₁, particles))
      (hmeanwhile : d₁.nextId ≤ d₂.nextId)
      (hfeedback : Feedback.create d₂ mode = .ok (d₃, feedback)) :
      Opened mode ⟨feedback, d₃, particles⟩
  | feedbackFirst {d d₁ d₂ d₃ : Device} {label : String} {width height : UInt32}
      {particles : Framebuffer} {feedback : Feedback}
      (hfeedback : Feedback.create d mode = .ok (d₁, feedback))
      (hmeanwhile : d₁.nextId ≤ d₂.nextId)
      (hparticles : d₂.create label width height = .ok (d₃, particles)) :
      Opened mode ⟨feedback, d₃, particles⟩

variable {mode : AccumulationMode} {x : Exchange}

theorem Opened.nodup (h : Opened mode x) : x.ids.Nodup := by
  cases h with
  | particlesFirst hparticles hmeanwhile hfeedback =>
    obtain ⟨rfl, hid, -⟩ := Device.create_eq_ok hparticles
    obtain ⟨rfl, -, -⟩ := Feedback.create_eq_ok hfeedback
    simp [ids]
    omega
  | feedbackFirst hfeedback hmeanwhile hparticles =>
    obtain ⟨rfl, hid, -⟩ := Feedback.create_eq_ok hfeedback
    obtain ⟨rfl, -, -⟩ := Device.create_eq_ok hparticles
    simp [ids]
    omega

theorem Opened.readIndex (h : Opened mode x) : x.feedback.readIndex = 0 := by
  cases h with
  | particlesFirst hparticles hmeanwhile hfeedback =>
    obtain ⟨rfl, -, -⟩ := Feedback.create_eq_ok hfeedback
    rfl
  | feedbackFirst hfeedback hmeanwhile hparticles =>
    obtain ⟨rfl, -, -⟩ := Feedback.create_eq_ok hfeedback
    rfl

end Exchange

/-- Something done to feedback. -/
inductive FeedbackOperation where
  | setMode (mode : AccumulationMode)
  | resize (width height : UInt32)
  | prePass
  | postPass
deriving DecidableEq

namespace FeedbackOperation

/-- What an operation leaves. A resize that fails leaves something too. -/
def perform : FeedbackOperation → Exchange → Exchange
  | setMode mode, x =>
    let (feedback, device) := x.feedback.setMode x.device mode
    { x with feedback, device }
  | resize width height, x =>
    let (feedback, device, _) := x.feedback.resize x.device width height
    { x with feedback, device }
  | prePass, x =>
    let (feedback, device) := x.feedback.prePass x.device
    { x with feedback, device }
  | postPass, x =>
    let (feedback, device, particles) := x.feedback.postPass x.device x.particles
    { feedback, device, particles }

/-- What some operations leave, one after the other. -/
def run (ops : List FeedbackOperation) (x : Exchange) : Exchange :=
  ops.foldl (fun x op => op.perform x) x

/-- Whether an operation is a pre-pass that does something. -/
def fades (op : FeedbackOperation) (x : Exchange) : Bool := op = prePass && x.feedback.isActive

/-- The pre-passes of a run that do something. -/
def fadings : List FeedbackOperation → Exchange → Nat
  | [], _ => 0
  | op :: ops, x => (op.fades x).toNat + fadings ops (op.perform x)

end FeedbackOperation

/-! ## The passes -/

namespace Feedback

theorem readIndex_lt (f : Feedback) : f.readIndex < 2 := by
  unfold readIndex
  split <;> decide

theorem resize_swapped (f : Feedback) (d : Device) (width height : UInt32) :
    (f.resize d width height).1.swapped = f.swapped := by
  have hresized := f.resized d width height
  generalize f.resize d width height = result at hresized ⊢
  cases hresized <;> rfl

theorem prePass_active (f : Feedback) (d : Device) (h : f.mode ≠ .none) :
    ∃ step, FullscreenPass.step? f.mode f.width f.height = some step ∧
      f.prePass d = (f.turned, d.run step [f.history] f.spare) := by
  obtain ⟨step, hstep, -⟩ := FullscreenPass.exists_step h f.width f.height
  exact ⟨step, hstep, by simp [prePass, hstep, turned]⟩

theorem postPass_swapped (f : Feedback) (d : Device) (particles : Framebuffer) :
    (f.postPass d particles).1.swapped = f.swapped := by
  unfold postPass
  split
  · rw [withSpare_eq]
  · rfl

end Feedback

/-- What becomes of framebuffers in an active post-pass: it draws what is in
the caller's hands into the history, mixes both into the spare slot, and
trades the one for the other. -/
structure Exchange.Traded (x y : Exchange) : Prop where
  history : y.feedback.history = x.feedback.history
  spare : y.feedback.spare = x.particles
  particles : y.particles = x.feedback.spare
  calls : y.device.calls.toList = x.device.calls.toList ++
    [.pass .apply [x.particles.id] x.feedback.history.id,
      .pass .composite [x.particles.id, x.feedback.history.id] y.particles.id]

namespace FeedbackOperation

variable {x : Exchange}

/-! ## One operation -/

theorem perform_prePass_idle (h : x.feedback.mode = .none) : prePass.perform x = x := by
  simp [perform, Feedback.prePass, h, FullscreenPass.step?]

theorem perform_postPass_idle (h : x.feedback.mode = .none) : postPass.perform x = x := by
  simp [perform, Feedback.postPass, Feedback.isActive, h]

theorem perform_postPass_active (h : x.feedback.mode ≠ .none) :
    x.Traded (postPass.perform x) := by
  constructor <;>
    simp [perform, Feedback.postPass, Feedback.isActive_iff.2 h, Device.run, Device.record]

/-- **The framebuffers only change places.** -/
theorem perform_ids (op : FeedbackOperation) (x : Exchange) : (op.perform x).ids.Perm x.ids := by
  cases op with
  | setMode mode => simp [perform, Exchange.ids, Feedback.setMode_fst]
  | resize width height =>
    obtain ⟨-, hhistory, hspare, -⟩ := x.feedback.resize_frame x.device width height
    refine ((resize width height).perform x).ids_perm.trans ?_
    simpa [perform, hhistory, hspare] using x.ids_perm.symm
  | prePass =>
    by_cases hmode : x.feedback.mode = .none
    · rw [perform_prePass_idle hmode]
    · obtain ⟨step, -, hpass⟩ := x.feedback.prePass_active x.device hmode
      simp [perform, hpass, Exchange.ids, Feedback.turned]
  | postPass =>
    by_cases hmode : x.feedback.mode = .none
    · rw [perform_postPass_idle hmode]
    · have htraded := perform_postPass_active hmode
      refine (postPass.perform x).ids_perm.trans (List.Perm.trans ?_ x.ids_perm.symm)
      rw [htraded.history, htraded.spare, htraded.particles]
      exact (List.Perm.swap ..).cons _

theorem perform_readIndex (op : FeedbackOperation) (x : Exchange) :
    (op.perform x).feedback.readIndex = (x.feedback.readIndex + (op.fades x).toNat) % 2 := by
  have hsame := Nat.mod_eq_of_lt x.feedback.readIndex_lt
  cases op with
  | setMode mode =>
    simpa [perform, fades, Feedback.setMode_fst, Feedback.readIndex] using hsame.symm
  | resize width height =>
    simpa [perform, fades, Feedback.readIndex, Feedback.resize_swapped] using hsame.symm
  | prePass =>
    by_cases hmode : x.feedback.mode = .none
    · rw [perform_prePass_idle hmode]
      simpa [fades, Feedback.isActive, hmode] using hsame.symm
    · obtain ⟨step, -, hpass⟩ := x.feedback.prePass_active x.device hmode
      cases hswapped : x.feedback.swapped <;>
        simp [perform, fades, hpass, Feedback.isActive, hmode, Feedback.turned, Feedback.readIndex,
          hswapped]
  | postPass =>
    simpa [perform, fades, Feedback.readIndex, Feedback.postPass_swapped] using hsame.symm

/-- **No pass reads what it writes**, when the framebuffers are distinct. -/
theorem perform_calls (h : x.ids.Nodup) (op : FeedbackOperation) :
    ∃ calls, (op.perform x).device.calls.toList = x.device.calls.toList ++ calls ∧
      ∀ call ∈ calls, call.Apart := by
  have hdistinct := x.ids_perm.nodup_iff.1 h
  simp only [List.nodup_cons, List.mem_cons, List.not_mem_nil, or_false, not_or] at hdistinct
  obtain ⟨⟨hspare, hhistory⟩, hparticles, -⟩ := hdistinct
  cases op with
  | setMode mode =>
    refine ⟨_, x.feedback.setMode_calls x.device mode, ?_⟩
    split <;> simp [DeviceCall.Apart]
  | resize width height =>
    obtain ⟨-, -, -, hcalls⟩ := x.feedback.resize_frame x.device width height
    exact ⟨[], by simp [perform, hcalls], by simp⟩
  | prePass =>
    by_cases hmode : x.feedback.mode = .none
    · exact ⟨[], by simp [perform_prePass_idle hmode], by simp⟩
    · obtain ⟨step, -, hpass⟩ := x.feedback.prePass_active x.device hmode
      refine ⟨[.pass step [x.feedback.history.id] x.feedback.spare.id], ?_, ?_⟩
      · simp [perform, hpass, Device.run, Device.record]
      · -- The three framebuffers are different ones, so none is read and written at once.
        simpa [DeviceCall.Apart] using Ne.symm hspare
  | postPass =>
    by_cases hmode : x.feedback.mode = .none
    · exact ⟨[], by simp [perform_postPass_idle hmode], by simp⟩
    · have htraded := perform_postPass_active hmode
      refine ⟨_, htraded.calls, ?_⟩
      simpa [DeviceCall.Apart, htraded.particles] using ⟨hhistory, hparticles, Ne.symm hspare⟩

/-! ## Many operations -/

theorem run_ids (ops : List FeedbackOperation) (x : Exchange) : (run ops x).ids.Perm x.ids := by
  induction ops generalizing x with
  | nil => exact .refl _
  | cons op ops ih => exact (ih (op.perform x)).trans (perform_ids op x)

theorem run_readIndex (ops : List FeedbackOperation) (x : Exchange) :
    (run ops x).feedback.readIndex = (x.feedback.readIndex + fadings ops x) % 2 := by
  induction ops generalizing x with
  | nil => exact (Nat.mod_eq_of_lt x.feedback.readIndex_lt).symm
  | cons op ops ih =>
    refine (ih (op.perform x)).trans ?_
    rw [perform_readIndex, fadings]
    omega

theorem run_calls (h : x.ids.Nodup) (ops : List FeedbackOperation) :
    ∃ calls, (run ops x).device.calls.toList = x.device.calls.toList ++ calls ∧
      ∀ call ∈ calls, call.Apart := by
  induction ops generalizing x with
  | nil => exact ⟨[], by simp [run], by simp⟩
  | cons op ops ih =>
    obtain ⟨calls, hcalls, hapart⟩ := perform_calls h op
    obtain ⟨callsLater, hlater, hapartLater⟩ := ih ((perform_ids op x).nodup_iff.2 h)
    refine ⟨calls ++ callsLater, ?_, List.forall_mem_append.2 ⟨hapart, hapartLater⟩⟩
    rw [← List.append_assoc, ← hcalls]
    exact hlater

/-- What a run leaves of the three framebuffers, and what it has drawn. -/
structure Exchanged (start : Exchange) (ops : List FeedbackOperation) : Prop where
  /-- The framebuffers are the ones there were, in some order. -/
  same : (run ops start).ids.Perm start.ids
  distinct : (run ops start).ids.Nodup
  /-- The slots have been exchanged by the pre-passes and nothing else. -/
  parity : (run ops start).feedback.readIndex = fadings ops start % 2
  /-- Behind what was drawn before there are calls that read nothing they
  write. -/
  apart : ∃ calls, (run ops start).device.calls.toList = start.device.calls.toList ++ calls ∧
    ∀ call ∈ calls, call.Apart
  /-- In an active mode the next post-pass trades the spare slot for what the
  caller has. -/
  traded : (run ops start).feedback.mode ≠ .none →
    (run ops start).Traded (postPass.perform (run ops start))
  /-- Without a mode neither pass does anything. -/
  idle : (run ops start).feedback.mode = .none →
    prePass.perform (run ops start) = run ops start ∧
      postPass.perform (run ops start) = run ops start

/-- **Feedback never reads what it writes**, whatever is done to it in
whatever order. -/
theorem run_exchanged {mode : AccumulationMode} {start : Exchange} (h : start.Opened mode)
    (ops : List FeedbackOperation) : Exchanged start ops where
  same := run_ids ops start
  distinct := (run_ids ops start).nodup_iff.2 h.nodup
  parity := by rw [run_readIndex, h.readIndex, Nat.zero_add]
  apart := run_calls h.nodup ops
  traded := perform_postPass_active
  idle hmode := ⟨perform_prePass_idle hmode, perform_postPass_idle hmode⟩

/-- On a new device, with a change of size inside a frame and a stretch
without a mode. -/
theorem run_exchanged_through_modes :
    ∃ start : Exchange, start.Opened .trails ∧ start.ids = [1, 2, 0] ∧
      Exchanged start
        [.prePass, .resize 64 48, .postPass, .setMode .none, .prePass, .setMode .smear, .postPass,
          .prePass] := by
  let particles : Framebuffer := { id := 0, label := "particles", width := 4, height := 3 }
  let feedback : Feedback :=
    { mode := .trails
      first := { id := 1, label := "accumulation-a", width := 1, height := 1 }
      second := { id := 2, label := "accumulation-b", width := 1, height := 1 } }
  have hparticles : ({} : Device).create "particles" 4 3 =
      .ok ({ nextId := 1, reserved := [(0, 48)] }, particles) := rfl
  have hfeedback : Feedback.create { nextId := 1, reserved := [(0, 48)] } .trails =
      .ok ({ nextId := 3, reserved := [(0, 48), (1, 4), (2, 4)] }, feedback) := rfl
  have hopened := Exchange.Opened.particlesFirst hparticles (Nat.le_refl _) hfeedback
  exact ⟨_, hopened, rfl, run_exchanged hopened _⟩

end FeedbackOperation

end ParticleTimeline
