import ParticleTimeline.Proofs.Render.Screen
/-!
# The sizes of the framebuffers

A renderer asks for a new size of one framebuffer after the other, and any of
them may be refused. What a granted request leaves is said once
(`Renderer.resizeBuffers_granted`): everything has the new size but the slots,
which are passed over when the new size is on record for them.

The sizes agree (`Renderer.Even`) from the beginning, and go on to agree as
long as every request is granted; the framebuffers may change places as they
like. A request that is refused half-way leaves them in disagreement, and the
record with one of them. So a later request may be granted while a slot keeps
an earlier size (`Renderer.resize_sizes`).
-/

namespace ParticleTimeline

/-- The size that a request comes to. -/
def asked (width height : UInt32) : UInt32 × UInt32 := (max width 1, max height 1)

/-- The size on record for the slots. -/
def Feedback.recorded (f : Feedback) : UInt32 × UInt32 := (f.width, f.height)

/-- Both slots have some size, in whichever roles. -/
theorem Feedback.sizes_iff {f : Feedback} {size : UInt32 × UInt32} :
    (f.first.size = size ∧ f.second.size = size) ↔
      f.history.size = size ∧ f.spare.size = size := by
  cases hswapped : f.swapped <;> simp [history, spare, hswapped, and_comm]

theorem asked_max_one (width height : UInt32) :
    asked (max width 1) (max height 1) = asked width height := by
  have hmax : ∀ n : UInt32, max (max n 1) 1 = max n 1 := by
    intro n
    simp only [max]
    split
    · rfl
    · simp
  simp only [asked, hmax]

theorem Feedback.resize_granted {f : Feedback} {d : Device} {width height : UInt32}
    (h : (f.resize d width height).2.2 = none) :
    (f.resize d width height).1.recorded = (width, height) ∧
      ((f.recorded = (width, height) ∧ (f.resize d width height).1 = f) ∨
        (f.recorded ≠ (width, height) ∧
          (f.resize d width height).1.first.size = asked width height ∧
          (f.resize d width height).1.second.size = asked width height)) := by
  have hresized := f.resized d width height
  generalize f.resize d width height = result at h hresized ⊢
  cases hresized with
  | skipped hsame =>
    have hrecorded : f.recorded = (width, height) := Prod.ext hsame.1 hsame.2
    exact ⟨hrecorded, .inl ⟨hrecorded, rfl⟩⟩
  | first hother hfirst => simp at h
  | second hother hfirst hsecond => simp at h
  | both hother hfirst hsecond =>
    obtain ⟨rfl, -⟩ := Device.resize_eq_ok hfirst
    obtain ⟨rfl, -⟩ := Device.resize_eq_ok hsecond
    refine ⟨rfl, .inr ⟨fun hsame => hother (Prod.mk.inj hsame), rfl, rfl⟩⟩

namespace Renderer

variable {r r' : Renderer} {width height : UInt32}

theorem resizeBuffers_eq_granted (h : (r.resizeBuffers width height).2 = none) :
    ∃ device particles,
      (r.feedback.resize r.device (max width 1) (max height 1)).2.2 = none ∧
      Device.resize (r.feedback.resize r.device (max width 1) (max height 1)).2.1 r.particles
        (max width 1) (max height 1) = .ok (device, particles) ∧
      (r.resizeBuffers width height).1 = { r with
        feedback := (r.feedback.resize r.device (max width 1) (max height 1)).1
        device
        particles
        width := max width 1
        height := max height 1 } := by
  unfold resizeBuffers at h ⊢
  rcases hslots : r.feedback.resize r.device (max width 1) (max height 1) with ⟨f, d, refused⟩
  simp only [hslots] at h ⊢
  cases refused with
  | some e => simp at h
  | none =>
    simp only at h ⊢
    cases hparticles : d.resize r.particles (max width 1) (max height 1) with
    | error e => simp [hparticles] at h
    | ok made => exact ⟨made.1, made.2, trivial, rfl, rfl⟩

/-- **What a granted request leaves**: only the slots may be passed over. -/
theorem resizeBuffers_granted (h : (r.resizeBuffers width height).2 = none) :
    (r.resizeBuffers width height).1.particles.size = asked width height ∧
      (r.resizeBuffers width height).1.feedback.recorded = asked width height ∧
      ((r.resizeBuffers width height).1.width, (r.resizeBuffers width height).1.height)
        = asked width height ∧
      ((r.feedback.recorded = asked width height ∧
          (r.resizeBuffers width height).1.feedback = r.feedback) ∨
        (r.feedback.recorded ≠ asked width height ∧
          (r.resizeBuffers width height).1.feedback.first.size = asked width height ∧
          (r.resizeBuffers width height).1.feedback.second.size = asked width height)) := by
  obtain ⟨device, particles, hslots, hparticles, hresized⟩ := resizeBuffers_eq_granted h
  obtain ⟨hrecorded, hsizes⟩ := Feedback.resize_granted hslots
  obtain ⟨rfl, -⟩ := Device.resize_eq_ok hparticles
  rw [hresized]
  rw [asked_max_one] at hsizes
  exact ⟨asked_max_one width height, hrecorded, rfl, hsizes⟩

/-! ## Sizes that agree -/

/-- The framebuffers have the size of the viewport, which is on record. -/
structure Even (r : Renderer) : Prop where
  recorded : r.feedback.recorded = (r.width, r.height)
  history : r.feedback.history.size = (r.width, r.height)
  spare : r.feedback.spare.size = (r.width, r.height)
  particles : r.particles.size = (r.width, r.height)

theorem Even.of_screen (h : r.Even) (hscreen : r'.screen = r.screen) : r'.Even := by
  obtain ⟨-, -, hfeedback, hparticles, hwidth, hheight, -⟩ := screen_eq_iff.1 hscreen
  constructor
  · rw [hfeedback, hwidth, hheight, h.recorded]
  · rw [hfeedback, hwidth, hheight, h.history]
  · rw [hfeedback, hwidth, hheight, h.spare]
  · rw [hparticles, hwidth, hheight, h.particles]

/-- Framebuffers of one size may change places. -/
theorem Even.present (h : r.Even) (moment : FrameContext) : (r.present moment).1.Even := by
  by_cases hmode : r.feedback.mode = .none
  · obtain ⟨hscreen, -⟩ := present_idle hmode moment
    simp only [screen, Screen.mk.injEq] at hscreen
    obtain ⟨-, -, hfeedback, hparticles, hwidth, hheight, -⟩ := hscreen
    constructor
    · rw [hfeedback, hwidth, hheight, h.recorded]
    · rw [hfeedback, hwidth, hheight, h.history]
    · rw [hfeedback, hwidth, hheight, h.spare]
    · rw [hparticles, hwidth, hheight, h.particles]
  · obtain ⟨hscreen, -⟩ := present_active hmode moment
    simp only [screen, Screen.mk.injEq] at hscreen
    obtain ⟨-, -, hfeedback, hparticles, hwidth, hheight, -⟩ := hscreen
    constructor
    · rw [hfeedback, hwidth, hheight, Feedback.withSpare_eq]
      exact h.recorded
    · rw [hfeedback, hwidth, hheight, Feedback.history_withSpare, Feedback.history_turned, h.spare]
    · rw [hfeedback, hwidth, hheight, Feedback.spare_withSpare, h.particles]
    · rw [hparticles, hwidth, hheight, h.history]

/-- A granted request keeps sizes that agree in agreement. -/
theorem Even.resizeBuffers (h : r.Even) (hgranted : (r.resizeBuffers width height).2 = none) :
    (r.resizeBuffers width height).1.Even := by
  obtain ⟨hparticles, hrecorded, hviewport, hslots⟩ := resizeBuffers_granted hgranted
  have hsizes : (r.resizeBuffers width height).1.feedback.history.size = asked width height ∧
      (r.resizeBuffers width height).1.feedback.spare.size = asked width height := by
    rcases hslots with ⟨hsame, hfeedback⟩ | ⟨-, hfirst, hsecond⟩
    · rw [hfeedback, h.history, h.spare, ← h.recorded, hsame]
      exact ⟨rfl, rfl⟩
    · exact Feedback.sizes_iff.1 ⟨hfirst, hsecond⟩
  exact ⟨hrecorded.trans hviewport.symm, hsizes.1.trans hviewport.symm,
    hsizes.2.trans hviewport.symm, hparticles.trans hviewport.symm⟩

theorem Fresh.even {device : Device} {timeline : TimelineConfig} (h : r.Fresh device timeline) :
    r.Even := by
  have hscreen := h.screen
  simp only [Renderer.screen, Screen.mk.injEq] at hscreen
  obtain ⟨-, -, hfeedback, hparticles, hwidth, hheight, -⟩ := hscreen
  constructor
  · rw [hfeedback, hwidth, hheight]
    rfl
  · rw [hfeedback, hwidth, hheight]
    rfl
  · rw [hfeedback, hwidth, hheight]
    rfl
  · rw [hparticles, hwidth, hheight]
    rfl

end Renderer

namespace Operation

open Renderer

/-- A request for a new size is granted. -/
def Granted : Operation → Renderer → Prop
  | resize width height, r => (r.resizeBuffers width height).2 = none
  | _, _ => True

/-- Every request for a new size is granted along a history. -/
def AllGranted : List Operation → Renderer → Prop
  | [], _ => True
  | op :: ops, r => op.Granted r ∧ ∀ r', op.perform r = .ok r' → AllGranted ops r'

variable {op : Operation} {ops : List Operation} {r r' : Renderer}

theorem perform_even (hperform : op.perform r = .ok r') (hgranted : op.Granted r) (h : r.Even) :
    r'.Even := by
  cases perform_leaves hperform with
  | kept hseen hscreen => exact h.of_screen hscreen
  | switched hscreen =>
    simp only [Renderer.screen, Renderer.switched, Screen.mk.injEq, Feedback.setMode_fst]
      at hscreen
    obtain ⟨-, -, hfeedback, hparticles, hwidth, hheight, -⟩ := hscreen
    constructor
    · rw [hfeedback, hwidth, hheight]
      exact h.recorded
    · rw [hfeedback, hwidth, hheight]
      exact h.history
    · rw [hfeedback, hwidth, hheight]
      exact h.spare
    · rw [hparticles, hwidth, hheight, h.particles]
  | resized width height r => exact h.resizeBuffers hgranted
  | @framed now r x moment report hscreen hframe hdrew => exact (h.of_screen hscreen).present moment

/-- **Sizes agree as long as every request is granted.** -/
theorem run_even (hrun : run ops r = .ok r') (hgranted : AllGranted ops r) (h : r.Even) :
    r'.Even := by
  induction ops generalizing r with
  | nil =>
    obtain rfl := Except.ok.inj hrun
    exact h
  | cons op ops ih =>
    simp only [run] at hrun
    cases hperform : op.perform r with
    | error crash => simp [hperform] at hrun
    | ok r₁ =>
      simp only [hperform] at hrun
      exact ih hrun (hgranted.2 r₁ hperform) (perform_even hperform hgranted.1 h)

end Operation

namespace Renderer

open Operation (run AllGranted)

variable {device : Device} {registry : Registry} {timeline : TimelineConfig} {r r' r'' : Renderer}
variable {ops : List Operation} {width height : UInt32}

/-- **What a granted request comes to.** After any history, the framebuffer of
the particles, the record and the viewport of the next frame have the new
size. The slots have it too unless it was on record for them while they had
another one; and that does not come about as long as every request before was
granted. -/
theorem resize_sizes (hcreate : create device registry timeline = .ok (.ok r))
    (hrun : run ops r = .ok r') (hresize : r'.resize width height = .ok (r'', none)) :
    r''.particles.size = asked width height ∧ r''.feedback.recorded = asked width height ∧
      (r''.moment.width, r''.moment.height) = asked width height ∧
      ((r''.feedback.first.size = asked width height ∧
          r''.feedback.second.size = asked width height) ↔
        r'.feedback.recorded ≠ asked width height ∨
          (r'.feedback.first.size = asked width height ∧
            r'.feedback.second.size = asked width height)) ∧
      (AllGranted ops r → r''.feedback.first.size = asked width height ∧
        r''.feedback.second.size = asked width height) := by
  have hgranted : (r'.resizeBuffers width height).2 = none ∧
      r'' = (r'.resizeBuffers width height).1 := by
    simp only [resize] at hresize
    split at hresize
    · simp at hresize
    · simp only [Except.ok.injEq, Prod.mk.injEq] at hresize
      exact ⟨hresize.2, hresize.1.symm⟩
  obtain ⟨hgranted, rfl⟩ := hgranted
  obtain ⟨hparticles, hrecorded, hviewport, hslots⟩ := resizeBuffers_granted hgranted
  refine ⟨hparticles, hrecorded, hviewport, ?_, fun hall => ?_⟩
  · rcases hslots with ⟨hsame, hfeedback⟩ | ⟨hother, hsizes⟩
    · rw [hfeedback]
      exact ⟨.inr, fun h => h.resolve_left fun hother => hother hsame⟩
    · exact ⟨fun _ => .inl hother, fun _ => hsizes⟩
  · -- Where everything was granted, the recorded size was never wrong.
    have hstart := (fresh_of_create hcreate).even
    have heven := (Operation.run_even hrun hall hstart).resizeBuffers hgranted
    exact Feedback.sizes_iff.2 ⟨heven.history.trans hviewport, heven.spare.trans hviewport⟩

/-- A request is refused when the first slot has its new size already; the
next one, for a size that is not on record, brings all sizes into agreement
again. -/
theorem resize_sizes_after_refusal :
    ∃ r r' r'', create { budget := some 76 } (.builtIn []) (.still .none) = .ok (.ok r) ∧
      run [.resize 4 4] r = .ok r' ∧ r'.feedback.first.size = (4, 4) ∧
      r'.resize 2 1 = .ok (r'', none) ∧ r''.feedback.first.size = (2, 1) ∧
      r''.feedback.second.size = (2, 1) ∧ r''.particles.size = (2, 1) := by
  have hcomputed : ∃ r r',
      create { budget := some 76 } (.builtIn []) (.still .none) = .ok (.ok r) ∧
      run [.resize 4 4] r = .ok r' ∧
      (r'.feedback.first.size == (4, 4) && r'.feedback.recorded == (1, 1)
        && (r'.resizeBuffers 2 1).2.isNone) = true :=
    exists_of_computed (by decide +kernel)
  obtain ⟨r, r', hcreate, hrun, hlast⟩ := hcomputed
  simp only [Bool.and_eq_true, beq_iff_eq, Option.isNone_iff_eq_none] at hlast
  obtain ⟨⟨hfirst, hrecorded⟩, hgranted⟩ := hlast
  have hresize : r'.resize 2 1 = .ok ((r'.resizeBuffers 2 1).1, none) := by
    simp [resize, hgranted]
  obtain ⟨hparticles, -, -, hslots, -⟩ := resize_sizes hcreate hrun hresize
  have hsizes := hslots.2 (.inl (by rw [hrecorded]; decide))
  exact ⟨r, r', _, hcreate, hrun, hfirst, hresize, hsizes.1, hsizes.2, hparticles⟩

/-- A request for the size on record passes over a slot that a refused request
has left with another one. -/
theorem resize_passes_over_slot :
    ∃ r r' r'', create { budget := some 76 } (.builtIn []) (.still .none) = .ok (.ok r) ∧
      run [.resize 4 4] r = .ok r' ∧ r'.resize 1 1 = .ok (r'', none) ∧
      r''.feedback.first.size = (4, 4) ∧ (4, 4) ≠ asked 1 1 := by
  have hcomputed : ∃ r r',
      create { budget := some 76 } (.builtIn []) (.still .none) = .ok (.ok r) ∧
      run [.resize 4 4] r = .ok r' ∧
      ((r'.resizeBuffers 1 1).2.isNone
        && (r'.resizeBuffers 1 1).1.feedback.first.size == (4, 4)) = true :=
    exists_of_computed (by decide +kernel)
  obtain ⟨r, r', hcreate, hrun, hlast⟩ := hcomputed
  simp only [Bool.and_eq_true, beq_iff_eq, Option.isNone_iff_eq_none] at hlast
  obtain ⟨hgranted, hfirst⟩ := hlast
  exact ⟨r, r', _, hcreate, hrun, by simp [resize, hgranted], hfirst, by decide⟩

end Renderer

end ParticleTimeline
