import ParticleTimeline.Render.Feedback
/-!
# The slots of the feedback

The slots are known by their roles, which a turn exchanges. A device resizes
a framebuffer without making another one of it (`Device.resize_eq_ok`); the
slots are resized one after the other, unless their size is on record
already, and what this can come to is said once (`Feedback.resized`).
-/

namespace ParticleTimeline

/-! ## Framebuffers of a device -/

namespace Framebuffer

def size (fb : Framebuffer) : UInt32 × UInt32 := (fb.width, fb.height)

end Framebuffer

namespace Device

variable {d d' : Device} {fb fb' : Framebuffer} {width height : UInt32}

/-- What a device was asked between two states. -/
def since (later earlier : Device) : List DeviceCall :=
  later.calls.toList.drop earlier.calls.size

theorem since_eq {calls : List DeviceCall} (h : d'.calls.toList = d.calls.toList ++ calls) :
    d'.since d = calls := by
  simp [since, h]

theorem since_self (h : d'.calls = d.calls) : d'.since d = [] := by
  simp [since, h]

theorem since_trans {d'' : Device} (h : d.calls.toList <+: d'.calls.toList)
    (h' : d'.calls.toList <+: d''.calls.toList) : d''.since d = d'.since d ++ d''.since d' := by
  obtain ⟨calls, hcalls⟩ := h
  obtain ⟨calls', hcalls'⟩ := h'
  rw [since_eq hcalls.symm, since_eq hcalls'.symm]
  refine since_eq ?_
  rw [← hcalls', ← hcalls, List.append_assoc]

theorem reserve_eq_ok {id : Nat} {label : String} (h : d.reserve id label width height = .ok d') :
    d' = { d with reserved := d'.reserved } := by
  unfold reserve at h
  simp only [bind, Except.bind] at h
  cases hbytes : count (bytes width height) with
  | error e => simp [hbytes] at h
  | ok bytes =>
    simp only [hbytes] at h
    cases hothers : count (total (d.reserved.filter (·.1 ≠ id))) with
    | error e => simp only [hothers, reduceCtorEq] at h
    | ok others =>
      simp only [hothers] at h
      cases hafford : d.affords others bytes with
      | error e => simp [hafford] at h
      | ok fits =>
        cases fits with
        | false => simp [hafford, throw, throwThe, MonadExceptOf.throw] at h
        | true =>
          simp only [hafford, if_true, pure, Except.pure, Except.ok.injEq] at h
          rw [← h]

theorem create_eq_ok {label : String} (h : d.create label width height = .ok (d', fb)) :
    fb = { id := d.nextId, label, width := max width 1, height := max height 1 } ∧
      d'.nextId = d.nextId + 1 ∧ d'.calls = d.calls := by
  unfold create at h
  simp only [bind, Except.bind] at h
  cases hreserve : d.reserve d.nextId label (max width 1) (max height 1) with
  | error e => simp [hreserve] at h
  | ok d₁ =>
    simp only [hreserve, pure, Except.pure, Except.ok.injEq, Prod.mk.injEq] at h
    rw [← h.1, ← h.2, reserve_eq_ok hreserve]
    exact ⟨rfl, rfl, rfl⟩

/-- A framebuffer of a new size is the same framebuffer. -/
theorem resize_eq_ok (h : d.resize fb width height = .ok (d', fb')) :
    fb' = { fb with width := max width 1, height := max height 1 } ∧ d'.calls = d.calls := by
  unfold resize at h
  simp only at h
  split at h
  · rename_i hsame
    simp only [Except.ok.injEq, Prod.mk.injEq] at h
    exact ⟨by rw [← h.2]; exact hsame.symm, by rw [← h.1]⟩
  · simp only [bind, Except.bind] at h
    cases hreserve : d.reserve fb.id fb.label (max width 1) (max height 1) with
    | error e => simp [hreserve] at h
    | ok d₁ =>
      simp only [hreserve, pure, Except.pure, Except.ok.injEq, Prod.mk.injEq] at h
      rw [← h.1, ← h.2, reserve_eq_ok hreserve]
      exact ⟨rfl, rfl⟩

end Device

namespace Feedback

/-! ## The roles of the slots -/

/-- The slots in exchanged roles. -/
def turned (f : Feedback) : Feedback := { f with swapped := !f.swapped }

variable (f : Feedback) (fb : Framebuffer)

@[simp] theorem history_turned : f.turned.history = f.spare := by
  cases hswapped : f.swapped <;> simp [turned, history, spare, hswapped]

@[simp] theorem spare_turned : f.turned.spare = f.history := by
  cases hswapped : f.swapped <;> simp [turned, history, spare, hswapped]

@[simp] theorem history_withSpare : (f.withSpare fb).history = f.history := by
  cases hswapped : f.swapped <;> simp [withSpare, history, hswapped]

@[simp] theorem spare_withSpare : (f.withSpare fb).spare = fb := by
  cases hswapped : f.swapped <;> simp [withSpare, spare, hswapped]

theorem withSpare_eq : f.withSpare fb =
    { f with first := (f.withSpare fb).first, second := (f.withSpare fb).second } := by
  cases hswapped : f.swapped <;> simp [withSpare, hswapped]

theorem history_id : f.history.id = f.first.id ∨ f.history.id = f.second.id := by
  cases hswapped : f.swapped <;> simp [history, hswapped]

theorem isActive_iff {f : Feedback} : f.isActive = true ↔ f.mode ≠ .none := by
  simp [isActive]

/-! ## Creating, switching and resizing -/

theorem create_eq_ok {d d' : Device} {mode : AccumulationMode} {f : Feedback}
    (h : create d mode = .ok (d', f)) :
    f = { mode, first := ⟨d.nextId, "accumulation-a", 1, 1⟩,
          second := ⟨d.nextId + 1, "accumulation-b", 1, 1⟩ } ∧
      d'.nextId = d.nextId + 2 ∧ d'.calls = d.calls := by
  simp only [create, bind, Except.bind] at h
  cases hfirst : d.create "accumulation-a" 1 1 with
  | error e => simp [hfirst] at h
  | ok made =>
    obtain ⟨d₁, first⟩ := made
    simp only [hfirst] at h
    cases hsecond : d₁.create "accumulation-b" 1 1 with
    | error e => simp [hsecond] at h
    | ok made =>
      obtain ⟨d₂, second⟩ := made
      simp only [hsecond, pure, Except.pure, Except.ok.injEq, Prod.mk.injEq] at h
      obtain ⟨hslot₁, hid₁, hcalls₁⟩ := Device.create_eq_ok hfirst
      obtain ⟨hslot₂, hid₂, hcalls₂⟩ := Device.create_eq_ok hsecond
      rw [← h.1, ← h.2, hslot₁, hslot₂, hid₁]
      exact ⟨rfl, by omega, hcalls₂.trans hcalls₁⟩

theorem setMode_fst (f : Feedback) (d : Device) (mode : AccumulationMode) :
    (f.setMode d mode).1 = { f with mode } := by
  unfold setMode
  simp only
  split
  · rename_i hsame
    rw [hsame]
  · rfl

/-- Both slots are cleared when feedback begins. -/
theorem setMode_calls (f : Feedback) (d : Device) (mode : AccumulationMode) :
    (f.setMode d mode).2.calls.toList = d.calls.toList ++
      if f.mode = .none ∧ mode ≠ .none then
        [.clear f.first.id ⟨0, 0, 0, 0⟩, .clear f.second.id ⟨0, 0, 0, 0⟩]
      else [] := by
  unfold setMode
  simp only
  by_cases hsame : mode = f.mode
  · simp [hsame]
  · by_cases hnone : f.mode = .none
    · have hmode : mode ≠ .none := fun h => hsame (h.trans hnone.symm)
      simp [hnone, hmode, Device.clear, Device.record]
    · simp [hsame, hnone]

/-- What a resize of the slots comes to: nothing is done, or the device is
asked for one slot after the other. -/
inductive Resized (f : Feedback) (d : Device) (width height : UInt32) :
    Feedback × Device × Option AllocationError → Prop
  | skipped (h : f.width = width ∧ f.height = height) : Resized f d width height (f, d, none)
  | first {e : AllocationError} (h : ¬(f.width = width ∧ f.height = height))
      (hfirst : d.resize f.first width height = .error e) :
      Resized f d width height (f, d, some e)
  | second {e : AllocationError} {d₁ : Device} {first : Framebuffer}
      (h : ¬(f.width = width ∧ f.height = height))
      (hfirst : d.resize f.first width height = .ok (d₁, first))
      (hsecond : d₁.resize f.second width height = .error e) :
      Resized f d width height ({ f with first }, d₁, some e)
  | both {d₁ d₂ : Device} {first second : Framebuffer} (h : ¬(f.width = width ∧ f.height = height))
      (hfirst : d.resize f.first width height = .ok (d₁, first))
      (hsecond : d₁.resize f.second width height = .ok (d₂, second)) :
      Resized f d width height ({ f with first, second, width, height }, d₂, none)

theorem resized (f : Feedback) (d : Device) (width height : UInt32) :
    Resized f d width height (f.resize d width height) := by
  unfold resize
  split
  · exact .skipped ‹_›
  · cases hfirst : d.resize f.first width height with
    | error e => exact .first ‹_› hfirst
    | ok made =>
      obtain ⟨d₁, first⟩ := made
      simp only
      cases hsecond : d₁.resize f.second width height with
      | error e => exact .second ‹_› hfirst hsecond
      | ok made => exact .both ‹_› hfirst hsecond

/-- A new size leaves the slots what they were, and draws nothing. -/
theorem resize_frame (f : Feedback) (d : Device) (width height : UInt32) :
    (f.resize d width height).1.mode = f.mode ∧
      (f.resize d width height).1.history.id = f.history.id ∧
      (f.resize d width height).1.spare.id = f.spare.id ∧
      (f.resize d width height).2.1.calls = d.calls := by
  have hresized := f.resized d width height
  generalize f.resize d width height = result at hresized ⊢
  cases hresized with
  | skipped h => exact ⟨rfl, rfl, rfl, rfl⟩
  | first h hfirst => exact ⟨rfl, rfl, rfl, rfl⟩
  | second h hfirst hsecond =>
    obtain ⟨rfl, hcalls⟩ := Device.resize_eq_ok hfirst
    refine ⟨rfl, ?_, ?_, hcalls⟩ <;> cases hswapped : f.swapped <;> simp [history, spare, hswapped]
  | both h hfirst hsecond =>
    obtain ⟨rfl, hcalls₁⟩ := Device.resize_eq_ok hfirst
    obtain ⟨rfl, hcalls₂⟩ := Device.resize_eq_ok hsecond
    refine ⟨rfl, ?_, ?_, hcalls₂.trans hcalls₁⟩ <;>
      cases hswapped : f.swapped <;> simp [history, spare, hswapped]

end Feedback

/-! ## Steps -/

/-- An active mode has a step, which replaces what it is drawn over. -/
theorem FullscreenPass.exists_step {mode : AccumulationMode} (h : mode ≠ .none)
    (width height : UInt32) : ∃ step, step? mode width height = some step ∧ step.blend = none := by
  cases mode with
  | none => exact absurd rfl h
  | trails => exact ⟨_, rfl, rfl⟩
  | smoothTrails => exact ⟨_, rfl, rfl⟩
  | smear => exact ⟨_, rfl, rfl⟩

end ParticleTimeline
