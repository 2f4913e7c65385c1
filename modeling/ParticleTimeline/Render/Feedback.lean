import ParticleTimeline.Render.Device
/-!
# Feedback

Earlier frames show through by way of two framebuffers, of which one is read
and the other one written. In an active mode each frame goes like this:
`prePass` fades the history into the write slot and exchanges the two slots;
the particles are drawn into a third framebuffer; `postPass` adds them to
the history, mixes both into the write slot, and trades this slot for the
framebuffer the particles were drawn into. Without a mode nothing happens.
-/

namespace ParticleTimeline

/-- The two slots, and which of them is read. -/
structure Feedback where
  mode : AccumulationMode
  first : Framebuffer
  second : Framebuffer
  /-- Whether the second slot is the one that is read. -/
  swapped : Bool := false
  width : UInt32 := 1
  height : UInt32 := 1
deriving DecidableEq

namespace Feedback

/-- Slots of one pixel each. -/
def create (d : Device) (mode : AccumulationMode) : Except AllocationError (Device × Feedback) := do
  let (d, first) ← d.create "accumulation-a" 1 1
  let (d, second) ← d.create "accumulation-b" 1 1
  return (d, { mode, first, second })

def isActive (f : Feedback) : Bool := f.mode ≠ .none

/-- The index of the slot that is read. -/
def readIndex (f : Feedback) : Nat := if f.swapped then 1 else 0

/-- The slot that is read. -/
def history (f : Feedback) : Framebuffer := if f.swapped then f.second else f.first

/-- The slot that is written next. -/
def spare (f : Feedback) : Framebuffer := if f.swapped then f.first else f.second

/-- Puts a framebuffer into the write slot. -/
def withSpare (f : Feedback) (fb : Framebuffer) : Feedback :=
  if f.swapped then { f with first := fb } else { f with second := fb }

/-- Changes the mode. The slots are cleared when feedback begins, so that
nothing shows from the last time. -/
def setMode (f : Feedback) (d : Device) (mode : AccumulationMode) : Feedback × Device :=
  let cleared (d : Device) := (d.clear f.first ⟨0, 0, 0, 0⟩).clear f.second ⟨0, 0, 0, 0⟩
  if mode = f.mode then (f, d)
  else ({ f with mode }, if f.mode = .none then cleared d else d)

/-- Gives both slots a new size, one after the other; when the second is
refused the first has its new size already. -/
def resize (f : Feedback) (d : Device) (width height : UInt32) :
    Feedback × Device × Option AllocationError :=
  if f.width = width ∧ f.height = height then (f, d, none)
  else
    match d.resize f.first width height with
    | .error e => (f, d, some e)
    | .ok (d, first) =>
      match d.resize f.second width height with
      | .error e => ({ f with first }, d, some e)
      | .ok (d, second) => ({ f with first, second, width, height }, d, none)

/-- Fades the history into the write slot, and exchanges the slots. -/
def prePass (f : Feedback) (d : Device) : Feedback × Device :=
  match FullscreenPass.step? f.mode f.width f.height with
  | some step => ({ f with swapped := !f.swapped }, d.run step [f.history] f.spare)
  | none => (f, d)

/-- Adds the particles to the history, and mixes both. The result comes back
in the place of the particles, ready to be presented. -/
def postPass (f : Feedback) (d : Device) (particles : Framebuffer) :
    Feedback × Device × Framebuffer :=
  if f.isActive then
    let d := d.run .apply [particles] f.history
    let d := d.run .composite [particles, f.history] f.spare
    (f.withSpare particles, d, f.spare)
  else (f, d, particles)

end Feedback

end ParticleTimeline
