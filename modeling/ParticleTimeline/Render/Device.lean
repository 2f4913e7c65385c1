import ParticleTimeline.Render.Pass
/-!
# The recording device

A device hands out framebuffers and records what is drawn, instead of
drawing it. A budget limits the bytes of all framebuffers together: four for
every pixel. A request beyond the budget is refused, and one whose bytes
cannot be counted in 64 bits is a fault; both change nothing. So is asking
for the bytes of all framebuffers when 64 bits cannot hold them.
-/

namespace ParticleTimeline

/-- A framebuffer; whoever holds it decides what is drawn into it. -/
structure Framebuffer where
  id : Nat
  label : String
  width : UInt32
  height : UInt32
deriving DecidableEq, Repr

/-- Why a framebuffer cannot be had. -/
inductive AllocationError where
  /-- The budget does not allow it. -/
  | refused (label : String) (width height : UInt32)
  /-- The bytes that would have to be counted are beyond 64 bits. -/
  | uncountable
deriving DecidableEq, Repr

namespace AllocationError

/-- The fault that the error is. -/
def fault? : AllocationError → Option Fault
  | refused .. => none
  | uncountable => some .overflow

def message : AllocationError → String
  | refused label width height =>
    "failed to allocate " ++ toString width.toNat ++ "x" ++ toString height.toNat
      ++ " framebuffer '" ++ label ++ "'"
  | uncountable => "the bytes of the framebuffers cannot be counted"

end AllocationError

/-- Something a device was asked to do. Framebuffers go by their ids. -/
inductive DeviceCall where
  | clear (target : Nat) (colour : Vec4 Float32)
  | draw (target : Nat) (count : UInt32) (uniforms : Table UniformValue)
  | pass (pass : FullscreenPass) (inputs : List Nat) (target : Nat)
  | present (source : Nat)
deriving DecidableEq

/-- A device, with what it was asked to do since somebody last looked. -/
structure Device where
  nextId : Nat := 0
  /-- The bytes of every framebuffer. -/
  reserved : List (Nat × Nat) := []
  budget : Option UInt64 := none
  calls : Array DeviceCall := #[]
  presented : Nat := 0

namespace Device

/-- The bytes of a framebuffer. -/
def bytes (width height : UInt32) : Nat := 4 * (width.toNat * height.toNat)

/-- The bytes of some framebuffers together. -/
def total (reserved : List (Nat × Nat)) : Nat := (reserved.map Prod.snd).foldr (· + ·) 0

/-- A number of bytes, if it can be counted. -/
def count (bytes : Nat) : Except AllocationError Nat :=
  if bytes < UInt64.size then .ok bytes else .error .uncountable

/-- The bytes of all framebuffers. -/
def allocated (d : Device) : Except AllocationError Nat := count (total d.reserved)

/-- Whether a framebuffer fits beside the others. Without a budget every one
does, and it is not counted together with the others here. -/
def affords (d : Device) (others bytes : Nat) : Except AllocationError Bool := do
  match d.budget with
  | some budget => return (← count (others + bytes)) ≤ budget.toNat
  | none => return true

/-- Sets the bytes of a framebuffer, if the budget allows it. -/
def reserve (d : Device) (id : Nat) (label : String) (width height : UInt32) :
    Except AllocationError Device := do
  let bytes ← count (bytes width height)
  let kept := d.reserved.filter (·.1 ≠ id)
  let others ← count (total kept)
  if ← d.affords others bytes then return { d with reserved := kept ++ [(id, bytes)] }
  else throw (.refused label width height)

/-- A new framebuffer, at least one pixel wide and high. -/
def create (d : Device) (label : String) (width height : UInt32) :
    Except AllocationError (Device × Framebuffer) := do
  let fb : Framebuffer := { id := d.nextId, label, width := max width 1, height := max height 1 }
  let d ← d.reserve fb.id label fb.width fb.height
  return ({ d with nextId := d.nextId + 1 }, fb)

/-- Gives a framebuffer a new size, and undefined contents with it. -/
def resize (d : Device) (fb : Framebuffer) (width height : UInt32) :
    Except AllocationError (Device × Framebuffer) :=
  let resized := { fb with width := max width 1, height := max height 1 }
  if resized = fb then .ok (d, fb)
  else do return (← d.reserve fb.id fb.label resized.width resized.height, resized)

def record (d : Device) (call : DeviceCall) : Device := { d with calls := d.calls.push call }

def clear (d : Device) (target : Framebuffer) (colour : Vec4 Float32) : Device :=
  d.record (.clear target.id colour)

def draw (d : Device) (target : Framebuffer) (c : DrawCommand) (uniforms : Table UniformValue) :
    Device :=
  d.record (.draw target.id c.count uniforms)

/-- Runs a pass that samples some framebuffers, in order, into another. -/
def run (d : Device) (p : FullscreenPass) (inputs : List Framebuffer) (target : Framebuffer) :
    Device :=
  d.record (.pass p (inputs.map Framebuffer.id) target.id)

def present (d : Device) (source : Framebuffer) : Device :=
  { d.record (.present source.id) with presented := d.presented + 1 }

/-- Takes the record, and starts a new one. -/
def take (d : Device) : Device × Array DeviceCall := ({ d with calls := #[] }, d.calls)

end Device

end ParticleTimeline
