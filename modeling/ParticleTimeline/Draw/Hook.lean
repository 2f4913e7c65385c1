import ParticleTimeline.Clock
/-!
# Hooks

Effects can ask to be told of every frame while their command is drawn, and
to be told once when it is given up. Frame hooks run in the order they came,
and one that does not want to go on is dropped; teardown hooks run in the
reverse order. What a hook does shows as an event that carries its tag.
-/

namespace ParticleTimeline

/-- A hook that ran. -/
inductive HookEvent where
  | framed (tag : String) (frame : FrameContext)
  | tornDown (tag : String)
deriving DecidableEq

/-- A hook for every frame, as long as it wants to go on. It remembers the
frames it was called in. -/
structure FrameHook where
  tag : String
  /-- Whether it goes on behind a frame, given those before it. -/
  goesOn : (earlier : List FrameContext) → FrameContext → Bool
  /-- The frames it was called in, the latest first. -/
  calls : List FrameContext := []

namespace FrameHook

/-- A hook that never ends. -/
def always (tag : String) : FrameHook := { tag, goesOn := fun _ _ => true }

/-- A hook that ends with the first frame at or after a limit. -/
def upTo (tag : String) (limit : Float) : FrameHook :=
  { tag, goesOn := fun _ f => !decide (f.time ≥ limit) }

/-- What a call leaves of a hook: nothing if it is done. -/
def call (hook : FrameHook) (f : FrameContext) : Option FrameHook :=
  if hook.goesOn hook.calls f then some { hook with calls := f :: hook.calls } else none

end FrameHook

/-- The hooks of a command or of a part of it, oldest first. -/
structure HookList where
  frame : List FrameHook := []
  teardown : List String := []

namespace HookList

def onFrame (h : HookList) (hook : FrameHook) : HookList := { h with frame := h.frame ++ [hook] }

def onTeardown (h : HookList) (tag : String) : HookList :=
  { h with teardown := h.teardown ++ [tag] }

/-- The hooks of one list before those of another. -/
def append (h other : HookList) : HookList where
  frame := h.frame ++ other.frame
  teardown := h.teardown ++ other.teardown

instance : Append HookList := ⟨append⟩

/-- Calls every frame hook once, and drops those that are done. -/
def runFrame (h : HookList) (f : FrameContext) : HookList × List HookEvent :=
  ({ h with frame := h.frame.filterMap (·.call f) }, h.frame.map fun hook => .framed hook.tag f)

/-- Calls the teardown hooks, the newest first. -/
def tearDown (h : HookList) : List HookEvent := h.teardown.reverse.map .tornDown

def isEmpty (h : HookList) : Bool := h.frame.isEmpty && h.teardown.isEmpty

end HookList

end ParticleTimeline
