import ParticleTimeline.Draw.Command
/-!
# The slot of the command that is drawn

Every build takes a ticket first, and only the ticket taken last may install
its command. A command that comes too late is torn down instead, and so is
the one that a newer command replaces.
-/

namespace ParticleTimeline

/-- The right to install, by its generation. -/
structure BuildTicket where
  generation : Nat
deriving DecidableEq, Repr

/-- The command being drawn, if there is one. -/
structure CommandSlot where
  active : Option DrawCommand := none
  /-- The generation of the last ticket. -/
  latest : Nat := 0
  /-- The generation that was installed last. -/
  installed : Nat := 0

namespace CommandSlot

/-- Issues a ticket; all earlier ones become stale. -/
def begin (s : CommandSlot) : CommandSlot × BuildTicket :=
  ({ s with latest := s.latest + 1 }, ⟨s.latest + 1⟩)

def isCurrent (s : CommandSlot) (t : BuildTicket) : Bool := t.generation = s.latest

/-- Installs a command unless its ticket is stale; says whether it did. -/
def install (s : CommandSlot) (t : BuildTicket) (c : DrawCommand) :
    CommandSlot × Bool × List HookEvent :=
  if s.isCurrent t then
    ({ s with active := some c, installed := t.generation }, true,
      s.active.toList.flatMap DrawCommand.tearDown)
  else (s, false, c.tearDown)

def runFrameHooks (s : CommandSlot) (frame : FrameContext) : CommandSlot × List HookEvent :=
  match s.active with
  | some c =>
    let (c, events) := c.runFrameHooks frame
    ({ s with active := some c }, events)
  | none => (s, [])

/-- Gives up the active command. -/
def clear (s : CommandSlot) : CommandSlot × List HookEvent :=
  ({ s with active := none }, s.active.toList.flatMap DrawCommand.tearDown)

end CommandSlot

end ParticleTimeline
