/-!
# Faults

A fault is an operation that does not return: a broken promise of the caller
that stops the run on the spot, or a loop without an end. What the operation
had already done when it struck stays done, which is why operations that can
fault say what they leave behind.
-/

namespace ParticleTimeline

/-- Why an operation does not return. -/
inductive Fault where
  /-- One name was bound twice in one namespace; none is the shared one. -/
  | boundTwice (name : String) (namespaceId : Option Nat)
  /-- Two bindings came to the same name in a table. -/
  | nameCollision (name : String)
  /-- A number was to be held between bounds that are the wrong way round. -/
  | invertedBounds
  /-- A number was to be drawn from a range that holds none. -/
  | emptyRange
  /-- A text was to be cut inside a character. -/
  | splitCharacter
  /-- A count went beyond the word that holds it. -/
  | overflow
  /-- The operation would go on for ever. -/
  | endless
deriving DecidableEq, Repr

/-- The message of a fault that has one. -/
def Fault.message? : Fault → Option String
  | boundTwice name none =>
    some ("binding '" ++ name ++ "' registered twice in namespace None")
  | boundTwice name (some id) =>
    some ("binding '" ++ name ++ "' registered twice in namespace Some("
      ++ toString id ++ ")")
  | nameCollision name => some ("namespace collision on '" ++ name ++ "'")
  | _ => none

end ParticleTimeline
