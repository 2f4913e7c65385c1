/-!
# Reports of failed effects

An effect that fails to register does not stop the build: its failure is
queued, and whoever listens takes the queue, oldest report first. When
nobody listens any more, reports are lost. A reporter can be handed out, so
others may report at any time; what they do shows the next time that the
renderer gets to the queue.
-/

namespace ParticleTimeline

/-- An effect that could not register. -/
structure EffectError where
  effectId : String
  complaint : String
deriving DecidableEq, Repr

def EffectError.message (e : EffectError) : String :=
  "effect '" ++ e.effectId ++ "' failed to register: " ++ e.complaint

/-- The reports nobody has taken yet. -/
structure ReportQueue where
  waiting : List EffectError := []
  /-- Whether anybody will take them. -/
  listening : Bool := true
  /-- What others are going to report, each time before the renderer gets to
  the queue. -/
  others : List (List EffectError) := []
deriving DecidableEq, Repr

namespace ReportQueue

/-- Queues reports. -/
def add (q : ReportQueue) (es : List EffectError) : ReportQueue :=
  if q.listening then { q with waiting := q.waiting ++ es } else q

/-- What others have reported in the meantime comes first. -/
def catchUp (q : ReportQueue) : ReportQueue :=
  { q.add (q.others.headD []) with others := q.others.tail }

def report (q : ReportQueue) (e : EffectError) : ReportQueue := q.catchUp.add [e]

def reportAll (q : ReportQueue) (es : List EffectError) : ReportQueue := es.foldl report q

/-- Takes all reports. -/
def drain (q : ReportQueue) : ReportQueue × List EffectError :=
  ({ q.catchUp with waiting := [] }, q.catchUp.waiting)

/-- Stops listening. -/
def close (_ : ReportQueue) : ReportQueue where
  listening := false

end ReportQueue

end ParticleTimeline
