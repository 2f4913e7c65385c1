import ParticleTimeline.Proofs.Draw.Hooks
/-!
# Which failures a poll reports

A registration that fails is reported when it ends. What a build reports when
it goes on can be read off what its registrations do (`Build.failed`): the
failures of those that end in this poll, in the order of the queue. A poll
reports them and nothing else (`Build.Sound.reports`), whatever becomes of the
build then.
-/

namespace ParticleTimeline

/-- The failure that a registration ends with, if it fails. -/
def Ending.failure? : Ending → Option EffectError
  | .fails error => some error
  | .succeeds | .never => none

namespace Draft

/-- The failures of a queue in one go, up to the first registration that does
not end. -/
def failed (patient : Bool) (d : Draft) : Nat → List Queued → List EffectError
  | _, [] => []
  | n, q :: rest =>
    let asked := q.effect.register (d.request n q.subject)
    if asked.ending.reached patient asked.moves then
      asked.ending.failure?.toList ++ failed patient d (n + 1) rest
    else []

@[simp] theorem failed_after (patient : Bool) (d : Draft) (es : List Enrolment) (n : Nat)
    (queue : List Queued) : (d.after es).failed patient n queue = d.failed patient n queue := by
  induction queue generalizing n with
  | nil => rfl
  | cons q rest ih =>
    have hrequest : (d.after es).request n q.subject = d.request n q.subject := rfl
    simp only [failed, ih, hrequest]

end Draft

namespace Build

/-- The failures that a build reports when it goes on. -/
def failed (patient : Bool) : Build → List EffectError
  | between queue d _ => d.failed patient d.number queue
  | registering queue d o =>
    if o.ending.reached patient o.moves then
      o.ending.failure?.toList ++ d.failed patient (d.number + 1) queue
    else []

variable {patient : Bool}

theorem failed_begin (rest : List Queued) (d : Draft) (s : Stages) (q : Queued) :
    (registering rest d (begin d s q)).failed patient
      = (between (q :: rest) d s).failed patient := rfl

/-- **A poll reports the failures of the registrations that end in it**, in
the order of the queue. -/
theorem Sound.reports {b : Build} (h : b.Sound) (patient : Bool) :
    (b.advance patient).reports = b.failed patient := by
  induction b using induct with
  | nil d s => rfl
  | begun q rest d s ih =>
    rw [advance_between_cons, ih h.begin, failed_begin]
  | ongoing queue d o ih =>
    cases h with
    | @registering _ _ s _ e done hfresh hunder hfaultless hrest =>
      have hcareful := hfaultless s
      rw [advance_registering]
      cases hleft : Move.left? patient o.moves with
      | some rest =>
        obtain ⟨o', hturn, -⟩ :=
          turn_waiting hunder hcareful.once (hunder.uncut_made hcareful patient) hleft
        simp only [hturn, failed, Ending.reached_of_left hleft, Bool.false_eq_true, if_false]
      | none =>
        by_cases hends : e.Ends
        · have hfailure : e.failure? = o.ending.failure? := by
            rw [hunder.ending]
            rfl
          -- What is reported later is reported by a build of its own.
          have hlater := ih (d.after [e]) (e.close s)
            (.between (hfresh.after hunder.number) (by simpa using hrest))
          simp only [failed, Draft.failed_after, Draft.after_number, List.length_cons,
            List.length_nil, Nat.zero_add] at hlater
          simp only [turn_closed hunder hcareful hfresh hleft hends, Polled.since, hlater, failed,
            hunder.reached_of_ends hleft hends, hfailure, if_true]
        · rw [turn_never hunder hcareful.once hcareful.uncut hleft hends]
          cases patient <;>
            simp only [failed, hunder.reached_of_never hends, crash, Bool.false_eq_true, if_false,
              if_true]

end Build

end ParticleTimeline
