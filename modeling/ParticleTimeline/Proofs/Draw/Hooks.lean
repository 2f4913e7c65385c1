import ParticleTimeline.Proofs.Draw.Build
/-!
# Where teardown hooks are

A teardown hook is put down by a move of some registration, and from then on
a build holds it: with the registration under way, or with the draft once the
registration has stood (`Build.held`). A poll puts down the hooks of the
moves that it makes (`Build.laid`), and whatever it comes to, every hook that
the build held or was given has either run by then or is held by what the
build has become (`Build.Sound.conserved`). Giving a build up runs the hooks
that it holds.
-/

namespace ParticleTimeline

/-! ## Hooks that ran -/

/-- The tag of a teardown hook that ran. -/
def HookEvent.torn? : HookEvent → Option String
  | .tornDown tag => some tag
  | .framed .. => none

/-- The teardown hooks among some events, in the order they ran. -/
def torn (events : List HookEvent) : List String := events.filterMap HookEvent.torn?

@[simp] theorem torn_nil : torn [] = [] := rfl

@[simp] theorem torn_append (es fs : List HookEvent) : torn (es ++ fs) = torn es ++ torn fs :=
  List.filterMap_append

@[simp] theorem torn_tearDown (h : HookList) : torn h.tearDown = h.teardown.reverse := by
  simp [torn, HookList.tearDown, HookEvent.torn?, List.filterMap_map, Function.comp_def]

/-! ## Hooks that are put down -/

namespace Move

/-- The teardown hooks that some moves put down in one go. -/
def laid (patient : Bool) (ms : List Move) : List String :=
  (made patient ms).filterMap Action.teardown?

end Move

/-- Whether a registration ends that makes some moves in one go. -/
def Ending.reached (patient : Bool) (ms : List Move) : Ending → Bool
  | .succeeds | .fails _ => (Move.left? patient ms).isNone
  | .never => false

theorem Ending.reached_of_left {patient : Bool} {ms rest : List Move} {ending : Ending}
    (h : Move.left? patient ms = some rest) : ending.reached patient ms = false := by
  cases ending <;> simp [reached, h]

namespace Draft

/-- The teardown hooks that a queue puts down in one go, up to the first
registration that does not end. -/
def laid (patient : Bool) (d : Draft) : Nat → List Queued → List String
  | _, [] => []
  | n, q :: rest =>
    let asked := q.effect.register (d.request n q.subject)
    Move.laid patient asked.moves
      ++ if asked.ending.reached patient asked.moves then laid patient d (n + 1) rest else []

@[simp] theorem laid_after (patient : Bool) (d : Draft) (es : List Enrolment) (n : Nat)
    (queue : List Queued) : (d.after es).laid patient n queue = d.laid patient n queue := by
  induction queue generalizing n with
  | nil => rfl
  | cons q rest ih =>
    have hrequest : (d.after es).request n q.subject = d.request n q.subject := rfl
    simp only [laid, ih, hrequest]

end Draft

/-- The hooks of a registration that has ended have run, or the draft has
taken them over. -/
theorem Enrolment.torn_events (e : Enrolment) (tag : String) :
    (torn e.events).count tag + e.hooks.teardown.count tag
      = (e.actions.filterMap Action.teardown?).count tag := by
  cases hstands : e.stands with
  | true => simp [events, hooks, hstands, Action.hooks]
  | false => simp [events, hooks, hstands, Action.hooks]

theorem Draft.after_teardown (d : Draft) (e : Enrolment) :
    (d.after [e]).hooks.teardown = d.hooks.teardown ++ e.hooks.teardown := by
  simp [Draft.after, HookList.concat]

namespace Build

/-- The teardown hooks that a build puts down when it goes on. -/
def laid (patient : Bool) : Build → List String
  | between queue d _ => d.laid patient d.number queue
  | registering queue d o =>
    Move.laid patient o.moves
      ++ if o.ending.reached patient o.moves then d.laid patient (d.number + 1) queue else []

/-- The teardown hooks that a build holds. -/
def held : Build → List String
  | between _ d _ => d.hooks.teardown
  | registering _ d o => d.hooks.teardown ++ o.contribution.hooks.teardown

end Build

/-- The teardown hooks that what a build has come to holds. -/
def BuildOutcome.held : BuildOutcome → List String
  | .finished command => command.hooks.teardown
  | .suspended build => build.held
  | .crashed _ => []

namespace Build

variable {patient : Bool}

/-- Giving up a build runs all that it holds. -/
theorem torn_abandon (b : Build) (tag : String) :
    (torn b.abandon).count tag = b.held.count tag := by
  cases b with
  | between queue d s => simp [abandon, held]
  | registering queue d o =>
    simp only [abandon, held, torn_append, torn_tearDown, List.count_append, List.count_reverse]
    omega

theorem held_begin (rest : List Queued) (d : Draft) (s : Stages) (q : Queued) :
    (registering rest d (begin d s q)).held = (between (q :: rest) d s).held := by
  simp [held, begin, Contribution.start]

theorem laid_begin (rest : List Queued) (d : Draft) (s : Stages) (q : Queued) :
    (registering rest d (begin d s q)).laid patient = (between (q :: rest) d s).laid patient := rfl

theorem Underway.teardown {d : Draft} {s : Stages} {e : Enrolment} {done : List Action}
    {o : Ongoing} (h : Underway d s e done o) :
    o.contribution.hooks.teardown = done.filterMap Action.teardown? := by
  rw [h.contribution]
  rfl

theorem Underway.reached_of_ends {d : Draft} {s : Stages} {e : Enrolment} {done : List Action}
    {o : Ongoing} (h : Underway d s e done o) (hleft : Move.left? patient o.moves = none)
    (hends : e.Ends) : o.ending.reached patient o.moves = true := by
  rw [h.ending]
  cases hending : e.registration.ending with
  | succeeds => simp [Ending.reached, hleft]
  | fails error => simp [Ending.reached, hleft]
  | never => exact absurd hending hends

theorem Underway.reached_of_never {d : Draft} {s : Stages} {e : Enrolment} {done : List Action}
    {o : Ongoing} (h : Underway d s e done o) (hnever : ¬ e.Ends) :
    o.ending.reached patient o.moves = false := by
  rw [h.ending, Classical.not_not.1 hnever]
  rfl

/-- **No hook is lost or run twice in a poll.** What a build held or was given
by its registrations has run, or is held by what the build has come to. -/
theorem Sound.conserved {b : Build} (h : b.Sound) (patient : Bool) (tag : String) :
    (torn (b.advance patient).events).count tag + (b.advance patient).outcome.held.count tag
      = b.held.count tag + (b.laid patient).count tag := by
  induction b using induct with
  | nil d s =>
    simp [Build.advance, proceed, assemble, BuildOutcome.held, held, laid, Draft.laid]
  | begun q rest d s ih =>
    rw [advance_between_cons, ih h.begin, held_begin, laid_begin]
  | ongoing queue d o ih =>
    cases h with
    | @registering _ _ s _ e done hfresh hunder hfaultless hrest =>
      have hcareful := hfaultless s
      have hteardown := hunder.teardown
      rw [advance_registering]
      cases hleft : Move.left? patient o.moves with
      | some rest =>
        -- The build waits: the registration holds what it has put down.
        obtain ⟨o', hturn, hunder'⟩ :=
          turn_waiting hunder hcareful.once (hunder.uncut_made hcareful patient) hleft
        have hteardown' := hunder'.teardown
        have hreached : o.ending.reached patient o.moves = false := Ending.reached_of_left hleft
        simp only [hturn, BuildOutcome.held, held, laid, hteardown, hteardown', hreached,
          Move.laid, torn_nil, List.filterMap_append, List.count_append, List.count_nil,
          Bool.false_eq_true, if_false]
        omega
      | none =>
        -- Nothing holds the registration up: all its hooks have been put down.
        have hall : done ++ Move.made patient o.moves = e.actions := by
          rw [Move.made_of_left?_eq_none hleft, hunder.actions]
        have hcount : (e.actions.filterMap Action.teardown?).count tag
            = (done.filterMap Action.teardown?).count tag
              + (Move.laid patient o.moves).count tag := by
          rw [← hall, List.filterMap_append, List.count_append, Move.laid]
        by_cases hends : e.Ends
        · have hreached := hunder.reached_of_ends hleft hends
          -- It ends, so its hooks have run or are the draft's.
          have hlater := ih (d.after [e]) (e.close s)
            (.between (hfresh.after hunder.number) (by simpa using hrest))
          have hsettled := e.torn_events tag
          simp only [held, laid, Draft.after_teardown, Draft.laid_after, Draft.after_number,
            List.length_cons, List.length_nil, Nat.zero_add, List.count_append] at hlater
          simp only [turn_closed hunder hcareful hfresh hleft hends, Polled.since, held, laid,
            hteardown, hreached, torn_append, List.count_append, if_true]
          omega
        · rw [turn_never hunder hcareful.once hcareful.uncut hleft hends]
          have hreached : o.ending.reached patient o.moves = false :=
            hunder.reached_of_never hends
          cases patient with
          | true =>
            simp only [if_true, crash, torn_append, torn_tearDown, BuildOutcome.held, held, laid,
              hteardown, hreached, Action.hooks, List.count_append, List.count_reverse, hcount,
              List.count_nil, Bool.false_eq_true, if_false]
            omega
          | false =>
            simp only [BuildOutcome.held, held, laid, hteardown, hreached, Contribution.of,
              Action.hooks, torn_nil, List.count_append, hcount, List.count_nil,
              Bool.false_eq_true, if_false]
            omega

end Build

end ParticleTimeline
