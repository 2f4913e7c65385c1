import ParticleTimeline.Proofs.Draw.Command
import ParticleTimeline.Proofs.Draw.Hooks
import ParticleTimeline.Proofs.Draw.Slot
/-!
# The course of a build

A build opens the block of one registration after the other, waits, and closes
the block; `Build.Course` is every point that it comes through on the way, with
the hooks that have run by then. A poll, and a wait for the end, follow the
course (`Course.advance`). At every point the build holds the hooks of the
registrations that have stood and of the one under way, in the order they were
put down, and those of the failed ones have run (`Course.at`). So giving the
build up tears down in the reverse order, and so does giving up the command
that it finishes with (`Course.teardown_reversed`).
-/

namespace ParticleTimeline

/-! ## The hooks of a registration -/

namespace Enrolment

/-- The teardown hooks that a registration puts down, in order. -/
def laid (e : Enrolment) : List String := e.actions.filterMap Action.teardown?

/-- The hooks of the registrations that stand, in the order they were put
down. -/
def kept (es : List Enrolment) : List String := (es.filter stands).flatMap laid

/-- The hooks of the registrations that do not, those of each backwards. -/
def undone (es : List Enrolment) : List String :=
  (es.filter (!·.stands)).flatMap fun e => e.laid.reverse

theorem torn_flatMap_events (es : List Enrolment) : torn (es.flatMap events) = undone es := by
  induction es with
  | nil => rfl
  | cons e es ih =>
    rw [List.flatMap_cons, torn_append, ih]
    cases hstands : e.stands with
    | true => simp [undone, events, hstands]
    | false => simp [undone, events, hstands, Action.hooks, laid]

theorem flatMap_teardown_hooks (es : List Enrolment) :
    (es.flatMap fun e => e.hooks.teardown) = kept es := by
  induction es with
  | nil => rfl
  | cons e es ih =>
    rw [List.flatMap_cons, ih]
    cases hstands : e.stands with
    | true => simp [kept, hooks, hstands, Action.hooks, laid]
    | false => simp [kept, hooks, hstands]

end Enrolment

theorem Draft.teardown_after (d : Draft) (es : List Enrolment) :
    (d.after es).hooks.teardown = d.hooks.teardown ++ Enrolment.kept es := by
  rw [← Enrolment.flatMap_teardown_hooks]
  simp [Draft.after, HookList.concat, List.flatMap_map]

theorem Draft.after_concat (d : Draft) (es : List Enrolment) (e : Enrolment) :
    d.after (es ++ [e]) = (d.after es).after [e] := by
  simp only [after, List.flatMap_append, Table.insertAll_append, List.map_append,
    List.length_append]
  congr 1
  ext1 <;> simp [HookList.concat]

namespace Build

/-! ## The points of a build -/

/-- The points that a build comes through, with the hooks that have run on the
way, oldest first. -/
inductive Course (b : Build) : List HookEvent → Build → Prop
  | here : Course b [] b
  /-- The block of the next registration is opened, and its effect is asked. -/
  | opens {events : List HookEvent} {q : Queued} {rest : List Queued} {d : Draft} {s : Stages}
      (h : Course b events (.between (q :: rest) d s)) :
      Course b events (.registering rest d (begin d s q))
  /-- The registration goes on to its next wait. -/
  | waits {events : List HookEvent} {queue : List Queued} {d : Draft} {o o' : Ongoing}
      {patient : Bool} (h : Course b events (.registering queue d o))
      (hturn : turn patient d o = .suspended o') : Course b events (.registering queue d o')
  /-- The registration ends, and its block is closed. -/
  | closes {events events' : List HookEvent} {reports : List EffectError} {queue : List Queued}
      {d d' : Draft} {s' : Stages} {o : Ongoing} {patient : Bool}
      (h : Course b events (.registering queue d o))
      (hturn : turn patient d o = .closed d' s' events' reports) :
      Course b (events ++ events') (.between queue d' s')

variable {b left : Build} {events : List HookEvent}

/-- **A poll follows the course**, and so does waiting for the end. -/
theorem Course.advance (h : Course b events left) (patient : Bool) :
    match (left.advance patient).outcome with
    | .suspended left' => Course b (events ++ (left.advance patient).events) left'
    | .finished command => ∃ d s, command = assemble d s ∧
        Course b (events ++ (left.advance patient).events) (.between [] d s)
    | .crashed _ => True := by
  induction left using induct generalizing events with
  | nil d s => exact ⟨d, s, rfl, by simpa [Build.advance, proceed] using h⟩
  | begun q rest d s ih => exact ih h.opens
  | ongoing queue d o ih =>
    rw [advance_registering]
    cases hturn : turn patient d o with
    | closed d' s' events' reports =>
      have hlater := ih d' s' (h.closes hturn)
      simpa only [Polled.since, List.append_assoc] using hlater
    | suspended o' => simpa using h.waits hturn
    | crashed fault hooks => trivial

/-! ## What has become of the roll -/

/-- How far a build has got with its roll: these registrations have ended, and
of the one under way these actions have been made. -/
inductive At (first : Draft) (roll : List Enrolment) :
    List Enrolment → List Action → Build → Prop
  | between {ended : List Enrolment} {queue : List Queued} {s : Stages}
      (hroll : roll = ended ++ first.enrol (first.number + ended.length) queue) :
      At first roll ended [] (.between queue (first.after ended) s)
  | registering {ended : List Enrolment} {queue : List Queued} {s : Stages} {e : Enrolment}
      {done : List Action} {o : Ongoing}
      (hroll : roll = ended ++ e :: first.enrol (first.number + ended.length + 1) queue)
      (hunder : Underway (first.after ended) s e done o) :
      At first roll ended done (.registering queue (first.after ended) o)

/-- The draft that a build works on. -/
def draft : Build → Draft
  | between _ d _ | registering _ d _ => d

variable {first : Draft} {roll ended : List Enrolment} {done : List Action}

/-- **Where a build is in its course.** Some registrations have ended, those
that failed have been torn down before anything else began, and nothing else
has been. -/
theorem Course.at {queue : List Queued} {s : Stages}
    (h : Course (between queue first s) events left) (hfresh : first.Fresh)
    (hfaultless : ∀ e ∈ first.enrol first.number queue, e.registration.Faultless) :
    ∃ ended done, At first (first.enrol first.number queue) ended done left ∧ left.draft.Fresh ∧
      (∀ e ∈ ended, e.Ends) ∧ torn events = Enrolment.undone ended := by
  simp only [← Enrolment.torn_flatMap_events]
  -- The induction follows the course from its beginning, one turn after the other.
  induction h with
  | here =>
    have hbegins : At first (first.enrol first.number queue) [] []
        (.between queue (first.after []) s) := .between rfl
    rw [Draft.after_nil] at hbegins
    exact ⟨[], [], hbegins, hfresh, nofun, rfl⟩
  | @opens events q rest d s h ih =>
    obtain ⟨ended, done, hat, hfresh, hends, htorn⟩ := ih
    cases hat with
    | between hroll =>
      have hunder := begin_underway (first.after ended) s q
      exact ⟨ended, [], .registering hroll hunder, hfresh, hends, htorn⟩
  | @waits events rest d o o' patient h hturn ih =>
    obtain ⟨ended, done, hat, hfresh, hends, htorn⟩ := ih
    cases hat with
    | @registering _ _ e _ _ hroll hunder =>
      have honce := (hfaultless e (by simp [hroll]) .empty).once
      rcases hunder.turn_cases honce hfresh patient with
        ⟨-, o'', done', hturn', hunder'⟩ | ⟨-, hturn'⟩ | ⟨-, hturn'⟩ | ⟨-, hooks, hturn'⟩
      · obtain rfl : o' = o'' := Turn.suspended.inj (hturn.symm.trans hturn')
        exact ⟨ended, done', .registering hroll hunder', hfresh, hends, htorn⟩
      · simp [hturn'] at hturn
      · simp [hturn'] at hturn
      · simp [hturn'] at hturn
  | @closes events events' reports rest d d' s' o patient h hturn ih =>
    obtain ⟨ended, done, hat, hfresh, hends, htorn⟩ := ih
    cases hat with
    | @registering _ _ e _ _ hroll hunder =>
      have honce := (hfaultless e (by simp [hroll]) .empty).once
      rcases hunder.turn_cases honce hfresh patient with
        ⟨-, o'', done', hturn', -⟩ | ⟨hends', hturn'⟩ | ⟨-, hturn'⟩ | ⟨-, hooks, hturn'⟩
      · simp [hturn'] at hturn
      · -- The registration that was under way is the last one that has ended now.
        obtain ⟨rfl, rfl, rfl, -⟩ := Turn.closed.inj (hturn.symm.trans hturn')
        rw [← Draft.after_concat]
        refine ⟨ended ++ [e], [], .between ?_, ?_, fun e' he' => ?_, ?_⟩
        · simpa [Nat.add_assoc] using hroll
        · rw [draft, Draft.after_concat]
          exact Draft.Fresh.after hfresh hunder.number
        · rcases List.mem_append.1 he' with he' | he'
          · exact hends e' he'
          · obtain rfl := List.mem_singleton.1 he'
            exact hends'
        · simp [htorn]
      · simp [hturn'] at hturn
      · simp [hturn'] at hturn

/-- Giving up a build tears down what it holds: what the registration under
way has put down, and before that those that stood, all of it backwards. -/
theorem At.torn_abandon (h : At first roll ended done left) (hfirst : first.hooks.teardown = []) :
    torn left.abandon = (Enrolment.kept ended ++ done.filterMap Action.teardown?).reverse := by
  cases h with
  | between hroll => simp [abandon, Draft.teardown_after, hfirst]
  | registering hroll hunder =>
    simp [abandon, Draft.teardown_after, hfirst, hunder.teardown]

/-- A build at some point of its course is sound. -/
theorem At.sound (h : At first roll ended done left) (hfresh : left.draft.Fresh)
    (hfaultless : ∀ e ∈ roll, e.registration.Faultless) : left.Sound := by
  cases h with
  | between hroll =>
    refine .between hfresh fun e he => hfaultless e ?_
    rw [Draft.enrol_after, Draft.after_number] at he
    simp [hroll, he]
  | registering hroll hunder =>
    refine .registering hfresh hunder (hfaultless _ (by simp [hroll])) fun e he => hfaultless e ?_
    rw [Draft.enrol_after, Draft.after_number] at he
    simp [hroll, he]

/-! ## Teardown -/

variable {c : TimelineConfig} {r : Registry} {grid : ParticleGrid Float32}
  {moment : FrameContext} {queue : List Queued}

/-- **Teardown is the reverse of registration, finished or not.** At every
point of a build the hooks of the registrations that failed have run, each list
backwards. Giving the build up then runs those of the others backwards, the
registration under way first; and a command that it comes to, whatever frames
it has been shown in, runs those of all registrations that stood. -/
theorem Course.teardown_reversed (hqueue : Build.queue c r = .ok queue) (hfaultless : r.Faultless)
    (h : Course (start c grid moment queue) events left) :
    (∃ ended done, At (sharedDraft c grid moment) (Build.roll c grid moment queue) ended done left ∧
      (∀ e ∈ ended, e.Ends) ∧ torn events = Enrolment.undone ended ∧
      torn left.abandon
        = (Enrolment.kept ended ++ done.filterMap Action.teardown?).reverse) ∧
    ∀ patient, match (left.advance patient).outcome with
      | .suspended left' =>
        Course (start c grid moment queue) (events ++ (left.advance patient).events) left'
      | .finished command =>
        torn (events ++ (left.advance patient).events)
            = Enrolment.undone (Build.roll c grid moment queue) ∧
          ∀ frames, torn (command.after frames).tearDown
            = (Enrolment.kept (Build.roll c grid moment queue)).reverse
      | .crashed fault => patient = true ∧ fault = .endless := by
  have hroll : ∀ e ∈ Build.roll c grid moment queue, e.registration.Faultless :=
    fun e he => forall_enrol hqueue hfaultless he
  have hpoint : ∀ {events : List HookEvent} {left : Build},
      Course (start c grid moment queue) events left → ∃ ended done,
        At (sharedDraft c grid moment) (Build.roll c grid moment queue) ended done left ∧
        left.draft.Fresh ∧ (∀ e ∈ ended, e.Ends) ∧ torn events = Enrolment.undone ended := by
    intro events left h
    rw [start_eq] at h
    exact h.at (fresh_sharedDraft c grid moment) hroll
  obtain ⟨ended, done, hat, hfresh, hends, htorn⟩ := hpoint h
  refine ⟨⟨ended, done, hat, hends, htorn, hat.torn_abandon rfl⟩, fun patient => ?_⟩
  have horderly := (hat.sound hfresh hroll).advance patient
  have hadvance := h.advance patient
  cases houtcome : (left.advance patient).outcome with
  | suspended left' => simpa only [houtcome] using hadvance
  | crashed fault =>
    rw [houtcome] at horderly
    exact horderly
  | finished command =>
    simp only [houtcome] at hadvance
    obtain ⟨d, s, rfl, hlast⟩ := hadvance
    obtain ⟨all, _, hat', -, -, htorn'⟩ := hpoint hlast
    have hgiven := hat'.torn_abandon rfl
    -- Nothing is left to register, so the whole roll has ended.
    cases hat' with
    | between hall =>
      rw [Draft.enrol_nil, List.append_nil] at hall
      rw [List.filterMap_nil, List.append_nil] at hgiven
      rw [hall]
      refine ⟨htorn', fun frames => ?_⟩
      rw [DrawCommand.tearDown_after]
      exact hgiven

end Build

/-! ## Three registrations -/

/-- A registry of effects that put down two hooks each: one stands at once, one
waits in between, and one fails. -/
def Registry.tagging : Registry where
  effects := [
    { id := "Steady", displayName := "Steady", fields := []
      register := fun _ => { moves := [.act (.onTeardown "a"), .act (.onTeardown "b")] } },
    { id := "Waiting", displayName := "Waiting", fields := []
      register := fun _ =>
        { moves := [.act (.onTeardown "c"), .wait, .act (.onTeardown "d")] } },
    { id := "Failing", displayName := "Failing", fields := []
      register := fun _ =>
        { moves := [.act (.onTeardown "e"), .act (.onTeardown "f")]
          ending := .fails ⟨"Failing", "halfway"⟩ } }]

/-- A timeline with one instance of each. -/
def TimelineConfig.tagged : TimelineConfig where
  tracks := [
    [{ effectId := "Steady", timeBegin := 0, timeEnd := 1000 }],
    [{ effectId := "Waiting", timeBegin := 0, timeEnd := 1000 }],
    [{ effectId := "Failing", timeBegin := 0, timeEnd := 1000 }]]
  gridWidth := 1
  gridHeight := 1

theorem Registry.faultless_tagging : Registry.tagging.Faultless := by
  intro e he q
  simp only [tagging, List.mem_cons, List.not_mem_nil, or_false] at he
  rcases he with rfl | rfl | rfl <;>
    exact Registration.faultless_of_appends (of_decide_eq_true rfl) ⟨List.nodup_nil, List.nodup_nil⟩

theorem Registry.ends_tagging :
    ∀ e ∈ Registry.tagging.effects, ∀ q, (e.register q).ending ≠ .never := by
  intro e he q
  simp only [tagging, List.mem_cons, List.not_mem_nil, or_false] at he
  rcases he with rfl | rfl | rfl <;> simp

/-- What is left of a build that waits. -/
def BuildOutcome.left? : BuildOutcome → Option Build
  | suspended left => some left
  | finished _ | crashed _ => none

theorem BuildOutcome.left?_eq_some {o : BuildOutcome} {left : Build} :
    o.left? = some left ↔ o = .suspended left := by
  cases o <;> simp [left?]

namespace Build

/-- Given up where it waits, the build tears down three hooks backwards. Waited
for, it tears down those of the failure, and its command tears down four. -/
theorem Course.teardown_reversed_tagged :
    ∃ queue left command, Build.queue .tagged .tagging = .ok queue ∧
      (start .tagged .speck .first queue).poll.outcome = .suspended left ∧
      torn left.abandon = ["c", "b", "a"] ∧ left.finish.outcome = .finished command ∧
      torn ((start .tagged .speck .first queue).poll.events ++ left.finish.events) = ["f", "e"] ∧
      torn command.tearDown = ["d", "c", "b", "a"] := by
  have hcomputed : ((Build.queue .tagged .tagging).toOption.any fun queue =>
      let roll := Build.roll .tagged .speck .first queue
      Enrolment.undone roll == ["f", "e"] &&
        (Enrolment.kept roll).reverse == ["d", "c", "b", "a"] &&
        (start .tagged .speck .first queue).poll.outcome.left?.any fun left =>
          torn left.abandon == ["c", "b", "a"]) = true := by
    decide +kernel
  cases hqueue : Build.queue .tagged .tagging with
  | error e => simp [hqueue, Except.toOption] at hcomputed
  | ok queue =>
    simp only [hqueue, Except.toOption, Option.any_some, Option.any_eq_true,
      BuildOutcome.left?_eq_some, Bool.and_eq_true, beq_iff_eq] at hcomputed
    obtain ⟨⟨hundone, hkept⟩, left, houtcome, habandon⟩ := hcomputed
    have hleft : Left (start .tagged .speck .first queue) left := .later .here houtcome
    have hfaultless : ∀ e ∈ roll .tagged .speck .first queue, e.registration.Faultless :=
      fun e he => forall_enrol hqueue Registry.faultless_tagging he
    have hends : ∀ e ∈ roll .tagged .speck .first queue, e.Ends := fun e he =>
      forall_enrol hqueue (P := fun g => g.ending ≠ .never) Registry.ends_tagging he
    have hfinished : left.finish.outcome = _ := hleft.finish_outcome.symm.trans
      (congrArg Polled.outcome (start_finish (Stages.safe_of_faultless hfaultless) hends))
    have hbegins : Course (start .tagged .speck .first queue) []
        (start .tagged .speck .first queue) := .here
    have hwaits := (Course.teardown_reversed hqueue Registry.faultless_tagging hbegins).2 false
    rw [← poll] at hwaits
    simp only [houtcome] at hwaits
    have hlast := (Course.teardown_reversed hqueue Registry.faultless_tagging hwaits).2 true
    rw [← finish] at hlast
    simp only [hfinished] at hlast
    exact ⟨queue, left, _, rfl, houtcome, habandon, hfinished, hlast.1.trans hundone,
      (hlast.2 []).trans hkept⟩

end Build

end ParticleTimeline
