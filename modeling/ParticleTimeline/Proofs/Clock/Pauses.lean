import ParticleTimeline.Proofs.Clock.Operation
/-!
# How long a pause was

A clock looks at instants in two places only: a running clock takes the time
since its anchor, and the end of a pause sets the anchor. So nobody can tell
how long a pause was. Let a run happen again, with everything from the end of
a pause on later by one lag, and with other instants for whatever is done to
the clock while it is paused (`ClockOperation.Retimed`). The two clocks keep
step, with anchors one lag apart while they run (`Clock.Lags`,
`ClockOperation.perform_lags`). While they are paused their anchors do not
matter, which is why the lag can change there and nowhere else
(`Clock.Lags.relag`).
-/

namespace ParticleTimeline

/-! ## Clocks that keep step -/

namespace Clock

variable {α : Type}

/-- Clocks that are the same but for their anchors, which are one lag apart
while the clocks run. -/
structure Lags (lag : Nat) (c c' : Clock α) : Prop where
  same : c' = { c with anchor := c'.anchor }
  anchor : c.paused = false → c'.anchor = c.anchor.map (· + lag)

variable {lag : Nat} {c c' : Clock α}

theorem Lags.refl (c : Clock α) : Lags 0 c c := ⟨rfl, fun _ => by simp⟩

/-- While clocks are paused any lag will do. -/
theorem Lags.relag (h : Lags lag c c') (hpaused : c.paused = true) (lag' : Nat) :
    Lags lag' c c' :=
  ⟨h.same, fun hruns => by simp [hpaused] at hruns⟩

/-- The end of a pause sets the anchors, one lag apart. -/
theorem Lags.resume (h : Lags lag c c') (now : Nat) :
    Lags lag (c.resume now) (c'.resume (now + lag)) := by
  have hpaused : c'.paused = c.paused := by rw [h.same]
  unfold Clock.resume
  rw [hpaused]
  split
  · refine ⟨?_, fun _ => rfl⟩
    rw [h.same]
  · exact h

variable [Scalar α]

theorem Lags.elapsed (h : Lags lag c c') (hruns : c.paused = false) (now : Nat) :
    c'.elapsed (now + lag) = c.elapsed now := by
  unfold Clock.elapsed
  rw [h.anchor hruns]
  cases c.anchor with
  | none => rfl
  | some anchor =>
    simp only [Option.map_some, Nat.add_sub_add_right]

theorem Lags.course (h : Lags lag c c') (hruns : c.paused = false) (now : Nat) :
    c'.course (now + lag) = c.course now := by
  unfold Clock.course
  rw [h.elapsed hruns, h.same]

theorem Lags.pause (h : Lags lag c c') : Lags lag c.pause c'.pause := by
  have hpaused : c'.paused = c.paused := by rw [h.same]
  unfold Clock.pause
  rw [hpaused]
  split
  · exact h
  · refine ⟨?_, fun hruns => Bool.noConfusion hruns⟩
    rw [h.same]

end Clock

namespace ClockOperation

open Clock (Lags)

variable {α : Type}

/-! ## Runs that happen later -/

/-- An operation on a clock that is paused or not, and the same operation one
lag later. In a pause a tick may come at any time, and when a pause begins is
of no account. -/
inductive Delayed (lag : Nat) (paused : Bool) : ClockOperation α → ClockOperation α → Prop
  | tick (hruns : paused = false) (now : Nat) : Delayed lag paused (.tick now) (.tick (now + lag))
  | pausedTick (hpaused : paused = true) (now now' : Nat) :
      Delayed lag paused (.tick now) (.tick now')
  | pause (now now' : Nat) : Delayed lag paused (.setPaused true now) (.setPaused true now')
  | resume (now : Nat) :
      Delayed lag paused (.setPaused false now) (.setPaused false (now + lag))
  | seek (time : α) : Delayed lag paused (.seek time) (.seek time)
  | setPeriod (period : α) : Delayed lag paused (.setPeriod period) (.setPeriod period)
  | dispatch : Delayed lag paused .dispatch .dispatch
  | listen : Delayed lag paused .listen .listen
  | unlisten (id : Nat) : Delayed lag paused (.unlisten id) (.unlisten id)

variable [Scalar α]

/-- A run from some clock, and the same run one lag later. -/
inductive Retimed (lag : Nat) : Clock α → List (ClockOperation α) → List (ClockOperation α) → Prop
  | nil (c : Clock α) : Retimed lag c [] []
  | cons {c : Clock α} {op op' : ClockOperation α} {ops ops' : List (ClockOperation α)}
      (hop : Delayed lag c.paused op op') (hops : Retimed lag (op.after c) ops ops') :
      Retimed lag c (op :: ops) (op' :: ops')

variable {lag : Nat} {c c' : Clock α} {op op' : ClockOperation α}
variable {ops ops' : List (ClockOperation α)}

theorem Retimed.take (h : Retimed lag c ops ops') (k : Nat) :
    Retimed lag c (ops.take k) (ops'.take k) := by
  induction h generalizing k with
  | nil c => simpa using Retimed.nil c
  | @cons c op op' ops ops' hop hops ih =>
    cases k with
    | zero => exact .nil c
    | succ k => exact .cons hop (ih k)

/-- **An operation one lag later leaves clocks in step**, tells listeners the
same and faults alike. -/
theorem perform_lags (h : Lags lag c c') (hop : Delayed lag c.paused op op') :
    Lags lag (op.after c) (op'.after c') ∧ op'.deliveries c' = op.deliveries c ∧
      op'.faults c' = op.faults c := by
  have hpaused : c'.paused = c.paused := by rw [h.same]
  have hpending : c'.pending = c.pending := by rw [h.same]
  have hlisteners : c'.listeners = c.listeners := by rw [h.same]
  cases hop with
  | tick hruns now =>
    -- Both anchors are as far back, so the same time has passed.
    simp only [after, deliveries, faults, perform, Clock.tick_eq, hpaused, hruns, hpending,
      hlisteners, h.course hruns now, h.elapsed hruns now, Bool.false_eq_true, if_false]
    refine ⟨⟨?_, fun _ => rfl⟩, trivial, trivial⟩
    rw [h.same]
  | pausedTick hstill now now' =>
    simp only [after, deliveries, faults, perform, Clock.tick_eq, hpaused, hstill, hpending,
      hlisteners, if_true]
    refine ⟨⟨?_, fun hruns => Bool.noConfusion hruns⟩, trivial, trivial⟩
    rw [h.same]
  | pause now now' => exact ⟨h.pause, rfl, rfl⟩
  | resume now => exact ⟨h.resume now, rfl, rfl⟩
  | dispatch =>
    refine ⟨⟨?_, h.anchor⟩, ?_, rfl⟩
    · simp only [after, perform, Clock.dispatch]
      rw [h.same]
    · simp only [deliveries, perform, Clock.dispatch, hpending, hlisteners]
  | _ =>
    refine ⟨⟨?_, h.anchor⟩, rfl, rfl⟩
    simp only [after, perform, Clock.seek, Clock.setPeriod, Clock.listen, Clock.unlisten]
    rw [h.same]

/-- **Clocks keep step along a run.** -/
theorem run_lags (h : Lags lag c c') (hops : Retimed lag c ops ops') :
    Lags lag (run ops c) (run ops' c') ∧
      along deliveries ops' c' = along deliveries ops c ∧
      along faults ops' c' = along faults ops c := by
  induction hops generalizing c' with
  | nil c => exact ⟨h, rfl, rfl⟩
  | @cons c op op' ops ops' hop hops ih =>
    obtain ⟨hlags, htold, hfaults⟩ := perform_lags h hop
    obtain ⟨hlater, htoldLater, hfaultsLater⟩ := ih hlags
    simp only [run_cons, along_cons, htold, hfaults, htoldLater, hfaultsLater]
    exact ⟨hlater, trivial, trivial⟩

/-- **Nobody can tell how long a pause was.** A run is paused and goes on at
an instant. When it goes on one lag later, with everything after it as much
later, and with other instants for what is done in a pause, the clock is the
same at every later point but for its anchor; listeners are told the same,
and the same ticks fault. -/
theorem pause_length_unobservable {start : Clock α}
    {before before' later later' : List (ClockOperation α)} {now lag : Nat}
    (hpaused : (run before start).paused = true) (hbefore : Retimed 0 start before before')
    (hlater : Retimed lag (run (before ++ [.setPaused false now]) start) later later') (k : Nat) :
    let ops := before ++ .setPaused false now :: later.take k
    let ops' := before' ++ .setPaused false (now + lag) :: later'.take k
    run ops' start = { run ops start with anchor := (run ops' start).anchor } ∧
      along deliveries ops' start = along deliveries ops start ∧
      along faults ops' start = along faults ops start := by
  intro ops ops'
  obtain ⟨hlags, htold, hfaults⟩ := run_lags (.refl start) hbefore
  have hresumed : Retimed lag (run before start) (.setPaused false now :: later.take k)
      (.setPaused false (now + lag) :: later'.take k) := by
    rw [run_append] at hlater
    exact .cons (.resume now) (hlater.take k)
  obtain ⟨hlagsLater, htoldLater, hfaultsLater⟩ := run_lags (hlags.relag hpaused lag) hresumed
  refine ⟨?_, ?_, ?_⟩
  · rw [run_append, run_append]
    exact hlagsLater.same
  · rw [along_append, along_append, htold, htoldLater]
  · rw [along_append, along_append, hfaults, hfaultsLater]

/-- A pause of five nanoseconds becomes one of eight, and a later one begins
at another time; the clock and its listener go on alike. -/
theorem pause_length_unobservable_twice :
    let ops : List (ClockOperation Float) :=
      [.listen, .tick 0, .setPaused true 5, .tick 7, .setPaused false 10, .tick 30,
        .setPaused true 31, .tick 32, .setPaused false 40, .tick 50]
    let ops' : List (ClockOperation Float) :=
      [.listen, .tick 0, .setPaused true 6, .tick 2, .setPaused false 13, .tick 33,
        .setPaused true 99, .tick 0, .setPaused false 43, .tick 53]
    run ops' (.ofPeriod 1000)
        = { run ops (.ofPeriod 1000) with anchor := (run ops' (.ofPeriod 1000)).anchor } ∧
      along deliveries ops' (.ofPeriod 1000) = along deliveries ops (.ofPeriod 1000) ∧
      along faults ops' (.ofPeriod 1000) = along faults ops (.ofPeriod 1000) := by
  have hbefore : Retimed 0 (Clock.ofPeriod (1000 : Float))
      [.listen, .tick 0, .setPaused true 5, .tick 7]
      [.listen, .tick 0, .setPaused true 6, .tick 2] := by
    refine .cons .listen <| .cons (.tick rfl 0) <| .cons (.pause 5 6) <|
      .cons (.pausedTick ?_ 7 2) <| .nil _
    simp only [after_paused, leavesPaused]
  have hpaused : (run [.listen, .tick 0, .setPaused true 5, .tick 7]
      (Clock.ofPeriod (1000 : Float))).paused = true := by
    simp only [run_cons, run_nil, after_paused, leavesPaused]
  have hlater : Retimed 3
      (run ([.listen, .tick 0, .setPaused true 5, .tick 7] ++ [.setPaused false 10])
        (Clock.ofPeriod (1000 : Float)))
      [.tick 30, .setPaused true 31, .tick 32, .setPaused false 40, .tick 50]
      [.tick 33, .setPaused true 99, .tick 0, .setPaused false 43, .tick 53] := by
    refine .cons (.tick ?_ 30) <| .cons (.pause 31 99) <| .cons (.pausedTick ?_ 32 0) <|
      .cons (.resume 40) <| .cons (.tick ?_ 50) <| .nil _
    all_goals simp only [List.cons_append, List.nil_append, run_cons, run_nil, after_paused,
      leavesPaused]
  exact pause_length_unobservable hpaused hbefore hlater 5

end ClockOperation

end ParticleTimeline
