import Mathlib.Data.List.Chain
import Mathlib.Data.List.Nodup
import ParticleTimeline.Proofs.Clock.Operation
/-!
# How the events of a clock are delivered

Every operation hands out the whole queue or leaves it, and puts what it
queues behind it. So along a run the events that were handed out, followed by
those that are pending, are the events that were queued
(`ClockOperation.along_dispatched`), and what one operation hands out was
queued before it. Pauses and their ends take turns, since only a change is
queued (`ClockOperation.changes_alternate`).

Listeners get ascending ids and stand in the order they came
(`Clock.Enlisted`). A listener is told everything that is handed out from its
coming to its going, and nothing else (`ClockOperation.told_enlisted`,
`ClockOperation.told_unenlisted`). All this together is the bookkeeping of a
run (`ClockOperation.events_once_in_order`).
-/

namespace ParticleTimeline

namespace ClockOperation

variable {α : Type} [Scalar α]

/-! ## The queue -/

/-- **What is queued is handed out in order, or pending.** -/
theorem along_dispatched (ops : List (ClockOperation α)) (c : Clock α) :
    along dispatched ops c ++ (run ops c).pending = c.pending ++ along queued ops c := by
  induction ops generalizing c with
  | nil => simp
  | cons op ops ih =>
    rw [along_cons, run_cons, List.append_assoc, ih, ← List.append_assoc,
      dispatched_append_pending, along_cons, List.append_assoc]

omit [Scalar α] in
/-- An operation hands out no more than what was pending. -/
theorem dispatched_prefix_pending (op : ClockOperation α) (c : Clock α) :
    op.dispatched c <+: c.pending := by
  unfold dispatched
  split
  · exact List.prefix_rfl
  · exact List.nil_prefix

/-! ## Pauses -/

/-- The changes to a pause and back among some events. -/
def changes (events : List ClockEvent) : List ClockEvent := events.filter (· ≠ .wrapped)

theorem changes_append (events events' : List ClockEvent) :
    changes (events ++ events') = changes events ++ changes events' := List.filter_append ..

theorem changes_queued (op : ClockOperation α) (c : Clock α) :
    changes (op.queued c) =
      if op.leavesPaused c.paused = c.paused then []
        else [changeTo (op.leavesPaused c.paused)] := by
  cases op with
  | tick now => cases hpaused : c.paused <;> simp [queued, leavesPaused, changes, hpaused]
  | setPaused paused now =>
    cases paused <;> cases hpaused : c.paused <;>
      simp [queued, leavesPaused, changes, changeTo, hpaused]
  | _ => simp [queued, leavesPaused, changes]

/-- **Pauses and their ends take turns**, beginning with the one that the
clock is not in. -/
theorem changes_alternate (ops : List (ClockOperation α)) (c : Clock α) :
    (changes (along queued ops c)).IsChain (· ≠ ·) ∧
      (changes (along queued ops c)).head? ≠ some (changeTo c.paused) := by
  induction ops generalizing c with
  | nil => simp [changes]
  | cons op ops ih =>
    obtain ⟨hchain, hhead⟩ := ih (op.after c)
    rw [along_cons, changes_append, changes_queued]
    rw [after_paused] at hhead
    by_cases hsame : op.leavesPaused c.paused = c.paused
    · rw [hsame] at hhead
      simpa [hsame] using ⟨hchain, hhead⟩
    · -- The next change, if there is one, is away from what this one led to.
      have hother : changeTo (op.leavesPaused c.paused) ≠ changeTo c.paused := by
        cases hpaused : c.paused <;> cases hleft : op.leavesPaused c.paused <;>
          simp_all [changeTo]
      have hnext : ∀ event ∈ (changes (along queued ops (op.after c))).head?,
          changeTo (op.leavesPaused c.paused) ≠ event := by
        rintro event hevent rfl
        exact hhead hevent
      simp only [hsame, if_false, List.singleton_append, List.head?_cons]
      exact ⟨List.isChain_cons.2 ⟨hnext, hchain⟩, fun h => hother (Option.some.inj h)⟩

end ClockOperation

/-! ## Listeners -/

namespace Clock

variable {α : Type}

/-- Listeners stand in the order they came, and no id is given twice. -/
structure Enlisted (c : Clock α) : Prop where
  ordered : c.listeners.Pairwise (· < ·)
  fresh : ∀ id ∈ c.listeners, id < c.nextListener

theorem Enlisted.nodup {c : Clock α} (h : c.Enlisted) : c.listeners.Nodup :=
  h.ordered.imp Nat.ne_of_lt

theorem enlisted_ofPeriod [Scalar α] (period : α) : (ofPeriod period).Enlisted :=
  ⟨List.Pairwise.nil, by simp [ofPeriod]⟩

end Clock

/-- The events that a listener is told. -/
def told (id : Nat) (deliveries : List Delivery) : List ClockEvent :=
  (deliveries.filter (·.listener = id)).map Delivery.event

theorem told_append (id : Nat) (deliveries deliveries' : List Delivery) :
    told id (deliveries ++ deliveries') = told id deliveries ++ told id deliveries' := by
  simp [told]

theorem told_deliver {id : Nat} {listeners : List Nat} (h : listeners.Nodup) (event : ClockEvent) :
    told id (Clock.deliver listeners event) = if id ∈ listeners then [event] else [] := by
  induction listeners with
  | nil => rfl
  | cons listener listeners ih =>
    obtain ⟨hnew, hrest⟩ := List.nodup_cons.1 h
    have hlater := ih hrest
    simp only [told, Clock.deliver, List.map_cons] at hlater ⊢
    by_cases hid : listener = id
    · obtain rfl := hid
      rw [if_neg hnew] at hlater
      simp [hlater]
    · rw [List.filter_cons_of_neg (by simpa using hid), hlater]
      simp [Ne.symm hid]

/-- A listener is told each event once. -/
theorem told_flatMap_deliver {id : Nat} {listeners : List Nat} (h : listeners.Nodup)
    (events : List ClockEvent) :
    told id (events.flatMap (Clock.deliver listeners)) = if id ∈ listeners then events else [] := by
  induction events with
  | nil => simp [told]
  | cons event events ih =>
    rw [List.flatMap_cons, told_append, told_deliver h, ih]
    split <;> rfl

namespace ClockOperation

variable {α : Type} [Scalar α]

def isListen : ClockOperation α → Bool
  | .listen => true
  | _ => false

/-- Whether an operation removes a listener. -/
def removes (id : Nat) : ClockOperation α → Bool
  | .unlisten other => other = id
  | _ => false

variable {op : ClockOperation α} {ops earlier later : List (ClockOperation α)} {c : Clock α}
variable {id : Nat}

theorem after_listeners (op : ClockOperation α) (c : Clock α) :
    (op.after c).listeners =
      (c.listeners ++ if op.isListen then [c.nextListener] else []).filter (!op.removes ·) := by
  cases op with
  | tick now =>
    rw [after_tick]
    split <;> simp [isListen, removes, List.filter_true]
  | setPaused paused now =>
    rw [after_setPaused]
    split <;> simp [isListen, removes, List.filter_true]
  | unlisten id => simp [after, perform, Clock.unlisten, isListen, removes, eq_comm]
  | _ => simp [after, perform, Clock.seek, Clock.setPeriod, Clock.dispatch, Clock.listen,
      isListen, removes, List.filter_true]

theorem after_nextListener (op : ClockOperation α) (c : Clock α) :
    (op.after c).nextListener = c.nextListener + if op.isListen then 1 else 0 := by
  cases op with
  | tick now =>
    rw [after_tick]
    split <;> rfl
  | setPaused paused now =>
    rw [after_setPaused]
    split <;> rfl
  | _ => rfl

/-- Ids are given out in turn. -/
theorem run_nextListener (ops : List (ClockOperation α)) (c : Clock α) :
    (run ops c).nextListener = c.nextListener + ops.countP isListen := by
  induction ops generalizing c with
  | nil => rfl
  | cons op ops ih =>
    rw [run_cons, ih, after_nextListener, List.countP_cons]
    omega

theorem mem_after_listeners : id ∈ (op.after c).listeners ↔
    (id ∈ c.listeners ∨ op.isListen = true ∧ id = c.nextListener) ∧ op.removes id = false := by
  rw [after_listeners, List.mem_filter, List.mem_append]
  cases op.isListen <;> simp

theorem enlisted_after (h : c.Enlisted) (op : ClockOperation α) : (op.after c).Enlisted := by
  constructor
  · rw [after_listeners]
    refine List.Pairwise.filter _ (List.pairwise_append.2 ⟨h.ordered, ?_, ?_⟩)
    · split <;> simp
    · intro old hold new hnew
      have hnext : new = c.nextListener := by
        split at hnew <;> simp_all
      exact hnext ▸ h.fresh old hold
  · intro id hid
    have hbefore := (mem_after_listeners.1 hid).1
    rw [after_nextListener]
    rcases hbefore with hold | ⟨hlisten, rfl⟩
    · exact Nat.lt_add_right _ (h.fresh id hold)
    · simp [hlisten]

theorem enlisted_run (h : c.Enlisted) (ops : List (ClockOperation α)) : (run ops c).Enlisted := by
  induction ops generalizing c with
  | nil => exact h
  | cons op ops ih => exact ih (enlisted_after h op)

/-! ## What a listener is told -/

theorem told_deliveries (h : c.Enlisted) (id : Nat) (op : ClockOperation α) :
    told id (op.deliveries c) = if id ∈ c.listeners then op.dispatched c else [] := by
  rw [deliveries_eq, told_flatMap_deliver h.nodup]

/-- A listener that has gone is told nothing more. -/
theorem told_unenlisted (h : c.Enlisted) (hgone : id ∉ c.listeners) (hold : id < c.nextListener)
    (ops : List (ClockOperation α)) : told id (along deliveries ops c) = [] := by
  induction ops generalizing c with
  | nil => rfl
  | cons op ops ih =>
    have hstays : id ∉ (op.after c).listeners := by
      rw [mem_after_listeners]
      rintro ⟨hid | ⟨-, rfl⟩, -⟩
      · exact hgone hid
      · exact Nat.lt_irrefl _ hold
    have hlater := ih (enlisted_after h op) hstays
      (by rw [after_nextListener]; exact Nat.lt_add_right _ hold)
    rw [along_cons, told_append, told_deliveries h, if_neg hgone, hlater, List.append_nil]

/-- A listener that is yet to come is told nothing. -/
theorem told_unborn (h : c.Enlisted) (ops : List (ClockOperation α))
    (hid : c.nextListener + ops.countP isListen ≤ id) : told id (along deliveries ops c) = [] := by
  induction ops generalizing c with
  | nil => rfl
  | cons op ops ih =>
    have hnew : id ∉ c.listeners := fun hmem => by
      have := h.fresh id hmem
      omega
    have hlater := ih (enlisted_after h op) (by
      rw [List.countP_cons] at hid
      rw [after_nextListener]
      omega)
    rw [along_cons, told_append, told_deliveries h, if_neg hnew, hlater, List.append_nil]

/-- **A listener is told what is handed out until it goes.** -/
theorem told_enlisted (h : c.Enlisted) (hid : id ∈ c.listeners) (ops : List (ClockOperation α)) :
    told id (along deliveries ops c)
      = along dispatched (ops.takeWhile (!·.removes id)) c := by
  induction ops generalizing c with
  | nil => rfl
  | cons op ops ih =>
    rw [along_cons, told_append, told_deliveries h, if_pos hid, List.takeWhile_cons]
    cases hremoves : op.removes id with
    | false =>
      have hstays : id ∈ (op.after c).listeners := mem_after_listeners.2 ⟨.inl hid, hremoves⟩
      simp [ih (enlisted_after h op) hstays]
    | true =>
      have hgone : id ∉ (op.after c).listeners := by simp [mem_after_listeners, hremoves]
      have hold : id < (op.after c).nextListener := by
        rw [after_nextListener]
        exact Nat.lt_add_right _ (h.fresh id hid)
      -- To remove a listener is to hand nothing out.
      have hnothing : op.dispatched c = [] := by
        cases op <;> simp_all [removes, dispatched, dispatches]
      simp [hnothing, told_unenlisted (enlisted_after h op) hgone hold]

/-! ## The bookkeeping of a run -/

/-- What becomes of the events of a run, and what its listeners are told. -/
structure Bookkeeping (start : Clock α) (ops : List (ClockOperation α)) : Prop where
  /-- No event is lost or handed out twice, and none overtakes another. -/
  conserved : along dispatched ops start ++ (run ops start).pending = along queued ops start
  /-- What an operation hands out was queued by the operations before it. -/
  deferred : ∀ earlier op later, ops = earlier ++ op :: later →
    along dispatched (earlier ++ [op]) start <+: along queued earlier start
  /-- An operation tells one event after the other, and each one to the
  listeners in the order they came. -/
  inOrder : ∀ earlier op later, ops = earlier ++ op :: later →
    op.deliveries (run earlier start)
        = (op.dispatched (run earlier start)).flatMap
            (Clock.deliver (run earlier start).listeners) ∧
      (run earlier start).listeners.Pairwise (· < ·)
  /-- A listener gets the number of those who came before it as its id, and
  is told what is handed out from then on until it is removed. -/
  heard : ∀ earlier later, ops = earlier ++ .listen :: later →
    (run earlier start).listen.2 = earlier.countP isListen ∧
      told (run earlier start).listen.2 (along deliveries ops start)
        = along dispatched (later.takeWhile (!·.removes (run earlier start).listen.2))
            (run (earlier ++ [.listen]) start)
  /-- To remove a listener is to do nothing else. -/
  removed : ∀ earlier id later, ops = earlier ++ .unlisten id :: later →
    ((run earlier start).unlisten id).1
        = { run earlier start with listeners := (run earlier start).listeners.erase id } ∧
      ((run earlier start).unlisten id).2 = decide (id ∈ (run earlier start).listeners)
  /-- Pauses and their ends take turns, and a pause comes first. -/
  alternating : (changes (along queued ops start)).IsChain (· ≠ ·) ∧
    (changes (along queued ops start)).head? ≠ some .resumed

/-- **Every event is told exactly once, in order, and later than it was
queued**, whatever is done to a clock from the beginning. -/
theorem events_once_in_order (period : α) (ops : List (ClockOperation α)) :
    Bookkeeping (Clock.ofPeriod period) ops where
  conserved := along_dispatched ops (Clock.ofPeriod period)
  deferred earlier op later _ := by
    rw [along_append, along_cons, along_nil, List.append_nil]
    have hqueued := along_dispatched earlier (Clock.ofPeriod period)
    rw [← hqueued.trans (List.nil_append _)]
    exact (List.prefix_append_right_inj _).2 (dispatched_prefix_pending op _)
  inOrder earlier op later _ :=
    ⟨deliveries_eq op _, (enlisted_run (Clock.enlisted_ofPeriod period) earlier).ordered⟩
  heard earlier later hsplit := by
    have hstart := Clock.enlisted_ofPeriod period
    have hid : (run earlier (Clock.ofPeriod period)).listen.2 = earlier.countP isListen := by
      rw [Clock.listen, run_nextListener, Clock.ofPeriod, Nat.zero_add]
    have hcame : (run earlier (Clock.ofPeriod period)).listen.2
        ∈ (after .listen (run earlier (Clock.ofPeriod period))).listeners :=
      mem_after_listeners.2 ⟨.inr ⟨rfl, rfl⟩, rfl⟩
    have hbefore : told (run earlier (Clock.ofPeriod period)).listen.2
        (along deliveries earlier (Clock.ofPeriod period)) = [] :=
      told_unborn hstart earlier (by rw [hid, Clock.ofPeriod, Nat.zero_add])
    have hlater := told_enlisted (enlisted_after (enlisted_run hstart earlier) .listen) hcame later
    refine ⟨hid, ?_⟩
    rw [hsplit, along_append, told_append, along_cons, told_append, hbefore, hlater, run_append]
    rfl
  removed earlier id later _ := by
    have hnodup := (enlisted_run (Clock.enlisted_ofPeriod period) earlier).nodup
    refine ⟨?_, List.contains_eq_mem id _⟩
    simp only [Clock.unlisten, hnodup.erase_eq_filter, ne_eq, decide_not]
    rfl
  alternating := changes_alternate ops (Clock.ofPeriod period)

/-- Two rounds in one tick, a pause, and another round behind it. One listener
is there from the beginning until the clock goes on; another one comes during the
pause. -/
def laps : List (ClockOperation Float) := [
  .listen, .tick 0, .tick 2500000000, .setPaused true 2600000000, .tick 2700000000, .listen,
  .setPaused false 2800000000, .dispatch, .unlisten 0, .tick 3800000000]

/-- The first listener is told of the two rounds, of the pause and of its end, the
second one of its end alone; the last round is still to be told. -/
theorem events_once_in_order_laps :
    along queued laps (Clock.ofPeriod 1000)
        = [.wrapped, .wrapped, .paused, .resumed, .wrapped] ∧
      (run laps (Clock.ofPeriod 1000)).pending = [.wrapped] ∧
      told 0 (along deliveries laps (Clock.ofPeriod 1000))
        = [.wrapped, .wrapped, .paused, .resumed] ∧
      told 1 (along deliveries laps (Clock.ofPeriod 1000)) = [.resumed] := by
  have hbook := events_once_in_order 1000 laps
  have hdispatched : along dispatched laps (Clock.ofPeriod 1000)
      = [.wrapped, .wrapped, .paused, .resumed] := by decide +kernel
  have hpending : (run laps (Clock.ofPeriod 1000)).pending = [.wrapped] := by decide +kernel
  have hqueued := hbook.conserved
  rw [hdispatched, hpending] at hqueued
  -- The second listener is the one that comes behind five operations.
  obtain ⟨hfirst, htoldFirst⟩ := hbook.heard [] (laps.drop 1) rfl
  obtain ⟨hsecond, htoldSecond⟩ := hbook.heard (laps.take 5) (laps.drop 6) rfl
  have hzero : ([] : List (ClockOperation Float)).countP isListen = 0 := rfl
  have hone : (laps.take 5).countP isListen = 1 := rfl
  rw [hfirst, hzero] at htoldFirst
  rw [hsecond, hone] at htoldSecond
  exact ⟨hqueued.symm, hpending, htoldFirst.trans (by decide +kernel),
    htoldSecond.trans (by decide +kernel)⟩

end ClockOperation

end ParticleTimeline
