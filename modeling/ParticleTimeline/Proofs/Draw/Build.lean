import ParticleTimeline.Proofs.Draw.Enrolment
/-!
# What a build does with its roll

Registrations that do not fault themselves cannot disturb a build: identifiers
of different numbers differ, so nothing collides in the tables
(`Draft.Fresh`). A build is sound (`Build.Sound`) when it is in a state that
such registrations lead to. A sound build never faults (`Sound.advance`): it
finishes, or waits, or waits for ever. A build finishes just when all its
registrations end and none of them faults, and then what it comes to is known
from the roll alone (`finish_between`, `safe_of_finished`), however often the
build was polled before (`finish_of_poll`).
-/

namespace ParticleTimeline

/-! ## Numbers that have not been given out -/

namespace Draft

/-- No table has an identifier of a number that is still to come. -/
def Fresh (d : Draft) : Prop :=
  ∀ n x, d.number ≤ n →
    identifier (some n) x ∉ Table.names d.uniforms ∧
      identifier (some n) x ∉ Table.names d.attributes

end Draft

namespace Enrolment

theorem mem_names_uniforms {e : Enrolment} {name : String}
    (h : name ∈ Table.names e.uniforms) : ∃ x, name = identifier (some e.number) x := by
  unfold uniforms at h
  split at h
  · simp only [Table.names, Allocator.entries, List.map_map, List.mem_map] at h
    obtain ⟨b, -, rfl⟩ := h
    exact ⟨b.name, rfl⟩
  · simp [Table.names] at h

theorem mem_names_attributes {e : Enrolment} {name : String}
    (h : name ∈ Table.names e.attributes) : ∃ x, name = identifier (some e.number) x := by
  unfold attributes at h
  split at h
  · simp only [Table.names, Allocator.entries, List.map_map, List.mem_map] at h
    obtain ⟨b, -, rfl⟩ := h
    exact ⟨b.name, rfl⟩
  · simp [Table.names] at h

end Enrolment

theorem Draft.Fresh.after {d : Draft} {e : Enrolment} (h : d.Fresh)
    (hnumber : e.number = d.number) : (d.after [e]).Fresh := by
  intro n x hn
  simp only [Draft.after_number, List.length_cons, List.length_nil] at hn
  obtain ⟨hu, ha⟩ := h n x (by omega)
  simp only [Draft.after, List.flatMap_cons, List.flatMap_nil, List.append_nil,
    Table.mem_names_insertAll, not_or]
  refine ⟨⟨fun hin => ?_, hu⟩, ⟨fun hin => ?_, ha⟩⟩
  · obtain ⟨y, hy⟩ := Enrolment.mem_names_uniforms hin
    have := (identifier_injective hy).1
    omega
  · obtain ⟨y, hy⟩ := Enrolment.mem_names_attributes hin
    have := (identifier_injective hy).1
    omega

/-- The result of a poll behind what came to pass before it. -/
def Polled.since (p : Polled) (events : List HookEvent) (reports : List EffectError) : Polled :=
  { p with events := events ++ p.events, reports := reports ++ p.reports }

@[simp] theorem Polled.since_outcome (p : Polled) (events : List HookEvent)
    (reports : List EffectError) : (p.since events reports).outcome = p.outcome := rfl

@[simp] theorem Polled.since_nil (p : Polled) : p.since [] [] = p := rfl

theorem Polled.since_since (p : Polled) (events events' : List HookEvent)
    (reports reports' : List EffectError) :
    (p.since events reports).since events' reports'
      = p.since (events' ++ events) (reports' ++ reports) := by
  simp [since]

namespace Build

open ParticleTimeline.Action (BindsOnce)

variable {d : Draft} {s : Stages} {o : Ongoing} {e : Enrolment} {done : List Action}
variable {queue : List Queued} {patient : Bool}

/-! ## One registration -/

/-- The registration under way is one of the roll, of which some actions have
been made since its block was opened in the sources `s`. -/
structure Underway (d : Draft) (s : Stages) (e : Enrolment) (done : List Action) (o : Ongoing) :
    Prop where
  subject : o.subject = e.subject
  number : e.number = d.number
  marks : o.marks = s.marks
  contribution : o.contribution = .of ((Workspace.new s).after done) d.number done
  uncut : (Workspace.new s).Faultless done
  ending : o.ending = e.registration.ending
  actions : done ++ Move.actions o.moves = e.actions

theorem begin_underway (d : Draft) (s : Stages) (q : Queued) :
    Underway d (s.addMain q.subject.guard) (d.enrolment d.number q) [] (begin d s q) where
  subject := rfl
  number := rfl
  marks := rfl
  contribution := rfl
  uncut := trivial
  ending := rfl
  actions := rfl

/-- What a registration that ended well is taken over as. -/
theorem accept_of (hfresh : d.Fresh) (honce : BindsOnce e.actions) (hnumber : e.number = d.number)
    (hstands : e.stands = true) :
    accept d (.of ((Workspace.new s).after e.actions) d.number e.actions)
      = .ok (d.after [e], e.close s) := by
  have huniforms : e.uniforms
      = Allocator.entries ⟨some d.number, e.actions.filterMap Action.uniform?⟩ := by
    rw [Enrolment.uniforms, if_pos hstands, hnumber]
  have hattributes : e.attributes
      = Allocator.entries ⟨some d.number, e.actions.filterMap Action.attribute?⟩ := by
    rw [Enrolment.attributes, if_pos hstands, hnumber]
  -- The number is new, so its identifiers are.
  have hu := fun s => Allocator.flush_eq (s := s) (t := d.uniforms)
    (a := ⟨some d.number, e.actions.filterMap Action.uniform?⟩)
    (Allocator.nodup_identifiers honce.uniforms)
    fun b _ => (hfresh d.number b.name (Nat.le_refl _)).1
  have ha := fun s => Allocator.flush_eq (s := s) (t := d.attributes)
    (a := ⟨some d.number, e.actions.filterMap Action.attribute?⟩)
    (Allocator.nodup_identifiers honce.attributes)
    fun b _ => (hfresh d.number b.name (Nat.le_refl _)).2
  simp only [accept, Contribution.of, hu, ha, Allocator.declareIn_eq_extend, ← huniforms,
    ← hattributes]
  congr 2
  · simp only [Draft.after, List.flatMap_cons, List.flatMap_nil, List.append_nil, List.map_cons,
      List.map_nil, HookList.concat, Enrolment.hooks, if_pos hstands]
    rfl
  · simp only [Enrolment.close, if_pos hstands, Stages.extend, ShaderSource.extend_blank,
      Bindable.qualifier, Qualifier.place]

/-- What is made now goes on from what has been made. -/
theorem Underway.bindsOnce (h : Underway d s e done o) (honce : BindsOnce e.actions)
    (patient : Bool) : BindsOnce (done ++ Move.made patient o.moves) := by
  have hall := Move.made_append_actions patient o.moves
  rw [← h.actions, ← hall, ← List.append_assoc] at honce
  exact honce.of_append

/-- A careful registration cuts nothing, now or later. -/
theorem Underway.uncut_made (h : Underway d s e done o) (hcareful : e.registration.Careful s)
    (patient : Bool) :
    ((Workspace.new s).after done).Faultless (Move.made patient o.moves) := by
  have hall : (Workspace.new s).Faultless e.actions := hcareful.uncut
  rw [← h.actions, ← Move.made_append_actions patient o.moves, Workspace.faultless_append,
    Workspace.faultless_append] at hall
  exact hall.2.1

/-- What a run makes of the moves that are left. -/
theorem Underway.run (h : Underway d s e done o) (honce : BindsOnce e.actions)
    (huncut : ((Workspace.new s).after done).Faultless (Move.made patient o.moves)) :
    Contribution.run patient o.moves o.contribution =
      match Move.left? patient o.moves with
      | none => .ended (.of ((Workspace.new s).after (done ++ Move.made patient o.moves)) d.number
          (done ++ Move.made patient o.moves))
      | some rest => .waiting (.of ((Workspace.new s).after (done ++ Move.made patient o.moves))
          d.number (done ++ Move.made patient o.moves)) rest := by
  rw [h.contribution, Workspace.after_append]
  exact Contribution.run_of (h.bindsOnce honce patient) huncut

/-- **A registration that waits** is under way as before, with more of its
actions made. -/
theorem turn_waiting (h : Underway d s e done o) (honce : BindsOnce e.actions)
    (huncut : ((Workspace.new s).after done).Faultless (Move.made patient o.moves))
    {rest : List Move} (hleft : Move.left? patient o.moves = some rest) :
    ∃ o', turn patient d o = .suspended o' ∧
      Underway d s e (done ++ Move.made patient o.moves) o' := by
  have hrun := h.run honce huncut
  rw [hleft] at hrun
  refine ⟨{ o with
    contribution := .of ((Workspace.new s).after (done ++ Move.made patient o.moves)) d.number
      (done ++ Move.made patient o.moves)
    moves := rest }, ?_, ?_⟩
  · rw [turn, hrun]
  · exact { h with
      contribution := rfl
      uncut := Workspace.faultless_append.2 ⟨h.uncut, huncut⟩
      actions := by rw [List.append_assoc, Move.actions_of_left?_eq_some hleft, h.actions] }

/-- A run that is not held up ends with all actions made. -/
theorem run_ended (h : Underway d s e done o) (honce : BindsOnce e.actions)
    (huncut : (Workspace.new s).Faultless e.actions)
    (hleft : Move.left? patient o.moves = none) :
    Contribution.run patient o.moves o.contribution
      = .ended (.of ((Workspace.new s).after e.actions) d.number e.actions) := by
  have hmade : done ++ Move.made patient o.moves = e.actions := by
    rw [Move.made_of_left?_eq_none hleft, h.actions]
  rw [← hmade] at huncut
  rw [h.run honce (Workspace.faultless_append.1 huncut).2, hleft, hmade]

/-- **A registration that ends** closes its block, with its contribution or
with the mark of a failure. -/
theorem turn_closed (h : Underway d s e done o) (hcareful : e.registration.Careful s)
    (hfresh : d.Fresh) (hleft : Move.left? patient o.moves = none) (hends : e.Ends) :
    turn patient d o = .closed (d.after [e]) (e.close s) e.events e.failure?.toList := by
  rw [turn, run_ended h hcareful.once hcareful.uncut hleft]
  simp only [h.ending]
  cases hending : e.registration.ending with
  | succeeds =>
    have hstands : e.stands = true := by rw [Enrolment.stands, hending]
    simp only [accept_of hfresh hcareful.once h.number hstands, Enrolment.events,
      Enrolment.failure?, if_pos hstands, hending, Option.toList_none]
  | fails error =>
    have hstands : e.stands = false := by rw [Enrolment.stands, hending]
    have hfault : (((Workspace.new s).after e.actions).stages.rollback s.marks).2 = none :=
      hcareful.undone error hending
    have hclose : e.close s
        = (((Workspace.new s).after e.actions).stages.rollback s.marks).1.addMain
          (failureMark e.subject) := by
      simp [Enrolment.close, hstands]
    rw [hclose]
    generalize hroll : ((Workspace.new s).after e.actions).stages.rollback s.marks = rolled
      at hfault
    obtain ⟨stages, fault⟩ := rolled
    obtain rfl : fault = none := hfault
    simp only [h.marks, Contribution.of, hroll, Enrolment.events, Enrolment.failure?, hending,
      hstands, Option.toList_some, Bool.false_eq_true, if_false, h.subject]
    congr 1
    simp only [Draft.after, List.flatMap_cons, List.flatMap_nil, List.append_nil, List.map_cons,
      List.map_nil, HookList.concat, Enrolment.hooks, Enrolment.uniforms, Enrolment.attributes,
      hstands, Bool.false_eq_true, if_false, Table.insertAll_nil, List.length_cons,
      List.length_nil]
    congr 1
    ext1 <;> simp
  | never => exact absurd hending hends

/-- A registration that waits for ever is waited for, or asked again. -/
theorem turn_never (h : Underway d s e done o) (honce : BindsOnce e.actions)
    (huncut : (Workspace.new s).Faultless e.actions) (hleft : Move.left? patient o.moves = none)
    (hnever : ¬ e.Ends) :
    turn patient d o = (if patient then .crashed .endless (Action.hooks e.actions)
      else .suspended { o with
        contribution := .of ((Workspace.new s).after e.actions) d.number e.actions
        moves := [] }) := by
  have hending : o.ending = .never := by
    rw [h.ending]
    exact Classical.not_not.1 hnever
  rw [turn, run_ended h honce huncut hleft]
  simp only [hending]
  rfl

/-- A failure that cannot be rolled back. -/
theorem turn_stuck (h : Underway d s e done o) (honce : BindsOnce e.actions)
    (huncut : (Workspace.new s).Faultless e.actions) (hleft : Move.left? patient o.moves = none)
    {error : EffectError} (hfails : e.registration.ending = .fails error) {fault : Fault}
    (hstuck : (((Workspace.new s).after e.actions).stages.rollback s.marks).2 = some fault) :
    turn patient d o = .crashed .splitCharacter (Action.hooks e.actions) := by
  obtain rfl := Stages.eq_splitCharacter_of_rollback hstuck
  rw [turn, run_ended h honce huncut hleft]
  generalize hroll : ((Workspace.new s).after e.actions).stages.rollback s.marks = rolled at hstuck
  obtain ⟨stages, fault⟩ := rolled
  obtain rfl : fault = some .splitCharacter := hstuck
  simp only [h.ending, hfails, h.marks, Contribution.of, hroll]

/-- A registration that has ended is closed, unless its failure cannot be rolled
back. -/
theorem turn_ended (h : Underway d s e done o) (honce : BindsOnce e.actions) (hfresh : d.Fresh)
    (hfaultless : (Workspace.new s).Faultless e.actions)
    (hleft : Move.left? patient o.moves = none) (hends : e.Ends) :
    turn patient d o = .closed (d.after [e]) (e.close s) e.events e.failure?.toList ∨
      (¬ e.registration.Careful s ∧
        ∃ hooks, turn patient d o = .crashed .splitCharacter hooks) := by
  by_cases hcareful : e.registration.Careful s
  · exact .inl (turn_closed h hcareful hfresh hleft hends)
  -- Nothing but the rollback is left that can have gone wrong.
  have hundone : ¬ ∀ error, e.registration.ending = .fails error →
      (((Workspace.new s).after e.actions).stages.rollback s.marks).2 = none :=
    fun hundone => hcareful ⟨honce, hfaultless, hundone⟩
  simp only [Classical.not_forall] at hundone
  obtain ⟨error, hfails, hstuck⟩ := hundone
  obtain ⟨fault, hfault⟩ := Option.ne_none_iff_exists'.1 hstuck
  exact .inr ⟨hcareful, _, turn_stuck h honce hfaultless hleft hfails hfault⟩

/-- **What a turn can come to.** The registration under way waits, having made
more of its actions; or it is closed; or it is waited for and never ends; or it
has cut a character. -/
theorem Underway.turn_cases (h : Underway d s e done o) (honce : BindsOnce e.actions)
    (hfresh : d.Fresh) (patient : Bool) :
    (patient = false ∧ ∃ o' done', turn patient d o = .suspended o' ∧ Underway d s e done' o') ∨
      (e.Ends ∧
        turn patient d o = .closed (d.after [e]) (e.close s) e.events e.failure?.toList) ∨
      (patient = true ∧ turn patient d o = .crashed .endless (Action.hooks e.actions)) ∨
      (¬ e.registration.Careful s ∧
        ∃ hooks, turn patient d o = .crashed .splitCharacter hooks) := by
  by_cases huncut : ((Workspace.new s).after done).Faultless (Move.made patient o.moves)
  · have hfaultless : (Workspace.new s).Faultless (done ++ Move.made patient o.moves) :=
      Workspace.faultless_append.2 ⟨h.uncut, huncut⟩
    cases hleft : Move.left? patient o.moves with
    | some rest =>
      obtain ⟨o', hturn, hunder⟩ := turn_waiting h honce huncut hleft
      -- Only a poll is held up by a wait.
      have hpatient : patient = false := by
        cases patient with
        | true => simp at hleft
        | false => rfl
      exact .inl ⟨hpatient, o', _, hturn, hunder⟩
    | none =>
      rw [Move.made_of_left?_eq_none hleft, h.actions] at hfaultless
      by_cases hends : e.Ends
      · rcases turn_ended h honce hfresh hfaultless hleft hends with hclosed | hstuck
        · exact .inr (.inl ⟨hends, hclosed⟩)
        · exact .inr (.inr (.inr hstuck))
      have hturn := turn_never h honce hfaultless hleft hends
      cases patient with
      | true => exact .inr (.inr (.inl ⟨rfl, hturn⟩))
      | false =>
        exact .inl ⟨rfl, _, e.actions, hturn,
          { h with contribution := rfl, uncut := hfaultless, actions := List.append_nil _ }⟩
  · obtain ⟨c, hrun⟩ : ∃ c, Contribution.run patient o.moves
        (.of ((Workspace.new s).after done) d.number done) = .faulted c .splitCharacter :=
      Contribution.run_cut (h.bindsOnce honce patient) huncut
    rw [← h.contribution] at hrun
    exact .inr (.inr (.inr ⟨fun hcareful => huncut (h.uncut_made hcareful patient), c.hooks,
      by rw [turn, hrun]⟩))

/-- **A registration that is closed was careful**, and it ends. -/
theorem turn_closed_sound {d' : Draft} {s' : Stages} {events : List HookEvent}
    {reports : List EffectError} (h : Underway d s e [] o)
    (hturn : turn true d o = .closed d' s' events reports) :
    e.registration.Careful s ∧ e.Ends := by
  have hactions : Move.actions o.moves = e.actions := h.actions
  rw [turn] at hturn
  cases hrun : Contribution.run true o.moves o.contribution with
  | waiting c rest =>
    rw [hrun] at hturn
    cases hturn
  | faulted c fault =>
    rw [hrun] at hturn
    cases hturn
  | ended c =>
    have hall := hrun
    rw [h.contribution] at hall
    have hbegins : BindsOnce [] := ⟨List.nodup_nil, List.nodup_nil⟩
    obtain ⟨honce, huncut, rfl⟩ := Contribution.eq_of_run hbegins hall
    rw [List.nil_append, hactions] at honce
    rw [Workspace.after_nil, hactions] at huncut
    rw [hrun, Workspace.after_nil, List.nil_append, hactions] at hturn
    refine ⟨⟨honce, huncut, fun error hfails => ?_⟩, fun hnever => ?_⟩
    · simp only [h.ending, hfails, h.marks] at hturn
      cases hroll : (Contribution.of ((Workspace.new s).after e.actions) d.number
        e.actions).stages.rollback s.marks with
      | mk stages fault =>
        rw [hroll] at hturn
        cases fault with
        | none => exact congrArg Prod.snd hroll
        | some fault => cases hturn
    -- Waited for, a registration that never ends is a fault.
    · have hending : o.ending = .never := h.ending.trans hnever
      simp only [hending, if_true] at hturn
      cases hturn

/-! ## Whole builds -/

/-- Opening a block and going on is going on with the registration that has
been begun. -/
theorem advance_between_cons (patient : Bool) (q : Queued) (rest : List Queued) (d : Draft)
    (s : Stages) :
    (between (q :: rest) d s).advance patient
      = (registering rest d (begin d s q)).advance patient := rfl

theorem advance_registering (patient : Bool) (queue : List Queued) (d : Draft) (o : Ongoing) :
    (registering queue d o).advance patient =
      match turn patient d o with
      | .closed d s events reports => ((between queue d s).advance patient).since events reports
      | .suspended o => { outcome := .suspended (.registering queue d o) }
      | .crashed fault hooks => crash d fault hooks := rfl

/-- **Induction on what a build has still to do**: nothing, or a registration
and then whatever the rest of the queue is begun with. -/
@[elab_as_elim]
theorem induct {P : Build → Prop} (nil : ∀ d s, P (between [] d s))
    (begun : ∀ q rest d s, P (registering rest d (begin d s q)) → P (between (q :: rest) d s))
    (ongoing : ∀ queue d o, (∀ d' s', P (between queue d' s')) → P (registering queue d o))
    (b : Build) : P b := by
  have hbetween : ∀ queue d s, P (between queue d s) := by
    intro queue
    induction queue with
    | nil => exact nil
    | cons q rest ih => exact fun d s => begun q rest d s (ongoing rest d _ ih)
  cases b with
  | between queue d s => exact hbetween queue d s
  | registering queue d o => exact ongoing queue d o (hbetween queue)

/-! ## Builds of registrations of a kind -/

/-- A state that registrations of a kind lead to: what is under way and what is
still to come is of that kind, and what is under way has not faulted. -/
inductive Registers (P : Registration → Prop) : Build → Prop
  | between {queue : List Queued} {d : Draft} {s : Stages} (hfresh : d.Fresh)
      (hrest : ∀ e ∈ d.enrol d.number queue, P e.registration) :
      Registers P (.between queue d s)
  | registering {queue : List Queued} {d : Draft} {s : Stages} {o : Ongoing} {e : Enrolment}
      {done : List Action} (hfresh : d.Fresh) (hunder : Underway d s e done o)
      (hthis : P e.registration) (hrest : ∀ e ∈ d.enrol (d.number + 1) queue, P e.registration) :
      Registers P (.registering queue d o)

/-- A state that registrations lead to which do not fault. -/
abbrev Sound : Build → Prop := Registers Registration.Faultless

variable {P : Registration → Prop}

theorem Registers.begin {q : Queued} {rest : List Queued}
    (h : Registers P (.between (q :: rest) d s)) :
    Registers P (.registering rest d (Build.begin d s q)) := by
  cases h with
  | between hfresh hrest =>
    exact .registering hfresh (begin_underway d s q) (hrest _ List.mem_cons_self)
      fun e he => hrest e (List.mem_cons_of_mem _ he)

/-- **What a build can come to** whose registrations bind no name twice: what
waits goes on waiting as before; and it is waited for a registration that never
ends, or one has cut a character that may do so. Nothing collides. -/
theorem Registers.advance {b : Build} (h : b.Registers P)
    (honce : ∀ g, P g → BindsOnce g.actions) (patient : Bool) :
    match (b.advance patient).outcome with
    | .finished _ => True
    | .suspended left => patient = false ∧ left.Registers P
    | .crashed fault => patient = true ∧ fault = .endless ∨
      fault = .splitCharacter ∧ ∃ g, P g ∧ ¬ g.Faultless := by
  induction b using induct with
  | nil d s => trivial
  | begun q rest d s ih => exact ih h.begin
  | ongoing queue d o ih =>
    cases h with
    | @registering _ _ s _ e done hfresh hunder hthis hrest =>
      rw [advance_registering]
      rcases hunder.turn_cases (honce _ hthis) hfresh patient with
        ⟨hpatient, o', done', hturn, hunder'⟩ | ⟨hends, hturn⟩ | ⟨hpatient, hturn⟩ |
        ⟨hcareless, hooks, hturn⟩
      · rw [hturn]
        exact ⟨hpatient, .registering hfresh hunder' hthis hrest⟩
      -- The rest of the queue goes on as if it were a build of its own.
      · rw [hturn]
        refine ih _ _ (.between (hfresh.after hunder.number) ?_)
        simpa using hrest
      · rw [hturn]
        exact .inl ⟨hpatient, rfl⟩
      · rw [hturn]
        exact .inr ⟨rfl, _, hthis, fun hfaultless => hcareless (hfaultless s)⟩

/-- An outcome that no fault has brought about: what waits goes on waiting,
and is sound. -/
def Orderly (patient : Bool) : BuildOutcome → Prop
  | .finished _ => True
  | .suspended b => patient = false ∧ b.Sound
  | .crashed fault => patient = true ∧ fault = .endless

/-- **A sound build never faults.** -/
theorem Sound.advance {b : Build} (h : b.Sound) (patient : Bool) :
    Orderly patient (b.advance patient).outcome := by
  have hcomes := Registers.advance h (fun _ hfaultless => (hfaultless .empty).once) patient
  cases houtcome : (b.advance patient).outcome with
  | finished command => trivial
  | suspended left =>
    rw [houtcome] at hcomes
    exact hcomes
  | crashed fault =>
    rw [houtcome] at hcomes
    exact hcomes.resolve_right fun ⟨_, _, hfaultless, hnot⟩ => hnot hfaultless

/-! ## The command of a roll -/

/-- **A build whose registrations all end finishes**, if none of them faults,
and its command, the hooks that ran and the failures are read off the roll. -/
theorem finish_between (hfresh : d.Fresh) (hsafe : s.Safe (d.enrol d.number queue))
    (hends : ∀ e ∈ d.enrol d.number queue, e.Ends) :
    (between queue d s).finish =
      { outcome := .finished (assemble (d.after (d.enrol d.number queue))
          (s.after (d.enrol d.number queue)))
        events := (d.enrol d.number queue).flatMap Enrolment.events
        reports := (d.enrol d.number queue).filterMap Enrolment.failure? } := by
  induction queue generalizing d s with
  | nil => simp [finish, advance, proceed]
  | cons q rest ih =>
    have hunder := begin_underway d s q
    have hhead : d.enrolment d.number q ∈ d.enrol d.number (q :: rest) := List.mem_cons_self
    have hroll : d.enrol d.number (q :: rest)
        = d.enrolment d.number q :: d.enrol (d.number + 1) rest := rfl
    rw [hroll] at hsafe
    rw [finish, advance_between_cons, advance_registering,
      turn_closed hunder hsafe.1 hfresh (Move.left?_true _) (hends _ hhead)]
    have hlater := ih (d := d.after [d.enrolment d.number q])
      (s := (d.enrolment d.number q).change s) (hfresh.after rfl) (by simpa using hsafe.2)
      (by simpa using fun e he => hends e (List.mem_cons_of_mem _ he))
    rw [finish, ← Draft.after_cons] at hlater
    simp only [Draft.after_number, List.length_cons, List.length_nil, Draft.enrol_after,
      Nat.zero_add] at hlater
    have hchange : (d.enrolment d.number q).close (s.addMain q.subject.guard)
        = (d.enrolment d.number q).change s := rfl
    simp only [hchange, hlater, hroll, Polled.since, List.flatMap_cons, List.filterMap_cons,
      Stages.after_cons]
    cases (d.enrolment d.number q).failure? <;> rfl

/-- **A build that finishes** was faulted by none of its registrations, and all
of them have ended. -/
theorem safe_of_finished (hfresh : d.Fresh) {command : DrawCommand}
    (hfinished : (between queue d s).finish.outcome = .finished command) :
    s.Safe (d.enrol d.number queue) ∧ ∀ e ∈ d.enrol d.number queue, e.Ends := by
  induction queue generalizing d s with
  | nil => simp [Stages.Safe]
  | cons q rest ih =>
    have hunder := begin_underway d s q
    rw [finish, advance_between_cons, advance_registering] at hfinished
    cases hturn : turn true d (begin d s q) with
    | suspended o =>
      rw [hturn] at hfinished
      cases hfinished
    | crashed fault hooks =>
      rw [hturn] at hfinished
      cases hfinished
    | closed d' s' events reports =>
      obtain ⟨hcareful, hends⟩ := turn_closed_sound hunder hturn
      rw [turn_closed hunder hcareful hfresh (Move.left?_true _) hends] at hfinished
      obtain ⟨hsafe, hrest⟩ := ih (hfresh.after rfl) hfinished
      simp only [Draft.after_number, List.length_cons, List.length_nil, Draft.enrol_after,
        Nat.zero_add] at hsafe hrest
      exact ⟨⟨hcareful, hsafe⟩, List.forall_mem_cons.2 ⟨hends, hrest⟩⟩

/-! ## Polls and patience -/

theorem turn_patient (d : Draft) (o : Ongoing) :
    turn true d o =
      match turn false d o with
      | .suspended o => turn true d o
      | done => done := by
  unfold turn
  rw [Contribution.run_patient]
  cases hrun : Contribution.run false o.moves o.contribution with
  | ended c =>
    simp only
    cases o.ending with
    | succeeds => cases accept d c <;> simp
    | fails e => rcases hroll : c.stages.rollback o.marks with ⟨s, _ | fault⟩ <;> simp
    -- Asked again, a registration without moves waits as before.
    | never => simp [Contribution.run]
  | waiting c rest => simp
  | faulted c fault => simp

/-- **Polling does not change what a build comes to.** Sitting out every wait
gives what the poll gave, and then what sitting out the waits that are left
gives. -/
theorem finish_of_poll (b : Build) :
    b.finish =
      match b.poll.outcome with
      | .suspended left => left.finish.since b.poll.events b.poll.reports
      | _ => b.poll := by
  induction b using induct with
  | nil d s => rfl
  | begun q rest d s ih => exact ih
  | ongoing queue d o ih =>
    simp only [finish, poll, advance_registering] at ih ⊢
    rw [turn_patient]
    cases hturn : turn false d o with
    | closed d' s' events reports =>
      simp only [Polled.since_outcome]
      rw [ih d' s']
      cases houtcome : ((between queue d' s').advance false).outcome with
      | suspended left => simp only [Polled.since_since]; rfl
      | finished command => rfl
      | crashed fault => rfl
    | suspended o' => simp only [Polled.since_nil, advance_registering]
    | crashed fault hooks => rfl

/-! ## The beginning -/

/-- The draft that every build starts from. -/
def sharedDraft (c : TimelineConfig) (grid : ParticleGrid Float32) (moment : FrameContext) :
    Draft where
  timeline := c
  grid
  moment
  uniforms := Table.ofList (sharedUniforms c).entries
  attributes := Table.ofList (sharedAttributes grid).entries

/-- The sources that every build starts from: the shared declarations and the
prologue. -/
def sharedStages (c : TimelineConfig) (grid : ParticleGrid Float32) : Stages :=
  let uniforms := Sections.only .uniforms
    (Allocator.declarations .uniform (sharedUniforms c).entries)
  let attributes := Sections.only .attributes
    (Allocator.declarations .attr (sharedAttributes grid).entries)
  Shell.prologue c
    { vertex := (ShaderSource.empty .vertex).extend (uniforms ++ attributes)
      fragment := (ShaderSource.empty .fragment).extend uniforms }

theorem names_shared (c : TimelineConfig) (grid : ParticleGrid Float32) :
    Table.names (sharedUniforms c).entries
        = ["globalTime", "viewport", "particleSize", "invScreenAspectRatio", "background_color"] ∧
      Table.names (sharedAttributes grid).entries = ["texcoord", "rgb", "hsv"] :=
  ⟨rfl, rfl⟩

theorem start_eq (c : TimelineConfig) (grid : ParticleGrid Float32) (moment : FrameContext)
    (queue : List Queued) :
    start c grid moment queue
      = between queue (sharedDraft c grid moment) (sharedStages c grid) := by
  have hu := fun s => Allocator.flush_eq (a := sharedUniforms c) (s := s) (t := [])
    (by simp only [sharedUniforms, List.map_cons, List.map_nil, identifier]; decide)
    (by simp [Table.names])
  have ha := fun s => Allocator.flush_eq (a := sharedAttributes grid) (s := s) (t := [])
    (by simp only [sharedAttributes, List.map_cons, List.map_nil, identifier]; decide)
    (by simp [Table.names])
  simp only [start, hu, ha, Allocator.declareIn_eq_extend, ShaderSource.extend_extend]
  rfl

/-- The shared names are different, and as they end in letters no number can
make them. -/
theorem nodup_shared (c : TimelineConfig) (grid : ParticleGrid Float32) :
    (Table.names (sharedUniforms c).entries).Nodup ∧
      (Table.names (sharedAttributes grid).entries).Nodup := by
  rw [(names_shared c grid).1, (names_shared c grid).2]
  decide

theorem unnumbered_shared (c : TimelineConfig) (grid : ParticleGrid Float32) :
    (∀ name ∈ Table.names (sharedUniforms c).entries, Unnumbered name) ∧
      ∀ name ∈ Table.names (sharedAttributes grid).entries, Unnumbered name := by
  rw [(names_shared c grid).1, (names_shared c grid).2]
  decide

theorem fresh_sharedDraft (c : TimelineConfig) (grid : ParticleGrid Float32)
    (moment : FrameContext) : (sharedDraft c grid moment).Fresh := by
  intro n x _
  obtain ⟨hu, ha⟩ := unnumbered_shared c grid
  simp only [sharedDraft, ← Table.insertAll_eq_ofList, Table.mem_names_insertAll]
  refine ⟨fun hin => ?_, fun hin => ?_⟩
  · rcases hin with hin | hin
    · exact identifier_ne_of_unnumbered (hu _ hin) rfl
    · simp [Table.names] at hin
  · rcases hin with hin | hin
    · exact identifier_ne_of_unnumbered (ha _ hin) rfl
    · simp [Table.names] at hin

theorem registers_start {c : TimelineConfig} {grid : ParticleGrid Float32} {moment : FrameContext}
    {queue : List Queued}
    (h : ∀ e ∈ (sharedDraft c grid moment).enrol 0 queue, P e.registration) :
    (start c grid moment queue).Registers P := by
  rw [start_eq]
  exact .between (fresh_sharedDraft c grid moment) h

/-! ## What polls lead to -/

/-- What some polls, any number of them, leave of a build. -/
inductive Left (b : Build) : Build → Prop
  | here : Left b b
  | later {left rest : Build} (h : Left b left) (hpoll : left.poll.outcome = .suspended rest) :
      Left b rest

theorem Left.trans {b b' b'' : Build} (h : Left b b') (h' : Left b' b'') : Left b b'' := by
  induction h' with
  | here => exact h
  | later _ hpoll ih => exact .later ih hpoll

theorem Left.registers {b left : Build} (h : Left b left) (hregisters : b.Registers P)
    (honce : ∀ g, P g → BindsOnce g.actions) : left.Registers P := by
  induction h with
  | here => exact hregisters
  | later h hpoll ih =>
    have hcomes := ih.advance honce false
    rw [← poll, hpoll] at hcomes
    exact hcomes.2

theorem Left.sound {b left : Build} (h : Left b left) (hsound : b.Sound) : left.Sound :=
  h.registers hsound fun _ hfaultless => (hfaultless .empty).once

theorem Left.finish_outcome {b left : Build} (h : Left b left) :
    b.finish.outcome = left.finish.outcome := by
  induction h with
  | here => rfl
  | later h hpoll ih =>
    rw [ih, finish_of_poll, hpoll]
    rfl

end Build

end ParticleTimeline
