import ParticleTimeline.Draw.Build
import ParticleTimeline.Proofs.Effect.Contribution
/-!
# The roll of a build

What a build asks of its effects does not depend on how far it has got or on
what became of the registrations before: the requests are fixed by the
queue, the timeline, the grid and the moment. The roll lists the instances
with their numbers and with what their effects do (`Draft.enrol`). Each
enrolment says what its registration leaves behind once it has ended: entries
in both tables, hooks, events and reports, and sources that it has changed
(`Enrolment.change`). A registration that takes back only what is its own
leaves a block of text in each of them (`Enrolment.change_of_local`).
-/

namespace ParticleTimeline

/-- An instance as a build registers it: its number, and what its effect
does. -/
structure Enrolment where
  subject : EffectInstance
  number : Nat
  registration : Registration

namespace Draft

/-- What a build asks the effect of an instance under a number. -/
def request (d : Draft) (number : Nat) (subject : EffectInstance) : Request where
  subject
  timeline := d.timeline
  grid := d.grid
  moment := d.moment
  number

/-- The enrolment of an instance under a number. -/
def enrolment (d : Draft) (number : Nat) (q : Queued) : Enrolment where
  subject := q.subject
  number
  registration := q.effect.register (d.request number q.subject)

/-- The roll of a queue, numbered from a number on. -/
def enrol (d : Draft) : Nat → List Queued → List Enrolment
  | _, [] => []
  | n, q :: rest => d.enrolment n q :: d.enrol (n + 1) rest

@[simp] theorem enrol_nil (d : Draft) (n : Nat) : d.enrol n [] = [] := rfl

theorem getElem?_enrol (d : Draft) (n k : Nat) (queue : List Queued) :
    (d.enrol n queue)[k]? = queue[k]?.map (d.enrolment (n + k)) := by
  induction queue generalizing n k with
  | nil => simp
  | cons q rest ih =>
    cases k with
    | zero => simp [enrol]
    | succ k => simp [enrol, ih, Nat.add_comm, Nat.add_left_comm]

/-- Numbers are given out in order. -/
theorem le_number_of_mem_enrol {d : Draft} {n : Nat} {queue : List Queued} {e : Enrolment}
    (h : e ∈ d.enrol n queue) : n ≤ e.number := by
  induction queue generalizing n with
  | nil => simp at h
  | cons q rest ih =>
    rcases List.mem_cons.1 h with rfl | h
    · exact Nat.le_refl _
    · have := ih h
      omega

theorem mem_enrol {d : Draft} {n : Nat} {queue : List Queued} {e : Enrolment}
    (h : e ∈ d.enrol n queue) :
    ∃ q ∈ queue, e.subject = q.subject ∧
      e.registration = q.effect.register (d.request e.number q.subject) := by
  induction queue generalizing n with
  | nil => simp at h
  | cons q rest ih =>
    rcases List.mem_cons.1 h with rfl | h
    · exact ⟨q, List.mem_cons_self, rfl, rfl⟩
    · obtain ⟨q', hq', hrest⟩ := ih h
      exact ⟨q', List.mem_cons_of_mem _ hq', hrest⟩

/-- No two registrations have one number. -/
theorem pairwise_enrol (d : Draft) (n : Nat) (queue : List Queued) :
    (d.enrol n queue).Pairwise fun e f => e.number ≠ f.number := by
  induction queue generalizing n with
  | nil => exact .nil
  | cons q rest ih =>
    refine .cons (fun f hf => ?_) (ih (n + 1))
    have hlater := le_number_of_mem_enrol hf
    simp only [enrolment, ne_eq]
    omega

end Draft

/-! ## The queue of a timeline -/

theorem Registry.mem_of_get {r : Registry} {id : String} {e : Effect} (h : r.get id = .ok e) :
    e ∈ r.effects := by
  unfold get at h
  split at h
  · rename_i found hfind
    obtain rfl := Except.ok.inj h
    exact List.mem_of_find?_eq_some hfind
  · simp at h

namespace Build

/-- Looking up the effects of some instances. -/
theorem mapM_get_eq_ok {r : Registry} {is : List EffectInstance} {queue : List Queued} :
    (is.mapM fun subject => (do return { subject, effect := ← r.get subject.effectId } :
        Except ConfigError Queued)) = .ok queue ↔
      queue.map Queued.subject = is ∧ ∀ q ∈ queue, r.get q.subject.effectId = .ok q.effect := by
  induction is generalizing queue with
  | nil => cases queue <;> simp [pure, Except.pure]
  | cons i is ih =>
    rw [List.mapM_cons]
    constructor
    · intro h
      cases hget : r.get i.effectId with
      | error e => simp [hget, bind, Except.bind] at h
      | ok effect =>
        cases hrest : is.mapM fun subject => (do
            return { subject, effect := ← r.get subject.effectId } : Except ConfigError Queued) with
        | error e =>
          rw [hrest, hget] at h
          cases h
        | ok tail =>
          rw [hrest, hget] at h
          have hqueue : { subject := i, effect } :: tail = queue := Except.ok.inj h
          obtain ⟨hsubjects, hall⟩ := ih.1 hrest
          subst hqueue
          simpa [hsubjects, hget] using hall
    · rintro ⟨hsubjects, hall⟩
      cases queue with
      | nil => simp at hsubjects
      | cons q queue =>
        simp only [List.map_cons, List.cons.injEq] at hsubjects
        obtain ⟨rfl, htail⟩ := hsubjects
        have hrest := ih.2 ⟨htail, fun q' hq' => hall q' (List.mem_cons_of_mem _ hq')⟩
        rw [hrest, hall q List.mem_cons_self]
        rfl

/-- **What is queued** are the instances in build order, each with the effect
of its id. -/
theorem queue_eq_ok {c : TimelineConfig} {r : Registry} {queue : List Queued} :
    Build.queue c r = .ok queue ↔
      c.validate = .ok () ∧ queue.map Queued.subject = c.instances ∧
        ∀ q ∈ queue, r.get q.subject.effectId = .ok q.effect := by
  rw [← mapM_get_eq_ok, Build.queue]
  cases c.validate with
  | error e => simp [bind, Except.bind]
  | ok _ => simp [bind, Except.bind]

/-- Whatever holds of all effects whatever they are asked holds of every
registration of a build. -/
theorem forall_enrol {c : TimelineConfig} {r : Registry} {queue : List Queued}
    (hqueue : Build.queue c r = .ok queue) {P : Registration → Prop}
    (h : ∀ e ∈ r.effects, ∀ q : Request, P (e.register q)) {d : Draft} {n : Nat} {e : Enrolment}
    (he : e ∈ d.enrol n queue) : P e.registration := by
  obtain ⟨q, hq, -, hregistration⟩ := Draft.mem_enrol he
  have hget := (queue_eq_ok.1 hqueue).2.2 q hq
  rw [hregistration]
  exact h _ (Registry.mem_of_get hget) _

end Build

namespace Enrolment

def actions (e : Enrolment) : List Action := e.registration.actions

/-- Whether the registration ends well. -/
def stands (e : Enrolment) : Bool :=
  match e.registration.ending with
  | .succeeds => true
  | .fails _ | .never => false

/-- The failure of a registration that fails. -/
def failure? (e : Enrolment) : Option EffectError :=
  match e.registration.ending with
  | .fails error => some error
  | .succeeds | .never => none

/-- Whether the registration ends at all. -/
def Ends (e : Enrolment) : Prop := e.registration.ending ≠ .never

instance : DecidablePred Ends := fun e =>
  match h : e.registration.ending with
  | .never => isFalse fun hends => hends h
  | .succeeds | .fails _ => isTrue fun hnever => nomatch h.symm.trans hnever

end Enrolment

/-! ## Guards -/

namespace EffectInstance

/-- What a guard asks, up to the brace that it opens. -/
def condition (i : EffectInstance) : String :=
  "if (" ++ FloatText.plain i.timeBegin ++ " <= globalTime && globalTime <= "
    ++ FloatText.plain i.timeEnd ++ ") "

theorem guard_eq (i : EffectInstance) : i.guard = i.condition ++ "\x7b" := by
  simp only [guard, condition, String.append_assoc]
  rfl

end EffectInstance

namespace Enrolment

/-- The line that opens the block of the instance. -/
def opening (e : Enrolment) : String := ShaderSource.endLine e.subject.guard

theorem opening_eq (e : Enrolment) : e.opening = e.subject.guard ++ "\n" := by
  have hlast : (e.subject.condition ++ "\x7b").toList.getLast? ≠ some '\n' := by simp
  rw [opening, EffectInstance.guard_eq, ShaderSource.endLine, if_neg hlast]

/-! ## What it leaves behind -/

/-- The entries for the table of uniforms. -/
def uniforms (e : Enrolment) : List (String × Entry Uniform) :=
  if e.stands then Allocator.entries ⟨some e.number, e.actions.filterMap Action.uniform?⟩ else []

/-- The entries for the table of attributes. -/
def attributes (e : Enrolment) : List (String × Entry Attribute) :=
  if e.stands then Allocator.entries ⟨some e.number, e.actions.filterMap Action.attribute?⟩ else []

/-- The hooks that the command takes over. -/
def hooks (e : Enrolment) : HookList := if e.stands then Action.hooks e.actions else {}

/-- The hooks that run because the registration failed. -/
def events (e : Enrolment) : List HookEvent :=
  if e.stands then [] else (Action.hooks e.actions).tearDown

/-- The line that closes a block. -/
def closing : String := ShaderSource.endLine "\x7d"

/-- The sources when the block of the registration has been closed, from what
they were when it had been opened: with its contribution, or rolled back and
with the mark of a failure. -/
def close (e : Enrolment) (s : Stages) : Stages :=
  let left := ((Workspace.new s).after e.actions).stages
  if e.stands then
    ((left.addMain "\x7d").extend (.only .uniforms (Allocator.declarations .uniform e.uniforms))
      (.only .uniforms (Allocator.declarations .uniform e.uniforms))).extend
        (.only .attributes (Allocator.declarations .attr e.attributes)) .blank
  else (left.rollback s.marks).1.addMain (Build.failureMark e.subject)

/-- The sources with the block of the registration, opened and closed. -/
def change (e : Enrolment) (s : Stages) : Stages := e.close (s.addMain e.subject.guard)

/-! ## Blocks -/

/-- What follows the opening line in a stage: the contribution and the
closing line, or what marks a failure. -/
def inside (e : Enrolment) (stage : ShaderStage) : Sections String :=
  if e.stands then
    Action.texts stage e.actions ++ .only .body closing
      ++ .only .uniforms (Allocator.declarations .uniform e.uniforms)
      ++ if stage = .vertex then .only .attributes (Allocator.declarations .attr e.attributes)
        else .blank
  else .only .body (ShaderSource.endLine (Build.failureMark e.subject))

/-- All that the registration puts into a stage. -/
def block (e : Enrolment) (stage : ShaderStage) : Sections String :=
  .only .body e.opening ++ e.inside stage

/-- **A registration that takes back only what is its own** leaves a block
behind what was there. -/
theorem close_of_local {e : Enrolment} (hlocal : ∀ a ∈ e.actions, a.Local) (s : Stages) :
    e.close s = s.extend (e.inside .vertex) (e.inside .fragment) := by
  simp only [close, inside, closing]
  split
  · simp only [Workspace.stages_after hlocal, Stages.addMain_eq_extend, Stages.extend_extend,
      if_true, reduceCtorEq, if_false, Sections.append_blank]
  · rw [Workspace.rollback_of_local hlocal, Stages.addMain_eq_extend]

theorem change_of_local {e : Enrolment} (hlocal : ∀ a ∈ e.actions, a.Local) (s : Stages) :
    e.change s = s.extend (e.block .vertex) (e.block .fragment) := by
  rw [change, close_of_local hlocal, Stages.addMain_eq_extend, Stages.extend_extend]
  rfl

end Enrolment

/-! ## A draft after some registrations -/

namespace HookList

@[ext] theorem ext_lists {g h : HookList} (hf : g.frame = h.frame) (ht : g.teardown = h.teardown) :
    g = h := by
  cases g
  cases h
  simp_all

@[simp] theorem append_frame (g h : HookList) : (g ++ h).frame = g.frame ++ h.frame := rfl

@[simp] theorem append_teardown (g h : HookList) : (g ++ h).teardown = g.teardown ++ h.teardown :=
  rfl

/-- The hooks of many lists, in order. -/
def concat (hs : List HookList) : HookList where
  frame := hs.flatMap HookList.frame
  teardown := hs.flatMap HookList.teardown

end HookList

namespace Draft

/-- The draft when the registrations of a roll have ended. -/
def after (d : Draft) (es : List Enrolment) : Draft :=
  { d with
    uniforms := Table.insertAll (es.flatMap Enrolment.uniforms) d.uniforms
    attributes := Table.insertAll (es.flatMap Enrolment.attributes) d.attributes
    hooks := d.hooks ++ HookList.concat (es.map Enrolment.hooks)
    number := d.number + es.length }

@[simp] theorem after_nil (d : Draft) : d.after [] = d := by
  obtain ⟨_, _, _, _, _, ⟨_, _⟩, _⟩ := d
  simp only [after, HookList.concat, List.flatMap_nil, List.map_nil, Table.insertAll_nil]
  congr 1
  ext1 <;> simp

theorem after_cons (d : Draft) (e : Enrolment) (es : List Enrolment) :
    d.after (e :: es) = (d.after [e]).after es := by
  simp only [after, List.flatMap_cons, List.flatMap_nil, List.append_nil, Table.insertAll_append,
    List.length_cons, List.length_nil, List.map_cons, List.map_nil, HookList.concat]
  congr 1
  · ext1 <;> simp
  · omega

@[simp] theorem after_timeline (d : Draft) (es : List Enrolment) :
    (d.after es).timeline = d.timeline := rfl

@[simp] theorem after_number (d : Draft) (es : List Enrolment) :
    (d.after es).number = d.number + es.length := rfl

@[simp] theorem enrolment_after (d : Draft) (es : List Enrolment) (n : Nat) (q : Queued) :
    (d.after es).enrolment n q = d.enrolment n q := rfl

/-- Whatever has been registered, the rest of the roll stays what it was. -/
@[simp] theorem enrol_after (d : Draft) (es : List Enrolment) (n : Nat) (queue : List Queued) :
    (d.after es).enrol n queue = d.enrol n queue := by
  -- A request is about the timeline, the grid and the moment, which no registration changes.
  induction queue generalizing n with
  | nil => rfl
  | cons q rest ih => simp only [enrol, ih, enrolment_after]

end Draft

namespace Stages

variable {s : Stages} {es : List Enrolment}

/-- The sources when the registrations of a roll have ended. -/
def after (s : Stages) (es : List Enrolment) : Stages := es.foldl (fun s e => e.change s) s

/-- No registration of a roll faults that begins with these sources. -/
def Safe : Stages → List Enrolment → Prop
  | _, [] => True
  | s, e :: es => e.registration.Careful (s.addMain e.subject.guard) ∧ Safe (e.change s) es

@[simp] theorem after_nil (s : Stages) : s.after [] = s := rfl

@[simp] theorem after_cons (s : Stages) (e : Enrolment) (es : List Enrolment) :
    s.after (e :: es) = (e.change s).after es := rfl

theorem safe_of_faultless (h : ∀ e ∈ es, e.registration.Faultless) : s.Safe es := by
  induction es generalizing s with
  | nil => trivial
  | cons e es ih =>
    exact ⟨h e List.mem_cons_self _, ih fun f hf => h f (List.mem_cons_of_mem _ hf)⟩

theorem Safe.once (h : s.Safe es) : ∀ e ∈ es, Action.BindsOnce e.actions := by
  induction es generalizing s with
  | nil => simp
  | cons e es ih => exact List.forall_mem_cons.2 ⟨h.1.once, ih h.2⟩

/-- A roll that takes back only what is its own and binds no name twice is safe
over any sources, if it is over none. -/
theorem safe_iff_of_local (hlocal : ∀ e ∈ es, ∀ a ∈ e.actions, a.Local)
    (honce : ∀ e ∈ es, Action.BindsOnce e.actions) :
    s.Safe es ↔ ∀ e ∈ es, (Workspace.new .empty).Faultless e.actions := by
  induction es generalizing s with
  | nil => simp [Safe]
  | cons e es ih =>
    have hrest := ih (s := e.change s) (fun f hf => hlocal f (List.mem_cons_of_mem _ hf))
      fun f hf => honce f (List.mem_cons_of_mem _ hf)
    have hhead := hlocal e List.mem_cons_self
    rw [Safe, hrest, List.forall_mem_cons]
    refine and_congr_left fun _ => ⟨fun hcareful => ?_, fun huncut => ?_⟩
    · exact (Workspace.faultless_new hhead _).1 hcareful.uncut
    · exact Registration.careful_of_local hhead (honce e List.mem_cons_self)
        ((Workspace.faultless_new hhead _).2 huncut)

/-- A roll that only adds is safe if it binds no name twice. -/
theorem safe_of_appends (happends : ∀ e ∈ es, ∀ a ∈ e.actions, a.Appends) :
    s.Safe es ↔ ∀ e ∈ es, Action.BindsOnce e.actions :=
  ⟨Safe.once, fun honce => safe_of_faultless fun e he =>
    Registration.faultless_of_appends (happends e he) (honce e he)⟩

/-- **A roll that takes back only what is its own** leaves one block for each
enrolment. -/
theorem after_of_local (hlocal : ∀ e ∈ es, ∀ a ∈ e.actions, a.Local) (s : Stages) :
    s.after es
      = s.extend (.concat (es.map (·.block .vertex))) (.concat (es.map (·.block .fragment))) := by
  induction es generalizing s with
  | nil => exact (extend_blank s).symm
  | cons e es ih =>
    have hrest := ih fun f hf => hlocal f (List.mem_cons_of_mem _ hf)
    rw [after_cons, hrest, Enrolment.change_of_local (hlocal e List.mem_cons_self), extend_extend]
    rfl

end Stages

end ParticleTimeline
